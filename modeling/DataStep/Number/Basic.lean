/-!
# Numbers

A number is a 64-bit binary floating-point datum. It is kept as its sign and the 63 bits below
the sign, read as a natural number: eleven bits of exponent above 52 bits of fraction. Among
data of one sign the order of magnitudes is the order of absolute values, so neighbouring
numbers have neighbouring magnitudes, and infinity is the least magnitude with a full exponent.

A finite number denotes `significand * 2 ^ scale`, with its sign. The sign of a zero and the sign
of a not-a-number are part of the datum; `Number.compare` tells them apart, and the arithmetic
comparisons of `DataStep.Number.Arithmetic` do not.
-/

set_option autoImplicit false

namespace DataStep

/-- A 64-bit binary floating-point datum: its sign and the other 63 bits, below `2 ^ 63`. -/
structure Number where
  /-- The sign bit. -/
  negative : Bool
  /-- Exponent and fraction bits as one natural number. -/
  magnitude : Nat
  magnitude_lt : magnitude < 0x8000000000000000
  deriving DecidableEq

namespace Number

/-- How many fractions one exponent holds, `2 ^ 52`. -/
abbrev fractions : Nat := 0x10000000000000

/-- The magnitude of infinity: every exponent bit set and no fraction. -/
abbrev infinityMagnitude : Nat := 0x7FF0000000000000

/-- A datum from its 64 bits, the sign on top. -/
def ofBits (bits : Nat) : Number :=
  ⟨bits / 0x8000000000000000 % 2 == 1, bits % 0x8000000000000000, Nat.mod_lt _ (by decide)⟩

/-- The 64 bits of a datum, the sign on top. -/
def toBits (x : Number) : Nat :=
  (if x.negative then 0x8000000000000000 else 0) + x.magnitude

/-- A zero of the given sign. -/
def zero (negative : Bool) : Number := ⟨negative, 0, by decide⟩

/-- An infinity of the given sign. -/
def infinity (negative : Bool) : Number := ⟨negative, infinityMagnitude, by decide⟩

/-- The quiet not-a-number of the given sign: infinity with the leading bit of the fraction. -/
def nan (negative : Bool) : Number := ⟨negative, 0x7FF8000000000000, by decide⟩

instance : Inhabited Number := ⟨zero false⟩

/-- Whether the datum is not a number. -/
def isNaN (x : Number) : Bool := decide (infinityMagnitude < x.magnitude)

/-- Whether the datum is an infinity. -/
def isInfinite (x : Number) : Bool := x.magnitude == infinityMagnitude

/-- Whether the datum is a finite number. -/
def isFinite (x : Number) : Bool := decide (x.magnitude < infinityMagnitude)

/-- Whether the datum is a zero of either sign. -/
def isZero (x : Number) : Bool := x.magnitude == 0

/-- The datum with its sign turned. -/
def neg (x : Number) : Number := { x with negative := !x.negative }

/-- The datum without its sign. -/
def abs (x : Number) : Number := { x with negative := false }

/-- The exponent bits. -/
def exponentBits (x : Number) : Nat := x.magnitude / fractions

/-- The whole number that a finite datum multiplies by a power of two. Below the least normal
exponent there is no leading one. -/
def significand (x : Number) : Nat :=
  if x.exponentBits = 0 then x.magnitude % fractions else fractions + x.magnitude % fractions

/-- The power of two by which a finite datum multiplies its significand. -/
def scale (x : Number) : Int := (max x.exponentBits 1 : Nat) - 1075

/-- The absolute value of a finite datum as a fraction `n / d`. -/
def ratio (x : Number) : Nat × Nat :=
  (x.significand <<< x.scale.toNat, 1 <<< (-x.scale).toNat)

/-- The place of a datum in the total order: negative data run downwards from `-1`. -/
def orderKey (x : Number) : Int :=
  if x.negative then -(x.magnitude + 1 : Int) else x.magnitude

/-- The total order of all data: negative not-a-number, negative infinity, negative numbers,
the two zeros, positive numbers, infinity, not-a-number. -/
def compare (x y : Number) : Ordering := Ord.compare x.orderKey y.orderKey

theorem ext_iff {x y : Number} :
    x = y ↔ x.negative = y.negative ∧ x.magnitude = y.magnitude := by
  cases x; cases y; simp

/-- Two data have one place in the order only if they are the same datum. -/
theorem orderKey_inj {x y : Number} (h : x.orderKey = y.orderKey) : x = y := by
  rw [ext_iff]
  unfold orderKey at h
  cases hx : x.negative <;> cases hy : y.negative <;> simp [hx, hy] at h ⊢ <;> omega

theorem ofBits_toBits (x : Number) : ofBits x.toBits = x := by
  have hlt := x.magnitude_lt
  rw [ext_iff]
  cases hx : x.negative
  · have hb : x.toBits = x.magnitude := by simp [toBits, hx]
    have hm : (ofBits x.toBits).magnitude = x.magnitude := by
      simp only [ofBits, hb]; omega
    have hq : x.magnitude / 0x8000000000000000 % 2 = 0 := by omega
    refine ⟨?_, hm⟩
    simp only [ofBits, hb, hq]; rfl
  · have hb : x.toBits = 0x8000000000000000 + x.magnitude := by simp [toBits, hx]
    have hm : (ofBits x.toBits).magnitude = x.magnitude := by
      simp only [ofBits, hb]; omega
    have hq : (0x8000000000000000 + x.magnitude) / 0x8000000000000000 % 2 = 1 := by omega
    refine ⟨?_, hm⟩
    simp only [ofBits, hb, hq]; rfl

end Number

end DataStep
