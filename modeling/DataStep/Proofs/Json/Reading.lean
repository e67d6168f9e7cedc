import DataStep.Proofs.Json.Numeral
import DataStep.Proofs.Number.Exact

/-!
# Reading numbers in JSON text

A numeral whose digits form a whole number of 64 bits is read as this number, rounded and then
multiplied or divided by a power of ten (`readNumber_chars`). So a natural number of 64 bits is
within the range (`isSome_readNumber_digitsOf`), and where both factors are exact the reader rounds
only once. Main statement: a number of few digits and places is read as the number that its text
denotes (`readsNearest_numberChars`).
-/

set_option autoImplicit false

namespace DataStep.Json

open Number (Decimal digitsOf natOfDigits ofDecimal)

variable {ds : List Char} {n : Nat} {negative : Bool} {x : Number}

/-! ## The whole number of the first digits -/

/-- Appends a digit to a natural number. -/
def appendDigit (n : Nat) (c : Char) : Nat := 10 * n + (c.toNat - '0'.toNat)

theorem natOfDigits_eq_foldl (ds : List Char) : natOfDigits ds = ds.foldl appendDigit 0 := rfl

theorem le_foldl_appendDigit (n : Nat) (ds : List Char) : n ≤ ds.foldl appendDigit n := by
  induction ds generalizing n with
  | nil => exact Nat.le_refl n
  | cons c cs ih => exact Nat.le_trans (by rw [appendDigit]; omega) (ih (appendDigit n c))

/-- Digits that stay within 64 bits are all appended. -/
theorem appendDigits_eq (h : ds.foldl appendDigit n < 2 ^ 64) :
    appendDigits n ds = (ds.foldl appendDigit n, 0) := by
  induction ds generalizing n with
  | nil => rfl
  | cons c cs ih =>
    have hnext : appendDigit n c < 2 ^ 64 := Nat.lt_of_le_of_lt (le_foldl_appendDigit _ cs) h
    rw [appendDigits]
    change (if appendDigit n c < 2 ^ 64 then appendDigits (appendDigit n c) cs else _) = _
    rw [if_pos hnext, ih h]
    rfl

/-- **A numeral of 64 bits is read as its digits times a power of ten.** -/
theorem readNumber_chars (m : Numeral) (negative : Bool) (h : m.decimal.digits < 2 ^ 64) :
    readNumber (minus negative ++ m.chars) =
      shift (.whole negative m.decimal.digits) m.decimal.exponent := by
  have htotal : m.fraction.foldl appendDigit (m.whole.foldl appendDigit 0) = m.decimal.digits := by
    rw [← List.foldl_append, ← natOfDigits_eq_foldl]
    rfl
  rw [← htotal] at h ⊢
  have hwhole := appendDigits_eq (Nat.lt_of_le_of_lt (le_foldl_appendDigit _ _) h)
  rw [readNumber, m.readSign_append]
  dsimp only
  rw [m.spanDigits_chars]
  dsimp only
  rw [m.spanFraction_chars]
  dsimp only
  rw [hwhole]
  dsimp only
  rw [appendDigits_eq h, m.readExponent_powerChars]
  dsimp only
  rw [Option.bind_some]
  congr 1
  change _ = m.exponent.getD 0 - m.fraction.length
  omega

/-! ## Powers of ten -/

theorem isFinite_tenTo {k : Nat} (hk : k ≤ 22) : (tenTo k).isFinite = true := by
  interval_cases k <;> decide +kernel

/-- The first powers of ten are exact. -/
theorem absValue_tenTo {k : Nat} (hk : k ≤ 22) : (tenTo k).absValue = 10 ^ k := by
  have hratio : (tenTo k).ratio.1 = 10 ^ k * (tenTo k).ratio.2 := by
    interval_cases k <;> decide +kernel
  have hpos : ((tenTo k).ratio.2 : ℚ) ≠ 0 := by exact_mod_cast (tenTo k).ratio_snd_pos.ne'
  rw [Number.absValue, hratio, Nat.cast_mul, mul_div_assoc, div_self hpos, mul_one]
  push_cast
  rfl

/-- A power of ten is positive. -/
theorem negative_tenTo (k : Nat) : (tenTo k).negative = false := rfl

theorem shift_zero (hfinite : x.isFinite = true) : shift x 0 = some x := by
  have hone : x.mul (tenTo 0) = x :=
    Number.mul_one_eq hfinite (isFinite_tenTo (Nat.zero_le _)) (negative_tenTo 0)
      (by rw [absValue_tenTo (Nat.zero_le _), pow_zero])
  rw [shift, if_pos (Int.le_refl 0), raise]
  change (if maxPower < 0 then _ else _) = _
  rw [if_neg (Nat.not_lt_zero _)]
  dsimp only
  change (if (x.mul (tenTo 0)).isFinite then some (x.mul (tenTo 0)) else none) = _
  rw [hone, if_pos hfinite]

/-- A natural number of 64 bits is within the range. -/
theorem isSome_readNumber_digitsOf (h : n < 2 ^ 64) : (readNumber (digitsOf n)).isSome = true := by
  have hdecimal := Numeral.decimal_ofNat n
  have hread := readNumber_chars (Numeral.ofNat n) false (by rw [hdecimal]; exact h)
  rw [hdecimal, Numeral.chars_ofNat, shift_zero] at hread
  · change readNumber (digitsOf n) = _ at hread
    rw [hread]
    rfl
  · exact Number.isFinite_whole (by norm_num) h

/-- A whole number of 53 bits times a small power of ten is rounded once. -/
theorem shift_whole (hn : n < 2 ^ 53) {e : Int} (hlow : -22 ≤ e) (hhigh : e ≤ 22) :
    shift (.whole negative n) e = some (ofDecimal negative n e) := by
  have hwhole : (Number.whole negative n).isFinite = true :=
    Number.isFinite_whole (by norm_num) hn
  have hsign : ∀ k, ((Number.whole negative n).negative != (tenTo k).negative) = negative := by
    intro k
    rw [negative_tenTo, Bool.bne_false]
    rfl
  rw [Number.ofDecimal_eq_ofRatio, shift]
  split
  · rename_i hpos
    obtain ⟨k, rfl⟩ := Int.eq_ofNat_of_zero_le hpos
    have hk : k ≤ 22 := by omega
    have hpower : (-(k : Int)).toNat = 0 := by omega
    have hproduct : (Number.whole negative n).mul (tenTo k) =
        Number.ofRatio negative (n * 10 ^ k) 1 := by
      rw [Number.mul_eq_ofRatio (n := n * 10 ^ k) hwhole (isFinite_tenTo hk) Nat.one_pos, hsign]
      rw [Number.absValue_whole hn, absValue_tenTo hk]
      push_cast
      rw [div_one]
    have hrange : n * 10 ^ k < 2 ^ 133 * 1 := by
      calc n * 10 ^ k ≤ 2 ^ 53 * 10 ^ 22 :=
        Nat.mul_le_mul hn.le (Nat.pow_le_pow_right (by norm_num) hk)
        _ < 2 ^ 133 * 1 := by norm_num
    rw [Int.toNat_natCast, hpower, pow_zero, raise, if_neg (by change ¬308 < k; omega)]
    dsimp only
    rw [hproduct, if_pos (Number.isFinite_ofRatio (by norm_num) Nat.one_pos hrange)]
  · rename_i hneg
    obtain ⟨k, hk⟩ : ∃ k : Nat, e = -(k : Int) := ⟨(-e).toNat, by omega⟩
    have hpower : e.toNat = 0 := by omega
    have hplaces : (-e).toNat = k := by omega
    have hk : k ≤ 22 := by omega
    have hone : (k - 1) / maxPower = 0 := Nat.div_eq_of_lt (by change _ < 308; omega)
    rw [hpower, hplaces, pow_zero, Nat.mul_one, lower, hone, lowerBy,
      Number.div_eq_ofRatio (n := n) (d := 10 ^ k) hwhole (isFinite_tenTo hk) _ (by positivity),
        hsign]
    · rw [Number.absValue_whole hn, absValue_tenTo hk]
      push_cast
      rfl
    · rw [absValue_tenTo hk]
      positivity

/-! ## Numbers of few digits -/

/-- The reader takes a text for the number nearest to the decimal that the text denotes. -/
def ReadsNearest (text : List Char) : Prop := readNumber text = Number.read text

instance (text : List Char) : Decidable (ReadsNearest text) :=
  inferInstanceAs (Decidable (readNumber text = Number.read text))

/-- A number of up to 53 bits if its digits are written out with their zeros and one place, and of
no more than twenty-two places. -/
structure FewDigits (x : Number) : Prop where
  digits_lt : x.shortest.digits * 10 ^ (x.shortest.exponent + 1).toNat < 2 ^ 53
  le_exponent : -22 ≤ x.shortest.exponent

/-- **A number of few digits is read as the number that its text denotes.** -/
theorem readsNearest_numberChars (h : FewDigits x) : ReadsNearest (numberChars x) := by
  obtain ⟨hdigits, hplaces⟩ := h
  obtain ⟨m, hchars, hlayout⟩ := exists_numeral (c := x.shortest) Number.exponent_of_digits_shortest
  have hbounds : m.decimal.digits < 2 ^ 53 ∧ -22 ≤ m.decimal.exponent ∧
      m.decimal.exponent ≤ 22 := by
    rcases hlayout with h | ⟨hexponent, h⟩
    · rw [h]
      refine ⟨Nat.lt_of_le_of_lt (Nat.le_mul_of_pos_right _ (by positivity)) hdigits, hplaces, ?_⟩
      by_contra hlarge
      have hpos : 0 < x.shortest.digits := by
        rcases Nat.eq_zero_or_pos x.shortest.digits with hzero | hpos
        · have := Number.exponent_of_digits_shortest hzero
          omega
        · exact hpos
      have : 10 ^ 16 ≤ 10 ^ (x.shortest.exponent + 1).toNat :=
        Nat.pow_le_pow_right (by norm_num) (by omega)
      have := Nat.le_mul_of_pos_left (10 ^ (x.shortest.exponent + 1).toNat) hpos
      omega
    · have hsucc : (x.shortest.exponent + 1).toNat = x.shortest.exponent.toNat + 1 := by omega
      rw [hsucc] at hdigits
      rw [h]
      exact ⟨hdigits, by norm_num, by norm_num⟩
  have htext : numberChars x = minus x.negative ++ m.chars := by
    rw [hchars]
    rfl
  rw [ReadsNearest, htext, m.read_chars, readNumber_chars m _ (hbounds.1.trans (by norm_num)),
    shift_whole hbounds.1 hbounds.2.1 hbounds.2.2]

/-- Sixteen digits may be too many: the greatest number below one is not read from its text. -/
example : ¬ReadsNearest (numberChars (.ofRatio false (2 ^ 53 - 1) (2 ^ 53))) := by decide +kernel

end DataStep.Json
