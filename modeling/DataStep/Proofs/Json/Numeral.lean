import DataStep.Json.Scan
import DataStep.Proofs.Number.Digits
import DataStep.Proofs.Number.Rounding

/-!
# Numbers as they are written in JSON

A number is written as a row of digits, a fraction and an exponent, of which the last two may be
absent (`Numeral`). The scanner takes its text as a whole (`Numeral.numberParts_append`), and a
reader that rounds correctly takes it for the decimal that its parts denote (`Numeral.read_chars`).
The text of a finite number is such a numeral, of the value of its shortest digits
(`exists_numeral`). Main statement: a finite number is what its text denotes (`read_numberChars`).
-/

set_option autoImplicit false

namespace DataStep.Json

open Number (Decimal Ends digitsOf natOfDigits ofDecimal readDecimal readExponent
      readSign spanDigits spanFraction)

variable {rest : List Char}

/-- What may stand behind a value: nothing, a comma or the end of the container. -/
def Follows (rest : List Char) : Prop := ∀ c ∈ rest.head?, c = ',' ∨ c = ']' ∨ c = '\x7d'

theorem ends_of_follows (h : Follows rest) : Ends rest := by
  intro c hc
  rcases h c hc with rfl | rfl | rfl <;> rfl

/-! ## Numerals -/

/-- The sign in front of a numeral. -/
def minus (negative : Bool) : List Char := if negative then ['-'] else []

/-- A number as it is written, without its sign: the digits before the point, the digits behind it,
if there is a point, and the exponent, if there is one. -/
structure Numeral where
  whole : List Char
  fraction : List Char
  exponent : Option Int
  whole_ne_nil : whole ≠ []
  isDigit_whole : ∀ c ∈ whole, c.isDigit = true
  isDigit_fraction : ∀ c ∈ fraction, c.isDigit = true
  /-- A zero leads no other digit. -/
  length_of_zero : whole.head? = some '0' → whole.length = 1

namespace Numeral

/-- A point and the digits behind it. -/
def fractionChars (m : Numeral) : List Char := if m.fraction.isEmpty then [] else '.' :: m.fraction

/-- The text of the exponent. -/
def powerChars (m : Numeral) : List Char :=
  match m.exponent with
  | some e => exponentChars e
  | none => []

/-- The text of a numeral. -/
def chars (m : Numeral) : List Char := m.whole ++ m.fractionChars ++ m.powerChars

/-- The decimal that a numeral denotes. -/
def decimal (m : Numeral) : Decimal :=
  ⟨natOfDigits (m.whole ++ m.fraction), m.exponent.getD 0 - m.fraction.length⟩

/-- The digits of a natural number. -/
def ofNat (n : Nat) : Numeral where
  whole := digitsOf n
  fraction := []
  exponent := none
  whole_ne_nil := Number.digitsOf_ne_nil n
  isDigit_whole _ := Number.isDigit_of_mem_digitsOf
  isDigit_fraction _ h := nomatch h
  length_of_zero h := by rw [Number.eq_zero_of_head?_digitsOf h]; rfl

theorem chars_ofNat (n : Nat) : (ofNat n).chars = digitsOf n := by
  simp [ofNat, chars, fractionChars, powerChars]

theorem decimal_ofNat (n : Nat) : (ofNat n).decimal = ⟨n, 0⟩ := by
  simp [ofNat, decimal, Number.natOfDigits_digitsOf]

/-! ## The scanner -/

theorem ends_powerChars (m : Numeral) (h : Ends rest) : Ends (m.powerChars ++ rest) := by
  unfold powerChars
  split
  · exact Number.ends_cons rfl
  · exact h

theorem ends_fractionChars (m : Numeral) (h : Ends rest) :
    Ends (m.fractionChars ++ (m.powerChars ++ rest)) := by
  unfold fractionChars
  split
  · exact m.ends_powerChars h
  · exact Number.ends_cons rfl

theorem someDigits_append {ds : List Char} (hne : ds ≠ [])
    (hds : ∀ c ∈ ds, c.isDigit = true) (hrest : Ends rest) :
    Scan.someDigits (ds ++ rest) = .ok (ds, rest) := by
  rw [Scan.someDigits, Number.spanDigits_append hds hrest]
  cases ds with
  | nil => exact absurd rfl hne
  | cons c cs => rfl

/-- A part that is not there. -/
theorem optionalPart_absent {starts : List Char} {signed : Bool}
    (h : ∀ c ∈ rest.head?, c ∉ starts) :
    Scan.optionalPart starts signed rest = .ok ([], rest) := by
  cases rest with
  | nil => rfl
  | cons c cs =>
    have hc : starts.contains c = false := by simpa using h c rfl
    rw [Scan.optionalPart, hc, if_neg Bool.false_ne_true]

/-- A part that is there is taken with its sign and its digits. -/
theorem optionalPart_present {starts ds : List Char} {signed : Bool} {c : Char} (sign : List Char)
    (hstart : starts.contains c = true) (hdigits : Scan.someDigits (ds ++ rest) = .ok (ds, rest))
    (hsign : (if signed then
      ((sign ++ (ds ++ rest)).take 1).filter fun s => s == '+' || s == '-' else []) = sign) :
    Scan.optionalPart starts signed (c :: (sign ++ (ds ++ rest))) =
      .ok (c :: (sign ++ ds), rest) := by
  rw [Scan.optionalPart, if_pos hstart]
  dsimp only
  rw [hsign, List.drop_left, hdigits]
  rfl

theorem optionalPart_fraction (m : Numeral) (hrest : Follows rest) :
    Scan.optionalPart ['.'] false (m.fractionChars ++ (m.powerChars ++ rest)) =
      .ok (m.fractionChars, m.powerChars ++ rest) := by
  unfold fractionChars
  split
  · refine optionalPart_absent fun c hc => ?_
    unfold powerChars at hc
    split at hc
    · cases hc
      decide
    · rcases hrest c hc with rfl | rfl | rfl <;> decide
  · rename_i hne
    have hdigits :=
      someDigits_append (List.isEmpty_eq_false_iff.1 (Bool.eq_false_iff.2 hne)) m.isDigit_fraction
      (m.ends_powerChars (ends_of_follows hrest))
    exact optionalPart_present [] rfl hdigits rfl

theorem optionalPart_power (m : Numeral) (hrest : Follows rest) :
    Scan.optionalPart ['e', 'E'] true (m.powerChars ++ rest) = .ok (m.powerChars, rest) := by
  unfold powerChars
  split
  · rename_i e _
    have hdigits := someDigits_append (Number.digitsOf_ne_nil e.natAbs)
      (fun _ => Number.isDigit_of_mem_digitsOf)
      (ends_of_follows hrest)
    unfold exponentChars
    split
    · exact optionalPart_present ['-'] rfl hdigits rfl
    · exact optionalPart_present ['+'] rfl hdigits rfl
  · refine optionalPart_absent fun c hc => ?_
    rcases hrest c hc with rfl | rfl | rfl <;> decide

/-- A numeral begins with a digit. -/
theorem exists_digit_cons (m : Numeral) : ∃ c cs, m.whole = c :: cs ∧ c.isDigit = true := by
  obtain ⟨c, cs, hcs⟩ := List.exists_cons_of_ne_nil m.whole_ne_nil
  exact ⟨c, cs, hcs, m.isDigit_whole c (hcs ▸ List.mem_cons_self)⟩

theorem filter_take_minus (m : Numeral) (negative : Bool) :
    ((minus negative ++ (m.whole ++ rest)).take 1).filter (· == '-') = minus negative := by
  obtain ⟨c, cs, hcs, hc⟩ := m.exists_digit_cons
  cases negative with
  | true => rfl
  | false =>
    have hminus : (c == '-') = false := by
      rw [beq_eq_false_iff_ne]
      rintro rfl
      cases hc
    rw [hcs]
    change [c].filter (· == '-') = []
    rw [List.filter_cons, hminus]
    rfl

/-- **The scanner takes a numeral as a whole.** -/
theorem numberParts_append (m : Numeral) (negative : Bool) (hrest : Follows rest) :
    Scan.numberParts (minus negative ++ m.chars ++ rest) =
      .ok (minus negative ++ m.chars, rest) := by
  have hparts : minus negative ++ m.chars ++ rest =
      minus negative ++ (m.whole ++ (m.fractionChars ++ (m.powerChars ++ rest))) := by
    simp only [chars, List.append_assoc]
  have hzero : (m.whole.head? == some '0' && m.whole.length != 1) = false := by
    rw [Bool.and_eq_false_iff]
    by_cases hhead : m.whole.head? = some '0'
    · exact .inr (by rw [m.length_of_zero hhead]; rfl)
    · exact .inl (beq_eq_false_iff_ne.2 hhead)
  rw [hparts, Scan.numberParts, filter_take_minus m negative]
  dsimp only
  rw [List.drop_left, someDigits_append m.whole_ne_nil m.isDigit_whole
    (m.ends_fractionChars (ends_of_follows hrest))]
  simp only [bind, Except.bind, hzero, if_neg Bool.false_ne_true, optionalPart_fraction m hrest,
    optionalPart_power m hrest, chars, List.append_assoc]

/-! ## Reading -/

theorem readSign_append (m : Numeral) (negative : Bool) :
    readSign (minus negative ++ m.chars) = (negative, m.chars) := by
  obtain ⟨c, cs, hcs, hc⟩ := m.exists_digit_cons
  cases negative with
  | true => rfl
  | false =>
    change readSign m.chars = _
    rw [chars, hcs, List.cons_append, List.cons_append]
    unfold readSign
    split
    · rename_i h
      cases h
      cases hc
    · rename_i h
      cases h
      cases hc
    · rfl

theorem spanDigits_chars (m : Numeral) :
    spanDigits m.chars = (m.whole, m.fractionChars ++ m.powerChars) := by
  have hends := m.ends_fractionChars Number.ends_nil
  rw [List.append_nil] at hends
  rw [chars, List.append_assoc, Number.spanDigits_append m.isDigit_whole hends]

theorem spanFraction_chars (m : Numeral) :
    spanFraction (m.fractionChars ++ m.powerChars) = (m.fraction, m.powerChars) := by
  have hends := m.ends_powerChars Number.ends_nil
  rw [List.append_nil] at hends
  unfold fractionChars
  split
  · rename_i hempty
    rw [List.isEmpty_iff.1 hempty, List.nil_append]
    unfold powerChars
    split <;> rfl
  · exact Number.spanDigits_append m.isDigit_fraction hends

theorem readExponent_exponentChars (e : Int) : readExponent (exponentChars e) = some e := by
  have hspan : spanDigits (digitsOf e.natAbs) = (digitsOf e.natAbs, []) :=
    Number.spanDigits_eq fun _ => Number.isDigit_of_mem_digitsOf
  have hne : (digitsOf e.natAbs).isEmpty = false :=
    List.isEmpty_eq_false_iff.2 (Number.digitsOf_ne_nil _)
  have hsign : readSign ((if e < 0 then '-' else '+') :: digitsOf e.natAbs) =
      (decide (e < 0), digitsOf e.natAbs) := by
    by_cases h : e < 0
    · rw [if_pos h, decide_eq_true h]
      rfl
    · rw [if_neg h, decide_eq_false h]
      rfl
  rw [exponentChars, readExponent, if_pos (by decide), hsign]
  dsimp only
  rw [hspan]
  dsimp only
  rw [hne, if_neg (by decide), Number.natOfDigits_digitsOf]
  by_cases h : e < 0
  · rw [if_pos (decide_eq_true h)]
    congr 1
    omega
  · rw [if_neg (by simpa using h)]
    congr 1
    omega

theorem readExponent_powerChars (m : Numeral) :
    readExponent m.powerChars = some (m.exponent.getD 0) := by
  unfold powerChars
  split
  · rename_i e h
    rw [h, readExponent_exponentChars]
    rfl
  · rename_i h
    rw [h]
    rfl

/-- **A numeral denotes its decimal.** -/
theorem readDecimal_chars (m : Numeral) (negative : Bool) :
    readDecimal negative m.chars =
      some (ofDecimal negative m.decimal.digits m.decimal.exponent) := by
  have hne : m.whole.isEmpty = false := List.isEmpty_eq_false_iff.2 m.whole_ne_nil
  rw [readDecimal, m.spanDigits_chars]
  dsimp only
  rw [m.spanFraction_chars]
  dsimp only
  rw [hne, Bool.false_and, if_neg Bool.false_ne_true, m.readExponent_powerChars]
  rfl

theorem toLower_of_isDigit {c : Char} (hc : c.isDigit = true) : c.toLower = c := by
  have hbounds : 48 ≤ c.toNat ∧ c.toNat ≤ 57 := by
    simpa [Char.isDigit, UInt32.le_iff_toNat_le] using hc
  refine dif_neg fun hupper => ?_
  have : 65 ≤ c.toNat ∧ c.toNat ≤ 90 := by simpa [UInt32.le_iff_toNat_le] using hupper
  omega

/-- A numeral is none of the words for what is not finite. -/
theorem read_chars (m : Numeral) (negative : Bool) :
    Number.read (minus negative ++ m.chars) =
      some (ofDecimal negative m.decimal.digits m.decimal.exponent) := by
  obtain ⟨c, cs, hcs, hc⟩ := m.exists_digit_cons
  have hword : ∀ d ds, d.isDigit = false → m.chars.map Char.toLower ≠ d :: ds := by
    intro d ds hd h
    rw [chars, hcs, List.cons_append, List.cons_append, List.map_cons, toLower_of_isDigit hc] at h
    cases h
    rw [hc] at hd
    cases hd
  rw [Number.read, m.readSign_append negative]
  dsimp only
  rw [if_neg (hword _ _ rfl), if_neg, m.readDecimal_chars negative]
  rw [decide_eq_false (hword _ _ rfl), decide_eq_false (hword _ _ rfl)]
  exact Bool.false_ne_true

/-! ## The layouts of a decimal -/

/-- A whole number with zeros at its end, and a zero behind the point. -/
def withZeros (n k : Nat) (hzero : n = 0 → k = 0) : Numeral where
  whole := digitsOf n ++ List.replicate k '0'
  fraction := ['0']
  exponent := none
  whole_ne_nil := List.append_ne_nil_of_left_ne_nil (Number.digitsOf_ne_nil n) _
  isDigit_whole c h := by
    rcases List.mem_append.1 h with h | h
    · exact Number.isDigit_of_mem_digitsOf h
    · rw [List.eq_of_mem_replicate h]
      rfl
  isDigit_fraction c h := by
    rw [List.mem_singleton.1 h]
    rfl
  length_of_zero h := by
    rw [List.head?_append_of_ne_nil _ (Number.digitsOf_ne_nil n)] at h
    have hn := Number.eq_zero_of_head?_digitsOf h
    rw [hn, hzero hn]
    rfl

/-- The digits of a natural number with a point behind the first few of them. -/
def pointed (n places : Nat) (hplaces : 0 < places) (exponent : Option Int) : Numeral where
  whole := (digitsOf n).take places
  fraction := (digitsOf n).drop places
  exponent := exponent
  whole_ne_nil h := by
    rcases List.take_eq_nil_iff.1 h with h | h
    · omega
    · exact Number.digitsOf_ne_nil n h
  isDigit_whole c h := Number.isDigit_of_mem_digitsOf (List.mem_of_mem_take h)
  isDigit_fraction c h := Number.isDigit_of_mem_digitsOf (List.mem_of_mem_drop h)
  length_of_zero h := by
    rw [List.head?_take, if_neg (by omega)] at h
    rw [Number.eq_zero_of_head?_digitsOf h, List.length_take]
    change min places 1 = 1
    omega

/-- The digits of a natural number behind a point and zeros. -/
def belowOne (n k : Nat) : Numeral where
  whole := ['0']
  fraction := List.replicate k '0' ++ digitsOf n
  exponent := none
  whole_ne_nil := List.cons_ne_nil _ _
  isDigit_whole c h := by
    rw [List.mem_singleton.1 h]
    rfl
  isDigit_fraction c h := by
    rcases List.mem_append.1 h with h | h
    · rw [List.eq_of_mem_replicate h]
      rfl
    · exact Number.isDigit_of_mem_digitsOf h
  length_of_zero _ := rfl

theorem decimal_withZeros (n k : Nat) (hzero : n = 0 → k = 0) :
    (withZeros n k hzero).decimal = ⟨n * 10 ^ (k + 1), -1⟩ := by
  have hdigits : natOfDigits (digitsOf n ++ List.replicate k '0' ++ ['0']) = n * 10 ^ (k + 1) := by
    rw [List.append_assoc, ← List.replicate_succ', Number.natOfDigits_append,
      Number.natOfDigits_digitsOf, Number.natOfDigits_zeros, List.length_replicate, Nat.add_zero]
  change Decimal.mk (natOfDigits (digitsOf n ++ List.replicate k '0' ++ ['0'])) _ = _
  rw [hdigits]
  rfl

theorem decimal_pointed (n places : Nat) (hplaces : 0 < places) (exponent : Option Int) :
    (pointed n places hplaces exponent).decimal =
      ⟨n, exponent.getD 0 - ((digitsOf n).length - places : Nat)⟩ := by
  change Decimal.mk (natOfDigits ((digitsOf n).take places ++ (digitsOf n).drop places))
    (exponent.getD 0 - ((digitsOf n).drop places).length) = _
  rw [List.take_append_drop, Number.natOfDigits_digitsOf, List.length_drop]

theorem decimal_belowOne (n k : Nat) :
    (belowOne n k).decimal = ⟨n, -((k + (digitsOf n).length : Nat) : Int)⟩ := by
  have hdigits : natOfDigits (['0'] ++ (List.replicate k '0' ++ digitsOf n)) = n := by
    rw [← List.append_assoc, Number.natOfDigits_append,
      Number.natOfDigits_digitsOf, ← List.replicate_one,
      ← List.replicate_add, Number.natOfDigits_zeros, Nat.zero_mul, Nat.zero_add]
  change Decimal.mk (natOfDigits (['0'] ++ (List.replicate k '0' ++ digitsOf n)))
    (0 - (List.replicate k '0' ++ digitsOf n).length) = _
  rw [hdigits, List.length_append, List.length_replicate, Int.zero_sub]

theorem chars_withZeros (n k : Nat) (hzero : n = 0 → k = 0) :
    (withZeros n k hzero).chars = digitsOf n ++ List.replicate k '0' ++ ['.', '0'] := by
  simp [withZeros, chars, fractionChars, powerChars]

theorem chars_belowOne (n k : Nat) :
    (belowOne n k).chars = '0' :: '.' :: (List.replicate k '0' ++ digitsOf n) := by
  simp [belowOne, chars, fractionChars, powerChars, Number.digitsOf_ne_nil]

theorem chars_pointed (n places : Nat) (hplaces : 0 < places) (exponent : Option Int)
    (h : places < (digitsOf n).length) :
    (pointed n places hplaces exponent).chars =
      pointAfter places (digitsOf n) ++ (pointed n places hplaces exponent).powerChars := by
  have hne : ((digitsOf n).drop places).isEmpty = false := by
    rw [List.isEmpty_eq_false_iff, ne_eq, List.drop_eq_nil_iff]
    omega
  rw [chars, fractionChars, pointAfter]
  change _ ++ (if ((digitsOf n).drop places).isEmpty then _ else _) ++ _ = _
  rw [hne, if_neg Bool.false_ne_true, if_neg Bool.false_ne_true]
  rfl

theorem chars_pointed_of_length {n : Nat} (exponent : Option Int) (h : (digitsOf n).length = 1) :
    (pointed n 1 Nat.one_pos exponent).chars =
      digitsOf n ++ (pointed n 1 Nat.one_pos exponent).powerChars := by
  have hdrop : (digitsOf n).drop 1 = [] := List.drop_eq_nil_iff.2 h.le
  have htake : (digitsOf n).take 1 = digitsOf n := List.take_of_length_le h.le
  rw [chars, fractionChars]
  change (digitsOf n).take 1 ++ (if ((digitsOf n).drop 1).isEmpty then _ else _) ++ _ = _
  rw [hdrop, htake, if_pos List.isEmpty_nil, List.append_nil]

end Numeral

variable {c : Decimal} {x : Number}

/-- **The text of a decimal is a numeral of the same digits and exponent**, or for a whole number of
up to sixteen digits the numeral of these digits with a zero behind the point. -/
theorem exists_numeral (hzero : c.digits = 0 → c.exponent = 0) :
    ∃ m : Numeral, m.chars = decimalChars c ∧
      (m.decimal = c ∨ 0 ≤ c.exponent ∧
        m.decimal = ⟨c.digits * 10 ^ (c.exponent.toNat + 1), -1⟩) := by
  have hlength : 0 < (digitsOf c.digits).length :=
    List.length_pos_of_ne_nil (Number.digitsOf_ne_nil _)
  unfold decimalChars
  dsimp only
  split
  · rename_i hwhole
    have hexponent : 0 ≤ c.exponent := of_decide_eq_true (Bool.and_eq_true_iff.1 hwhole).1
    have hzeros : c.digits = 0 → c.exponent.toNat = 0 := fun h => by rw [hzero h]; rfl
    exact ⟨.withZeros c.digits c.exponent.toNat hzeros, Numeral.chars_withZeros .., .inr
      ⟨hexponent, Numeral.decimal_withZeros ..⟩⟩
  · rename_i hwhole
    split
    · rename_i hinside
      rw [Bool.and_eq_true, decide_eq_true_eq, decide_eq_true_eq] at hwhole hinside
      -- the point stands between two of the digits
      have hplaces : 0 < ((digitsOf c.digits).length + c.exponent).toNat := by omega
      have hbetween : ((digitsOf c.digits).length + c.exponent).toNat <
          (digitsOf c.digits).length := by omega
      have hexponent : (0 : Int) - ((digitsOf c.digits).length -
          ((digitsOf c.digits).length + c.exponent).toNat : Nat) = c.exponent := by omega
      refine ⟨.pointed c.digits _ hplaces none, ?_, .inl ?_⟩
      · rw [Numeral.chars_pointed _ _ _ _ hbetween]
        exact List.append_nil _
      · rw [Numeral.decimal_pointed, Option.getD_none, hexponent]
    · rename_i hinside
      split
      · rename_i hbelow
        rw [Bool.and_eq_true, decide_eq_true_eq, decide_eq_true_eq] at hbelow
        have hexponent : -(((-((digitsOf c.digits).length + c.exponent)).toNat +
            (digitsOf c.digits).length : Nat) : Int) = c.exponent := by omega
        refine ⟨.belowOne c.digits _, Numeral.chars_belowOne .., .inl ?_⟩
        rw [Numeral.decimal_belowOne, hexponent]
      · have hexponent : ((digitsOf c.digits).length + c.exponent - 1 : Int) -
            ((digitsOf c.digits).length - 1 : Nat) = c.exponent := by omega
        refine ⟨.pointed c.digits 1 Nat.one_pos
          (some ((digitsOf c.digits).length + c.exponent - 1)), ?_, .inl ?_⟩
        · split
          · rename_i hone
            exact Numeral.chars_pointed_of_length _ hone
          · exact Numeral.chars_pointed _ _ _ _ (by omega)
        · rw [Numeral.decimal_pointed, Option.getD_some, hexponent]

theorem value_withZero (hexponent : 0 ≤ c.exponent) :
    (⟨c.digits * 10 ^ (c.exponent.toNat + 1), -1⟩ : Decimal).value = c.value := by
  obtain ⟨k, hk⟩ := Int.eq_ofNat_of_zero_le hexponent
  rw [Decimal.value, Decimal.value, hk, Int.toNat_natCast, zpow_natCast]
  push_cast
  rw [pow_succ, zpow_neg_one]
  field_simp

/-! ## The text of a number -/

/-- The text of a finite number. -/
def numberChars (x : Number) : List Char := x.signChars ++ decimalChars x.shortest

/-- The text of a finite number is a numeral that denotes the number. -/
theorem exists_numeral_of_isFinite (hfinite : x.isFinite = true) :
    ∃ m : Numeral, numberChars x = minus x.negative ++ m.chars ∧
      ofDecimal x.negative m.decimal.digits m.decimal.exponent = x := by
  obtain ⟨m, hchars, hlayout⟩ := exists_numeral (c := x.shortest) Number.exponent_of_digits_shortest
  have hvalue : m.decimal.value = x.shortest.value := by
    rcases hlayout with h | ⟨hexponent, h⟩
    · rw [h]
    · rw [h, value_withZero hexponent]
  refine ⟨m, by rw [hchars]; rfl, ?_⟩
  exact (Number.ofDecimal_congr hvalue).trans (Number.ofDecimal_shortest hfinite)

/-- **A finite number is what its text denotes.** -/
theorem read_numberChars (hfinite : x.isFinite = true) : Number.read (numberChars x) = some x := by
  obtain ⟨m, hchars, hnumber⟩ := exists_numeral_of_isFinite hfinite
  rw [hchars, m.read_chars, hnumber]

end DataStep.Json
