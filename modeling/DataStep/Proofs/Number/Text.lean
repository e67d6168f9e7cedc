import DataStep.Proofs.Json.Numeral
import DataStep.Proofs.Number.Integer

/-!
# Texts of finite numbers

The value of a number is rounded to a whole count of units of some decimal place, a tie to the even
count (`Rational.NearestEven`), and the count is written as a numeral without zeros at its end
(`Json.Numeral.trimmed`). The two ways to write a number come to this text: that of fixed places,
whose zeros are dropped (`roundedText_eq`), and that of whole numbers (`wholeText_eq`).

Main statement: the text of a finite number is the numeral of its value in whole millionths, behind
a minus sign if these are negative (`text_written`).
-/

set_option autoImplicit false

namespace DataStep

/-! ## Nearest integers -/

namespace Rational

variable {n d : Nat} {q : ℚ} {i j : Int}

/-- An integer is nearest to a value; of two that are nearest, it is the even one. -/
structure NearestEven (q : ℚ) (i : Int) : Prop where
  near : |q - i| ≤ 1 / 2
  even_of_tie : |q - i| = 1 / 2 → Even i

theorem NearestEven.le (hi : NearestEven q i) (hj : NearestEven q j) : j ≤ i := by
  by_contra hlt
  have hbelow := (abs_le.1 hi.near).2
  have habove := (abs_le.1 hj.near).1
  have hstep : (i : ℚ) + 1 ≤ j := by exact_mod_cast not_le.1 hlt
  -- the value lies in the middle between two neighbours, which are not both even
  have hnext : j = i + 1 := by
    have : (j : ℚ) = i + 1 := by linarith
    exact_mod_cast this
  have hdistance : q - i = 1 / 2 := by linarith
  have hdistance' : q - j = -(1 / 2) := by linarith
  have heven : Even i := hi.even_of_tie (by rw [hdistance]; norm_num)
  have heven' : Even (i + 1) := hnext ▸ hj.even_of_tie (by rw [hdistance']; norm_num)
  exact Int.even_add_one.1 heven' heven

/-- **A value is rounded to one integer.** -/
theorem NearestEven.unique (hi : NearestEven q i) (hj : NearestEven q j) : i = j :=
  le_antisymm (hj.le hi) (hi.le hj)

theorem NearestEven.neg (h : NearestEven q i) : NearestEven (-q) (-i) := by
  have hdistance : |-q - ((-i : Int) : ℚ)| = |q - i| := by
    rw [Int.cast_neg, neg_sub_neg, abs_sub_comm]
  constructor
  · rw [hdistance]
    exact h.near
  · rw [hdistance]
    exact fun htie => (h.even_of_tie htie).neg

/-- An integer within less than half of a value has no rival. -/
theorem nearestEven_of_lt (h : |q - i| < 1 / 2) : NearestEven q i :=
  ⟨h.le, fun htie => absurd htie h.ne⟩

theorem nearestEven_intCast (i : Int) : NearestEven (i : ℚ) i := nearestEven_of_lt (by norm_num)

/-- **A quotient is rounded to the nearest integer.** -/
theorem nearestEven_roundDiv (hd : 0 < d) : NearestEven ((n : ℚ) / d) (roundDiv n d : Nat) := by
  have hdq : (0 : ℚ) < d := by exact_mod_cast hd
  have hvalue : (n : ℚ) / d = (n / d : Nat) + (n % d : Nat) / d := by
    have hparts : (d : ℚ) * (n / d : Nat) + (n % d : Nat) = n := by
      exact_mod_cast Nat.div_add_mod n d
    rw [← hparts]
    field_simp
  have hrest : ((n % d : Nat) : ℚ) / d < 1 := by
    rw [div_lt_one hdq]
    exact_mod_cast Nat.mod_lt n hd
  have hnonneg : (0 : ℚ) ≤ (n % d : Nat) / d := by positivity
  rw [hvalue, roundDiv]
  generalize n / d = m
  split
  case isTrue hlow =>
    have hhalf : ((n % d : Nat) : ℚ) / d < 1 / 2 := by
      rw [div_lt_div_iff₀ hdq two_pos, one_mul, mul_comm]
      exact_mod_cast hlow
    refine nearestEven_of_lt ?_
    rw [Int.cast_natCast, add_sub_cancel_left, abs_of_nonneg hnonneg]
    exact hhalf
  case isFalse hreached =>
    split
    case isTrue hhigh =>
      have hhalf : 1 / 2 < ((n % d : Nat) : ℚ) / d := by
        rw [div_lt_div_iff₀ two_pos hdq, one_mul, mul_comm ((n % d : Nat) : ℚ)]
        exact_mod_cast hhigh
      refine nearestEven_of_lt ?_
      push_cast
      rw [abs_lt]
      constructor <;> linarith
    case isFalse hmissed =>
      have hhalf : ((n % d : Nat) : ℚ) / d = 1 / 2 := by
        have htwice : n % d * 2 = d := by omega
        rw [div_eq_div_iff hdq.ne' two_ne_zero, one_mul]
        exact_mod_cast htwice
      rw [hhalf]
      constructor
      case near =>
        -- both neighbours are as near
        rcases Nat.mod_two_eq_zero_or_one m with heven | hodd
        · rw [heven]
          norm_num
        · rw [hodd]
          push_cast
          norm_num
      case even_of_tie =>
        intro _
        rw [Int.even_coe_nat, Nat.even_iff]
        omega

end Rational

/-! ## Numerals without zeros at their end -/

namespace Json.Numeral

open Number

variable {m m' : Numeral} {places n : Nat}

/-- A numeral is that of a value if it has no exponent, no more places than are given and no zero
behind its last digit. -/
structure Canonical (places : Nat) (m : Numeral) (q : ℚ) : Prop where
  value : m.decimal.value = q
  exponent : m.exponent = none
  length_fraction : m.fraction.length ≤ places
  getLast?_fraction : m.fraction.getLast? ≠ some '0'

/-- The digits of the last places of a number. -/
def lastDigits (places n : Nat) : List Char := padLeft places (digitsOf (n % 10 ^ places))

theorem isDigit_of_mem_lastDigits {c : Char} (h : c ∈ lastDigits places n) : c.isDigit = true :=
  isDigit_of_mem_padLeft (fun _ => isDigit_of_mem_digitsOf) h

theorem isDigit_of_mem_dropTrailing {c d : Char} (h : c ∈ dropTrailing d (lastDigits places n)) :
    c.isDigit = true :=
  isDigit_of_mem_lastDigits ((List.rdropWhile_prefix (· == d) _).subset h)

/-- The numeral of `n / 10 ^ places`. -/
def trimmed (places n : Nat) : Numeral where
  whole := digitsOf (n / 10 ^ places)
  fraction := dropTrailing '0' (lastDigits places n)
  exponent := none
  whole_ne_nil := digitsOf_ne_nil _
  isDigit_whole _ := isDigit_of_mem_digitsOf
  isDigit_fraction _ := isDigit_of_mem_dropTrailing
  length_of_zero h := by rw [eq_zero_of_head?_digitsOf h]; rfl

/-- Without an exponent the text tells the digits. -/
theorem decimal_of_chars (h : m.exponent = none) (h' : m'.exponent = none)
    (hchars : m.chars = m'.chars) :
    m.decimal = m'.decimal := by
  have hspan := m.spanDigits_chars
  rw [hchars, m'.spanDigits_chars, Prod.mk.injEq] at hspan
  have hfraction := m.spanFraction_chars
  rw [← hspan.2, m'.spanFraction_chars, Prod.mk.injEq] at hfraction
  rw [decimal, decimal, h, h', hspan.1, hfraction.1]

/-- A text with a sign tells the sign. -/
theorem minus_append_inj {negative negative' : Bool}
    (h : minus negative ++ m.chars = minus negative' ++ m'.chars) :
    negative = negative' ∧ m.chars = m'.chars := by
  have hread := m.readSign_append negative
  rw [h, m'.readSign_append, Prod.mk.injEq] at hread
  exact ⟨hread.1.symm, hread.2.symm⟩

theorem natOfDigits_lastDigits (places n : Nat) :
    natOfDigits (lastDigits places n) = n % 10 ^ places := by
  rw [lastDigits, natOfDigits_padLeft, natOfDigits_digitsOf]

/-- There is no fraction exactly if the last places are zero. -/
theorem fraction_trimmed_eq_nil_iff : (trimmed places n).fraction = [] ↔ 10 ^ places ∣ n := by
  change dropTrailing '0' (lastDigits places n) = [] ↔ _
  rw [Nat.dvd_iff_mod_eq_zero, ← natOfDigits_lastDigits]
  constructor
  · intro hnil
    -- what was dropped are zeros, and nothing else was there
    obtain ⟨k, hk⟩ := exists_dropTrailing_append '0' (lastDigits places n)
    rw [hnil, List.nil_append] at hk
    rw [← hk, natOfDigits_zeros]
  · intro hzero
    rw [natOfDigits_lastDigits] at hzero
    rw [dropTrailing_eq_rdropWhile, List.rdropWhile_eq_nil_iff, lastDigits, hzero]
    intro c hc
    rcases List.mem_append.1 hc with hc | hc
    · exact beq_iff_eq.2 (List.eq_of_mem_replicate hc)
    · exact beq_iff_eq.2 (List.mem_singleton.1 hc)

/-- With the zeros that were dropped the digits are those of the number. -/
theorem exists_zeros_trimmed (hplaces : 0 < places) :
    ∃ k, (trimmed places n).fraction.length + k = places ∧
    natOfDigits ((trimmed places n).whole ++ (trimmed places n).fraction) * 10 ^ k = n := by
  obtain ⟨k, hk⟩ := exists_dropTrailing_append '0' (lastDigits places n)
  change (trimmed places n).fraction ++ List.replicate k '0' = lastDigits places n at hk
  have hlength : (lastDigits places n).length = places :=
    length_padLeft_digitsOf hplaces (Nat.mod_lt _ (by positivity))
  refine ⟨k, ?_, ?_⟩
  · rwa [← hk, List.length_append, List.length_replicate] at hlength
  · have hall : natOfDigits (digitsOf (n / 10 ^ places) ++ lastDigits places n) = n := by
      rw [natOfDigits_append, natOfDigits_digitsOf, natOfDigits_lastDigits,
        hlength, Nat.div_add_mod']
    rw [← hk, ← List.append_assoc, natOfDigits_append, natOfDigits_zeros,
      List.length_replicate, Nat.add_zero] at hall
    exact hall

/-- **The numeral of units of a decimal place has their value.** -/
theorem canonical_trimmed (hplaces : 0 < places) :
    (trimmed places n).Canonical places ((n : ℚ) / 10 ^ places) := by
  obtain ⟨k, hlength, hdigits⟩ := exists_zeros_trimmed (n := n) hplaces
  constructor
  case value =>
    have hexponent : (trimmed places n).decimal.exponent =
        -((trimmed places n).fraction.length : Int) :=
      zero_sub _
    have hunits : ((trimmed places n).decimal.digits : ℚ) * 10 ^ k = n := by exact_mod_cast hdigits
    have hpower : (10 : ℚ) ^ places = 10 ^ (trimmed places n).fraction.length * 10 ^ k := by
      rw [← pow_add, hlength]
    rw [Decimal.value, hexponent, zpow_neg, zpow_natCast, hpower, ← hunits]
    field_simp
  case exponent => rfl
  case length_fraction => omega
  case getLast?_fraction => exact getLast?_dropTrailing _ _

theorem pointDigits_eq (hplaces : 0 < places) :
    pointDigits places n = digitsOf (n / 10 ^ places) ++ '.' :: lastDigits places n := by
  rw [pointDigits, if_neg hplaces.ne']
  rfl

/-- **What is left of a text of fixed places is the numeral.** -/
theorem dropTrailingZeros_pointDigits (hplaces : 0 < places) (cs : List Char) :
    dropTrailingZeros (cs ++ pointDigits places n) = cs ++ (trimmed places n).chars := by
  have hpoint : (cs ++ pointDigits places n).contains '.' = true := by simp [pointDigits_eq hplaces]
  have hzeros : dropTrailing '0' (cs ++ pointDigits places n) =
      cs ++ digitsOf (n / 10 ^ places) ++ '.' :: (trimmed places n).fraction := by
    have hstop : dropTrailing '0' ('.' :: lastDigits places n) =
        '.' :: (trimmed places n).fraction :=
      dropTrailing_cons (by decide) _
    rw [pointDigits_eq hplaces, ← List.append_assoc, dropTrailing_append, hstop,
      if_neg (List.cons_ne_nil _ _)]
  have hwhole : ∀ d ∈ digitsOf (n / 10 ^ places), d.isDigit = true :=
    fun _ => isDigit_of_mem_digitsOf
  rw [dropTrailingZeros, if_pos hpoint, hzeros]
  change _ = cs ++ (digitsOf (n / 10 ^ places) ++ (trimmed places n).fractionChars ++ [])
  rw [fractionChars, List.append_nil, ← List.append_assoc]
  split
  case isTrue hempty =>
    -- the point is bare, and in front of it stands a digit
    have hbare : dropTrailing '.' ['.'] = [] := by decide
    rw [List.isEmpty_iff.1 hempty, dropTrailing_append, hbare, if_pos rfl,
      dropTrailing_digits (by decide) hwhole (digitsOf_ne_nil _), List.append_nil]
  case isFalse hsome =>
    have hne : (trimmed places n).fraction ≠ [] := fun hnil => hsome (List.isEmpty_iff.2 hnil)
    rw [List.append_cons, dropTrailing_digits (by decide) (trimmed places n).isDigit_fraction hne]

end Json.Numeral

namespace Number

open Rational Json

variable {x : Number} {places : Nat} {i : Int}

/-! ## Fixed places -/

/-- The value of a number in units of `10 ^ -places`, rounded. -/
def roundedUnits (places : Nat) (x : Number) : Int :=
  if x.negative then -(x.fixedUnits places : Int) else x.fixedUnits places

theorem natAbs_roundedUnits (places : Nat) (x : Number) :
    (x.roundedUnits places).natAbs = x.fixedUnits places := by
  rw [roundedUnits]
  split <;> omega

/-- **The units of a decimal place are the nearest count.** -/
theorem nearestEven_roundedUnits (places : Nat) (x : Number) :
    NearestEven (x.toRat * 10 ^ places) (x.roundedUnits places) := by
  have hnear : NearestEven (x.absValue * 10 ^ places) (x.fixedUnits places : Nat) := by
    have h := nearestEven_roundDiv (n := x.ratio.1 * Nat.pow 10 places) x.ratio_snd_pos
    push_cast [Nat.pow_eq] at h
    rwa [mul_div_right_comm] at h
  rw [toRat, roundedUnits]
  split
  · rw [neg_mul]
    exact hnear.neg
  · exact hnear

theorem fixed_of_isFinite (hfinite : x.isFinite = true) :
    x.fixed places = minus x.negative ++ pointDigits places (x.fixedUnits places) := by
  rw [fixed, isNaN_of_isFinite hfinite, isInfinite_of_isFinite hfinite]
  rfl

/-- **The text of six places is the numeral of the millionths.** -/
theorem roundedText_eq (hfinite : x.isFinite = true) :
    x.roundedText = minus (decide (x.roundedUnits 6 < 0)) ++
      (Numeral.trimmed 6 (x.fixedUnits 6)).chars := by
  rw [roundedText, fixed_of_isFinite hfinite,
    Numeral.dropTrailingZeros_pointDigits (by decide), roundedUnits]
  generalize x.fixedUnits 6 = n
  rcases Nat.eq_zero_or_pos n with rfl | hpos
  · -- no millionths, and no sign either
    cases x.negative <;> decide
  · have hsign : decide ((if x.negative = true then -(n : Int) else n) < 0) = x.negative := by
      cases x.negative <;> simp [hpos]
    rw [hsign, if_neg]
    intro hzero
    have hsame : minus x.negative ++ (Numeral.trimmed 6 n).chars =
        minus true ++ (Numeral.ofNat 0).chars := hzero
    have hchars := (Numeral.minus_append_inj hsame).2
    have hvalue := (Numeral.canonical_trimmed (n := n) (by decide : 0 < 6)).value
    rw [Numeral.decimal_of_chars rfl rfl hchars, Numeral.decimal_ofNat, Decimal.value,
      Nat.cast_zero, zero_mul] at hvalue
    have : (0 : ℚ) < n / 10 ^ 6 := by positivity
    exact this.ne hvalue

theorem roundedText_ne (x : Number) : x.roundedText ≠ ['-', '0'] := by
  rw [roundedText]
  split
  case isTrue => decide
  case isFalse hne => exact hne

/-! ## Whole numbers -/

theorem isInt_of_isWhole (h : x.isWhole = true) : x.IsInt x.toInt := by
  obtain ⟨hfinite, hexact⟩ := (Bool.and_eq_true _ _).mp h
  have hvalue : x.absValue = (x.ratio.1 / x.ratio.2 : Nat) := by
    have hdvd := Nat.dvd_of_mod_eq_zero (beq_iff_eq.1 hexact)
    have hne : (x.ratio.2 : ℚ) ≠ 0 := by exact_mod_cast x.ratio_snd_pos.ne'
    rw [absValue, div_eq_iff hne]
    exact_mod_cast (Nat.div_mul_cancel hdvd).symm
  exact ⟨hfinite, by rw [toRat_of_absValue hvalue, toInt_of_absValue hfinite hvalue]⟩

/-- A whole number is written digit by digit. -/
theorem wholeText_eq (h : x.IsInt i) :
    x.wholeText = minus (decide (i < 0)) ++ digitsOf i.natAbs := by
  have hinteger : x.toInt = i := by rw [toInt_eq_wholePart h.1, h.wholePart_eq]
  rw [wholeText, hinteger, minus]
  simp only [decide_eq_true_eq]

/-- **Whole numbers have one text in both ways.** -/
theorem roundedText_of_isInt (h : x.IsInt i) : x.roundedText = x.wholeText := by
  have hunits : x.roundedUnits 6 = i * 10 ^ 6 := by
    have hrounded := nearestEven_roundedUnits 6 x
    have hexact := nearestEven_intCast (i * 10 ^ 6)
    push_cast at hexact
    rw [h.2] at hrounded
    exact hrounded.unique hexact
  have hcount : x.fixedUnits 6 = i.natAbs * 10 ^ 6 := by
    rw [← natAbs_roundedUnits, hunits, Int.natAbs_mul]
    rfl
  have hsign : decide (i * 10 ^ 6 < 0) = decide (i < 0) := decide_eq_decide.2 (by omega)
  have hchars : (Numeral.trimmed 6 (i.natAbs * 10 ^ 6)).chars = digitsOf i.natAbs := by
    have hnone : (Numeral.trimmed 6 (i.natAbs * 10 ^ 6)).fraction = [] :=
      Numeral.fraction_trimmed_eq_nil_iff.2 (Nat.dvd_mul_left _ _)
    rw [Numeral.chars, Numeral.fractionChars, hnone]
    change digitsOf (i.natAbs * 10 ^ 6 / 10 ^ 6) ++ [] ++ [] = _
    rw [Nat.mul_div_cancel _ (by positivity), List.append_nil, List.append_nil]
  rw [roundedText_eq h.1, hunits, hcount, hsign, hchars, wholeText_eq h]

/-- **The text is that of six places, whichever way it is written.** -/
theorem textChars_eq (x : Number) : x.textChars = x.roundedText := by
  rw [textChars]
  split
  case isTrue hwhole =>
    have hisWhole := ((Bool.and_eq_true _ _).mp hwhole).1
    exact (roundedText_of_isInt (isInt_of_isWhole hisWhole)).symm
  case isFalse => rfl

theorem toList_text (hfinite : x.isFinite = true) :
    x.text.toList = minus (decide (x.roundedUnits 6 < 0)) ++
      (Numeral.trimmed 6 (x.roundedUnits 6).natAbs).chars := by
  rw [text, String.toList_ofList, textChars_eq, roundedText_eq hfinite, natAbs_roundedUnits]

/-! ## The text -/

/-- **How a finite number is written**, with its value rounded to millionths and
the numeral of these. -/
structure Written (x : Number) (millionths : Int) (m : Numeral) : Prop where
  rounded : NearestEven (x.toRat * 10 ^ 6) millionths
  toList_text : x.text.toList = minus (decide (millionths < 0)) ++ m.chars
  canonical : m.Canonical 6 (|(millionths : ℚ)| / 10 ^ 6)
  /-- There are digits behind a point only if there is a fraction. -/
  fraction_eq_nil_iff : m.fraction = [] ↔ 10 ^ 6 ∣ millionths
  text_ne : x.text ≠ "-0"
  /-- Whole numbers of every size are written alike in both ways. -/
  wholeText_eq : ∀ i, x.IsInt i → x.wholeText = x.roundedText
  /-- No digit of a whole number is left out. -/
  toList_text_of_isInt : ∀ i, x.IsInt i →
    x.text.toList = minus (decide (i < 0)) ++ digitsOf i.natAbs
  /-- The numbers with this text are those that are rounded alike. -/
  text_eq_iff : ∀ y : Number, y.isFinite = true →
    (y.text = x.text ↔ NearestEven (y.toRat * 10 ^ 6) millionths)

/-- **The text of a finite number is the numeral of its value in millionths.** -/
theorem text_written (hfinite : x.isFinite = true) : ∃ millionths m, x.Written millionths m := by
  have hcanonical : ∀ units : Int,
      (Numeral.trimmed 6 units.natAbs).Canonical 6 (|(units : ℚ)| / 10 ^ 6) := by
    intro units
    rw [← Int.cast_abs, Int.abs_eq_natAbs, Int.cast_natCast]
    exact Numeral.canonical_trimmed (by decide)
  refine ⟨x.roundedUnits 6, Numeral.trimmed 6 (x.roundedUnits 6).natAbs, ?_⟩
  constructor
  case rounded => exact nearestEven_roundedUnits 6 x
  case toList_text => exact toList_text hfinite
  case canonical => exact hcanonical _
  case fraction_eq_nil_iff =>
    rw [Numeral.fraction_trimmed_eq_nil_iff, ← Int.natCast_dvd_natCast, Int.dvd_natAbs]
    exact Iff.rfl
  case text_ne =>
    rw [text, textChars_eq, ne_eq, ← String.toList_inj, String.toList_ofList]
    exact roundedText_ne x
  case wholeText_eq => exact fun i hi => (roundedText_of_isInt hi).symm
  case toList_text_of_isInt =>
    intro i hi
    rw [text, String.toList_ofList, textChars_eq, roundedText_of_isInt hi, wholeText_eq hi]
  case text_eq_iff =>
    intro y hy
    rw [← String.toList_inj, toList_text hfinite, toList_text hy]
    constructor
    · intro htext
      -- the text tells the sign and the count of the millionths
      obtain ⟨hsign, hchars⟩ := Numeral.minus_append_inj htext
      have hvalue := congrArg Decimal.value (Numeral.decimal_of_chars rfl rfl hchars)
      rw [(hcanonical _).value, (hcanonical _).value, div_left_inj' (by norm_num)] at hvalue
      have habs : |y.roundedUnits 6| = |x.roundedUnits 6| := by exact_mod_cast hvalue
      have hunits : y.roundedUnits 6 = x.roundedUnits 6 := by
        rw [decide_eq_decide] at hsign
        rcases abs_eq_abs.1 habs with h | h <;> omega
      exact hunits ▸ nearestEven_roundedUnits 6 y
    · intro hrounded
      rw [(nearestEven_roundedUnits 6 y).unique hrounded]

/-- Control: a value in the middle between two counts of millionths. -/
theorem text_written_tie : (ofRatio true 1 128).isFinite = true ∧
    (∃ millionths m, (ofRatio true 1 128).Written millionths m ∧ millionths = -7812) ∧
    (ofRatio true 1 128).text = "-0.007812" := by
  have hfinite : (ofRatio true 1 128).isFinite = true := by decide +kernel
  have hvalue : (ofRatio true 1 128).toRat = -(1 / 128) := by decide +kernel
  refine ⟨hfinite, ?_, by decide +kernel⟩
  obtain ⟨millionths, m, hwritten⟩ := text_written hfinite
  refine ⟨millionths, m, hwritten, hwritten.rounded.unique ?_⟩
  rw [hvalue]
  constructor
  · norm_num [abs_le]
  · intro _
    decide

/-- A whole number beyond all exact ones keeps its zeros. -/
example : (ofRatio true (10 ^ 22) 1).text = "-10000000000000000000000" := by decide +kernel

end Number

end DataStep
