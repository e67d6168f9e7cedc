import DataStep.Number.Writing
import Mathlib.Data.List.Basic
import Mathlib.Data.List.DropRight
import Mathlib.Tactic.IntervalCases

/-!
# Rows of digits

A row of digits is read at the front of a text up to the first character that is no digit
(`spanDigits_append`), and its value is a sum over its parts (`natOfDigits_append`). The digits of a
natural number have that number as their value, and only those of zero begin with a zero. Zeros in
front of them do not change the value (`natOfDigits_padLeft`), and zeros at the end of a text are
dropped up to the first other character (`dropTrailing_append`).
-/

set_option autoImplicit false

namespace DataStep.Number

variable {ds rest : List Char} {c : Char} {n : Nat}

/-! ## The digits of a natural number -/

theorem isDigit_of_mem_digitsOf (h : c ∈ digitsOf n) : c.isDigit = true :=
  Nat.isDigit_of_mem_toDigits (by decide) (by decide) h

theorem digitsOf_ne_nil (n : Nat) : digitsOf n ≠ [] := Nat.toDigits_ne_nil

/-- Only zero is written with a zero in front. -/
theorem eq_zero_of_head?_digitsOf (h : (digitsOf n).head? = some '0') : n = 0 := by
  induction n using Nat.strong_induction_on with
  | _ n ih =>
    by_cases hsmall : n < 10
    · rw [digitsOf, Nat.toDigits_of_lt_base hsmall] at h
      have hzero : Nat.digitChar n = '0' := Option.some.inj h
      interval_cases n <;> first | rfl | cases hzero
    · have hsplit : digitsOf n = digitsOf (n / 10) ++ [Nat.digitChar (n % 10)] :=
        Nat.toDigits_of_base_le (by decide) (by omega)
      rw [hsplit, List.head?_append_of_ne_nil _ (digitsOf_ne_nil _)] at h
      have hzero := ih (n / 10) (by omega) h
      omega

/-! ## The value of a row of digits -/

theorem natOfDigits_eq (ds : List Char) : natOfDigits ds = Nat.ofDigitChars 10 ds 0 :=
  Nat.ofDigitChars_eq_foldl.symm

theorem natOfDigits_digitsOf (n : Nat) : natOfDigits (digitsOf n) = n := by
  rw [natOfDigits_eq]
  exact Nat.ofDigitChars_ten_toDigits

theorem natOfDigits_append (ds es : List Char) :
    natOfDigits (ds ++ es) = natOfDigits ds * 10 ^ es.length + natOfDigits es := by
  rw [natOfDigits_eq, natOfDigits_eq, natOfDigits_eq, Nat.ofDigitChars_append,
    Nat.ofDigitChars_eq_ofDigitChars_zero, Nat.mul_comm]

theorem natOfDigits_zeros (k : Nat) : natOfDigits (List.replicate k '0') = 0 := by
  rw [natOfDigits_eq, Nat.ofDigitChars_replicate_zero, Nat.mul_zero]

/-! ## Zeros in front -/

theorem isDigit_of_mem_padLeft {width : Nat} (hds : ∀ c ∈ ds, c.isDigit = true)
    (h : c ∈ padLeft width ds) :
    c.isDigit = true := by
  rcases List.mem_append.1 h with h | h
  · rw [List.eq_of_mem_replicate h]
    rfl
  · exact hds c h

theorem natOfDigits_padLeft (width : Nat) (ds : List Char) :
    natOfDigits (padLeft width ds) = natOfDigits ds := by
  rw [padLeft, natOfDigits_append, natOfDigits_zeros, Nat.zero_mul, Nat.zero_add]

/-- What is below a power of ten has no more digits than the power has zeros. -/
theorem length_padLeft_digitsOf {width : Nat} (hwidth : 0 < width) (h : n < 10 ^ width) :
    (padLeft width (digitsOf n)).length = width := by
  have hlength : (digitsOf n).length ≤ width := (Nat.length_toDigits_le_iff (by decide) hwidth).2 h
  rw [padLeft, List.length_append, List.length_replicate, Nat.sub_add_cancel hlength]

/-! ## Characters at the end -/

theorem dropTrailing_eq_rdropWhile (c : Char) (cs : List Char) :
    dropTrailing c cs = cs.rdropWhile (· == c) := rfl

/-- The characters at the end of a text are dropped beyond its last part only if nothing
is left of that part. -/
theorem dropTrailing_append (c : Char) (cs es : List Char) :
    dropTrailing c (cs ++ es) =
      if dropTrailing c es = [] then dropTrailing c cs else cs ++ dropTrailing c es := by
  unfold dropTrailing
  rw [List.reverse_append, List.dropWhile_append]
  simp only [List.isEmpty_iff, List.reverse_eq_nil_iff]
  split
  · rfl
  · rw [List.reverse_append, List.reverse_reverse]

theorem dropTrailing_cons {d : Char} (h : d ≠ c) (cs : List Char) :
    dropTrailing c (d :: cs) = d :: dropTrailing c cs := by
  have hone : dropTrailing c [d] = [d] := by simp [dropTrailing, h]
  have hsplit := dropTrailing_append c [d] cs
  rw [List.singleton_append, hone] at hsplit
  rw [hsplit]
  split
  case isTrue hnil => rw [hnil]
  case isFalse => rfl

/-- What is dropped is a row of the character. -/
theorem exists_dropTrailing_append (c : Char) (cs : List Char) :
    ∃ k, dropTrailing c cs ++ List.replicate k c = cs := by
  have hdropped : ∀ d ∈ cs.rtakeWhile (· == c), d = c := fun d hd =>
    beq_iff_eq.1 (List.mem_rtakeWhile_imp (p := (· == c)) hd)
  refine ⟨(cs.rtakeWhile (· == c)).length, ?_⟩
  rw [dropTrailing_eq_rdropWhile, ← List.eq_replicate_of_mem hdropped,
    List.rdropWhile_append_rtakeWhile]

theorem getLast?_dropTrailing (c : Char) (cs : List Char) :
    (dropTrailing c cs).getLast? ≠ some c := by
  intro h
  have hne : dropTrailing c cs ≠ [] := by
    rintro hnil
    rw [hnil] at h
    cases h
  rw [List.getLast?_eq_some_getLast hne] at h
  exact List.rdropWhile_last_not (· == c) cs hne (beq_iff_eq.2 (Option.some.inj h))

/-- Behind a row of digits nothing else is dropped. -/
theorem dropTrailing_digits (hc : c.isDigit = false)
    (hds : ∀ d ∈ ds, d.isDigit = true) (hne : ds ≠ [])
    (cs : List Char) : dropTrailing c (cs ++ ds) = cs ++ ds := by
  have hself : dropTrailing c ds = ds := by
    rw [dropTrailing_eq_rdropWhile, List.rdropWhile_eq_self_iff]
    intro _ hlast
    have hdigit := hds _ (List.getLast_mem hne)
    rw [beq_iff_eq.1 hlast, hc] at hdigit
    cases hdigit
  rw [dropTrailing_append, hself, if_neg hne]

/-! ## Reading a row of digits -/

/-- A text that does not go on with a digit. -/
def Ends (rest : List Char) : Prop := ∀ c ∈ rest.head?, c.isDigit = false

theorem ends_nil : Ends [] := fun _ h => nomatch h

theorem ends_cons (h : c.isDigit = false) : Ends (c :: rest) := by
  rintro _ ⟨⟩
  exact h

/-- **A row of digits is read up to the first character that is no digit.** -/
theorem spanDigits_append (hds : ∀ c ∈ ds, c.isDigit = true) (hrest : Ends rest) :
    spanDigits (ds ++ rest) = (ds, rest) := by
  have hstop : rest.takeWhile Char.isDigit = [] ∧ rest.dropWhile Char.isDigit = rest := by
    cases rest with
    | nil => exact ⟨rfl, rfl⟩
    | cons c cs =>
      have hc : c.isDigit = false := hrest c rfl
      constructor
      · rw [List.takeWhile_cons, hc, if_neg Bool.false_ne_true]
      · rw [List.dropWhile_cons, hc, if_neg Bool.false_ne_true]
  rw [spanDigits, List.takeWhile_append_of_pos hds,
    List.dropWhile_append_of_pos hds, hstop.1, hstop.2, List.append_nil]

theorem spanDigits_eq (hds : ∀ c ∈ ds, c.isDigit = true) : spanDigits ds = (ds, []) := by
  have h := spanDigits_append hds ends_nil
  rwa [List.append_nil] at h

end DataStep.Number
