import DataStep.Text.Blank
import DataStep.Text.Casing
import Mathlib.Data.List.DropRight

/-!
# Trimming and upper case

A text is trimmed when no blank stands at either end (`trim_eq_self_iff`). The upper case of a text
is settled: no image of a letter has another upper case, and none is blank (`upper_upper`,
`trimmed_upper`). Both are read off the case tables, where the images have no code in common with
the letters that have an upper case and with the blanks (`not_mem_of_disjointCodes`).
-/

set_option autoImplicit false

namespace DataStep.Text

variable {c d : Char} {cs : List Char} {n m : Nat}

/-! ## Trimming -/

/-- No blank stands at either end of a text. -/
def Trimmed (cs : List Char) : Prop :=
  (∀ c ∈ cs.head?, isBlank c = false) ∧ ∀ c ∈ cs.getLast?, isBlank c = false

theorem trimEnd_eq_rdropWhile (cs : List Char) : trimEnd cs = cs.rdropWhile isBlank := rfl

theorem trimmed_trim (cs : List Char) : Trimmed (trim cs) := by
  rw [trim, trimEnd_eq_rdropWhile]
  constructor
  · intro c hc
    -- what is left of a text begins as the text does
    obtain ⟨rest, hrest⟩ := List.rdropWhile_prefix isBlank (trimStart cs)
    have hhead : c ∈ (trimStart cs).head? := by
      rw [← hrest, List.head?_append, hc]
      rfl
    have hdrop := List.head?_dropWhile_not isBlank cs
    rw [← trimStart, hhead] at hdrop
    simpa using hdrop
  · intro c hc
    have hne : (trimStart cs).rdropWhile isBlank ≠ [] := by
      intro hnil
      rw [hnil] at hc
      cases hc
    rw [List.getLast?_eq_some_getLast hne, Option.mem_some_iff] at hc
    simpa [hc] using List.rdropWhile_last_not isBlank (trimStart cs) hne

theorem trim_eq_self_iff : trim cs = cs ↔ Trimmed cs := by
  constructor
  · intro h
    exact h ▸ trimmed_trim cs
  · rintro ⟨hhead, hlast⟩
    have hstart : trimStart cs = cs := by
      cases cs with
      | nil => rfl
      | cons c cs => simp [trimStart, hhead c rfl]
    rw [trim, hstart, trimEnd_eq_rdropWhile, List.rdropWhile_eq_self_iff]
    intro hne
    simpa using hlast _ (List.getLast?_eq_some_getLast hne)

/-- A trimmed text of blanks is empty. -/
theorem eq_nil_of_allBlank (h : Trimmed cs) (hblank : allBlank cs = true) : cs = [] := by
  cases cs with
  | nil => rfl
  | cons c cs =>
    rw [allBlank, List.all_cons, h.1 c rfl] at hblank
    cases hblank

theorem trim_eq_nil_iff : trim cs = [] ↔ allBlank cs = true := by
  rw [trim, trimEnd_eq_rdropWhile, List.rdropWhile_eq_nil_iff, allBlank, List.all_eq_true]
  constructor
  · intro h c hc
    have hsplit : cs.takeWhile isBlank ++ trimStart cs = cs := List.takeWhile_append_dropWhile
    rw [← hsplit, List.mem_append] at hc
    rcases hc with hc | hc
    · exact List.mem_takeWhile_imp hc
    · exact h c hc
  · intro h c hc
    exact h c (List.dropWhile_subset _ hc)

/-! ## Codes -/

/-- The number whose binary digits are set at the codes of a list. -/
def codeSet (codes : List Nat) : Nat := codes.foldr (fun n set => 1 <<< n ||| set) 0

theorem testBit_codeSet {codes : List Nat} : (codeSet codes).testBit n = true ↔ n ∈ codes := by
  induction codes with
  | nil => simp [codeSet]
  | cons m codes ih =>
    rw [codeSet, List.foldr_cons, Nat.testBit_or, Bool.or_eq_true, Nat.one_shiftLeft,
      Nat.testBit_two_pow, decide_eq_true_eq, List.mem_cons, eq_comm]
    exact or_congr_right ih

/-- Lists of codes whose sets share no digit share no code. -/
theorem not_mem_of_disjointCodes {as bs : List Nat}
    (h : codeSet as &&& codeSet bs = 0) (ha : n ∈ as) :
    n ∉ bs := by
  intro hb
  have hbit := congrArg (·.testBit n) h
  simp only [Nat.testBit_and, testBit_codeSet.2 ha, testBit_codeSet.2 hb, Nat.zero_testBit] at hbit
  cases hbit

/-- The codes of the blanks. -/
def blankCodes : List Nat :=
  List.range' 9 5 ++ List.range' 0x2000 11 ++
    [0x20, 0x85, 0xA0, 0x1680, 0x2028, 0x2029, 0x202F, 0x205F, 0x3000]

theorem mem_blankCodes (h : isBlank c = true) : c.toNat ∈ blankCodes := by
  simp only [isBlank, Bool.or_eq_true, Bool.and_eq_true, decide_eq_true_eq, beq_iff_eq] at h
  simp only [blankCodes, List.mem_append, List.mem_range'_1, List.mem_cons, List.not_mem_nil]
  omega

/-! ## Upper case -/

/-- The codes that a run covers. -/
def CaseRun.codes (r : CaseRun) : List Nat :=
  (List.range ((r.last - r.first) / r.step + 1)).map fun i => r.first + r.step * i

/-- The codes of the letters that have an upper case. -/
def lowerCodes : List Nat := upperExpansions.map (·.1) ++ upperRuns.flatMap CaseRun.codes

/-- The codes of the characters in the upper case of letters. -/
def upperCodes : List Nat :=
  upperExpansions.flatMap (·.2) ++ upperRuns.flatMap fun r =>
    r.codes.map fun (n : Nat) => (n + r.offset).toNat

theorem CaseRun.image?_eq_some {r : CaseRun} (h : r.image? n = some m) :
    n ∈ r.codes ∧ m = (n + r.offset).toNat := by
  unfold image? at h
  split at h
  · rename_i hcover
    simp only [Bool.and_eq_true, decide_eq_true_eq, beq_iff_eq] at hcover
    obtain ⟨⟨hfirst, hlast⟩, hstep⟩ := hcover
    have hdiv : n = r.first + r.step * ((n - r.first) / r.step) := by
      have hmod := Nat.div_add_mod (n - r.first) r.step
      omega
    refine ⟨List.mem_map.2 ⟨(n - r.first) / r.step, ?_, hdiv.symm⟩, (Option.some.inj h).symm⟩
    rw [List.mem_range, Nat.lt_succ_iff]
    exact Nat.div_le_div_right (by omega)
  · cases h

/-- No upper case has an upper case of its own. -/
theorem upperCodes_not_lower (h : n ∈ upperCodes) : n ∉ lowerCodes :=
  not_mem_of_disjointCodes (by decide +kernel) h

theorem upperCodes_not_blank (h : n ∈ upperCodes) : n ∉ blankCodes :=
  not_mem_of_disjointCodes (by decide +kernel) h

theorem upperCodes_valid : ∀ n ∈ upperCodes, n.isValidChar := by decide +kernel

theorem upperExpansions_ne_nil : ∀ e ∈ upperExpansions, e.2 ≠ [] := by decide +kernel

theorem ascii_upper : ∀ n < 128, (Char.ofNat n).toUpper = Char.ofNat n ∨
    n ∈ lowerCodes ∧ (Char.ofNat n).toUpper.toNat ∈ upperCodes := by decide +kernel

theorem toNat_ofNat_of_mem (h : n ∈ upperCodes) : (Char.ofNat n).toNat = n := by
  rw [Char.ofNat, dif_pos (upperCodes_valid n h)]
  rfl

/-- A character is its own upper case, or its upper case consists of images. -/
theorem upperChar_cases (c : Char) : upperChar c = [c] ∨ c.toNat ∈ lowerCodes ∧
    upperChar c ≠ [] ∧ ∀ d ∈ upperChar c, d.toNat ∈ upperCodes := by
  unfold upperChar
  split
  · rename_i hascii
    have hc : Char.ofNat c.toNat = c := Char.ofNat_toNat c
    rcases ascii_upper c.toNat hascii with hself | ⟨hlower, hupper⟩
    · left
      rw [← hc, hself]
    · right
      rw [hc] at hupper
      simp [hlower, hupper]
  · unfold mapCase
    split
    · rename_i codes hlookup
      have hmem : (c.toNat, codes) ∈ upperExpansions := by
        obtain ⟨before, after, hsplit, -⟩ := List.lookup_eq_some_iff.1 hlookup
        simp [hsplit]
      right
      refine ⟨List.mem_append_left _ (List.mem_map_of_mem hmem), ?_, ?_⟩
      · simpa using upperExpansions_ne_nil _ hmem
      · intro d hd
        obtain ⟨n, hn, rfl⟩ := List.mem_map.1 hd
        have hcode : n ∈ upperCodes := List.mem_append_left _ (List.mem_flatMap.2 ⟨_, hmem, hn⟩)
        rwa [toNat_ofNat_of_mem hcode]
    · split
      · rename_i code hfound
        obtain ⟨r, hr, himage⟩ := List.exists_of_findSome?_eq_some hfound
        obtain ⟨hcover, rfl⟩ := CaseRun.image?_eq_some himage
        have hcode : (c.toNat + r.offset).toNat ∈ upperCodes :=
          List.mem_append_right _ (List.mem_flatMap.2 ⟨r, hr, List.mem_map_of_mem hcover⟩)
        right
        refine ⟨List.mem_append_right _ (List.mem_flatMap.2 ⟨r, hr, hcover⟩), by simp, ?_⟩
        intro d hd
        rw [List.mem_singleton] at hd
        rwa [hd, toNat_ofNat_of_mem hcode]
      · exact .inl rfl

theorem upperChar_ne_nil (c : Char) : upperChar c ≠ [] := by
  rcases upperChar_cases c with hself | ⟨-, hne, -⟩
  · simp [hself]
  · exact hne

theorem upperChar_of_mem_upperChar (h : d ∈ upperChar c) : upperChar d = [d] := by
  rcases upperChar_cases c with hself | ⟨-, -, hcodes⟩
  · rw [hself, List.mem_singleton] at h
    rw [h, hself]
  · rcases upperChar_cases d with hself | ⟨hlower, -⟩
    · exact hself
    · exact absurd hlower (upperCodes_not_lower (hcodes d h))

theorem isBlank_of_mem_upperChar (hc : isBlank c = false) (h : d ∈ upperChar c) :
    isBlank d = false := by
  rcases upperChar_cases c with hself | ⟨-, -, hcodes⟩
  · rw [hself, List.mem_singleton] at h
    rw [h, hc]
  · cases hd : isBlank d with
    | false => rfl
    | true => exact absurd (mem_blankCodes hd) (upperCodes_not_blank (hcodes d h))

/-- **The upper case of an upper case is the same text.** -/
theorem upper_upper (s : String) : upper (upper s) = upper s := by
  have hchar : ∀ c ∈ s.toList, (upperChar c).flatMap upperChar = upperChar c := by
    intro c _
    rw [List.flatMap_congr fun d hd => upperChar_of_mem_upperChar hd]
    exact List.flatMap_singleton' _
  rw [upper, upper, String.toList_ofList, List.flatMap_assoc]
  exact congrArg String.ofList (List.flatMap_congr hchar)

theorem upper_eq_nil_iff {s : String} : (upper s).toList = [] ↔ s.toList = [] := by
  rw [upper, String.toList_ofList]
  constructor
  · intro h
    rw [List.flatMap_eq_nil_iff] at h
    cases hs : s.toList with
    | nil => rfl
    | cons c cs => exact absurd (h c (hs ▸ List.mem_cons_self)) (upperChar_ne_nil c)
  · intro h
    rw [h, List.flatMap_nil]

/-- The upper case of a trimmed text is trimmed. -/
theorem trimmed_upper {s : String} (h : Trimmed s.toList) : Trimmed (upper s).toList := by
  rw [upper, String.toList_ofList]
  constructor
  · cases hs : s.toList with
    | nil => simp
    | cons c cs =>
      rw [hs] at h
      intro d hd
      rw [List.flatMap_cons, List.head?_append_of_ne_nil _ (upperChar_ne_nil c)] at hd
      exact isBlank_of_mem_upperChar (h.1 c rfl) (List.mem_of_mem_head? hd)
  · cases hs : s.toList.reverse with
    | nil => simp [List.reverse_eq_nil_iff.1 hs]
    | cons c cs =>
      have hlast : s.toList = cs.reverse ++ [c] := by
        rw [← List.reverse_cons, ← hs, List.reverse_reverse]
      rw [hlast] at h ⊢
      intro d hd
      rw [List.flatMap_append, List.flatMap_singleton,
        List.getLast?_append_of_ne_nil _ (upperChar_ne_nil c)] at hd
      exact isBlank_of_mem_upperChar (h.2 c (by simp)) (List.mem_of_mem_getLast? hd)

end DataStep.Text
