/-!
# Blank space

The characters of the Unicode property White_Space, and the operations that depend on them:
trimming, the test for a blank text, and the words of a text. The words are the longest runs
of other characters, so no word is empty and none holds a blank (`words_ne_nil`, `words_all`).
-/

set_option autoImplicit false

namespace DataStep.Text

/-- The property White_Space. -/
def isBlank (c : Char) : Bool :=
  let n := c.toNat
  (9 ≤ n && n ≤ 13) || n == 0x20 || n == 0x85 || n == 0xA0 || n == 0x1680 ||
    (0x2000 ≤ n && n ≤ 0x200A) || n == 0x2028 || n == 0x2029 || n == 0x202F || n == 0x205F ||
    n == 0x3000

/-- A text without the blanks at its front. -/
def trimStart (cs : List Char) : List Char := cs.dropWhile isBlank

/-- A text without the blanks at its end. -/
def trimEnd (cs : List Char) : List Char := (cs.reverse.dropWhile isBlank).reverse

/-- A text without the blanks around it. -/
def trim (cs : List Char) : List Char := trimEnd (trimStart cs)

/-- Whether a text holds blanks only. -/
def allBlank (cs : List Char) : Bool := cs.all isBlank

/-- A character in front of a text that starts with a word, or with none. -/
def consWord (c : Char) (next : List Char) (found : List (List Char)) : List (List Char) :=
  match next, found with
  | d :: _, w :: ws => if isBlank d then [c] :: w :: ws else (c :: w) :: ws
  | _, ws => [c] :: ws

/-- The words of a text: its longest runs of characters that are not blank. -/
def words : List Char → List (List Char)
  | [] => []
  | c :: rest => if isBlank c then words rest else consWord c rest (words rest)

/-- A string without the blanks around it. -/
def trimString (s : String) : String := String.ofList (trim s.toList)

/-- Whether a string holds blanks only. -/
def isBlankString (s : String) : Bool := allBlank s.toList

theorem words_ne_nil (cs : List Char) : ∀ w ∈ words cs, w ≠ [] := by
  induction cs with
  | nil => simp [words]
  | cons c rest ih =>
    unfold words
    split
    · exact ih
    · unfold consWord
      split
      · rename_i w ws hfound
        rw [hfound] at ih
        split
        · intro v hv
          rcases List.mem_cons.1 hv with rfl | hv
          · simp
          · exact ih v hv
        · intro v hv
          rcases List.mem_cons.1 hv with rfl | hv
          · simp
          · exact ih v (List.mem_cons_of_mem _ hv)
      · intro v hv
        rcases List.mem_cons.1 hv with rfl | hv
        · simp
        · exact ih v hv

theorem words_all (cs : List Char) : ∀ w ∈ words cs, ∀ c ∈ w, isBlank c = false := by
  induction cs with
  | nil => simp [words]
  | cons c rest ih =>
    unfold words
    split
    · exact ih
    · rename_i hc
      have hc : isBlank c = false := by simpa using hc
      unfold consWord
      split
      · rename_i w ws hfound
        rw [hfound] at ih
        split
        · intro v hv
          rcases List.mem_cons.1 hv with rfl | hv
          · simpa using hc
          · exact ih v hv
        · intro v hv
          rcases List.mem_cons.1 hv with rfl | hv
          · intro d hd
            rcases List.mem_cons.1 hd with rfl | hd
            · exact hc
            · exact ih w (List.mem_cons_self ..) d hd
          · exact ih v (List.mem_cons_of_mem _ hv)
      · intro v hv
        rcases List.mem_cons.1 hv with rfl | hv
        · simpa using hc
        · exact ih v hv

end DataStep.Text
