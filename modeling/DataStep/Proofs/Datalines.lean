import DataStep.Datalines
import DataStep.Proofs.Dataset
import Mathlib.Data.List.Forall2

/-!
# Reading data lines that were written

A record is written on a line of its own, with blanks in front of its tokens, between them and
behind them, and blank lines may stand anywhere (`WritesRecords`). The words of such a line are the
tokens again (`Text.words_of_writesTokens`), so a line is blank only if no record was written on it.

Main statement: data lines that were written are read as one row for each record, whatever the
number of its tokens; every variable takes the token at its place, and what it makes of it depends
on its kind (`read_records`).
-/

set_option autoImplicit false

namespace DataStep

/-! ## Words -/

namespace Text

variable {lead token rest line : List Char} {tokens : List (List Char)}

/-- A token has characters, and none of them is blank. -/
structure IsToken (token : List Char) : Prop where
  ne_nil : token ≠ []
  not_blank : ∀ c ∈ token, isBlank c = false

instance (token : List Char) : Decidable (IsToken token) :=
  decidable_of_iff (token ≠ [] ∧ token.all (fun c => !isBlank c) = true)
    ⟨fun h => ⟨h.1, by simpa using h.2⟩, fun h => ⟨h.ne_nil, by simpa using h.not_blank⟩⟩

/-- The lines on which tokens are written: any blanks in front of the first and behind the last one,
and at least one between two of them. -/
inductive WritesTokens : List (List Char) → List Char → Prop where
  | last {lead token trail : List Char} (hlead : allBlank lead = true)
      (htrail : allBlank trail = true) :
    WritesTokens [token] (lead ++ (token ++ trail))
  | cons {lead token line : List Char} {b : Char} {tokens : List (List Char)}
    (hlead : allBlank lead = true) (hb : isBlank b = true) (h : WritesTokens tokens line) :
    WritesTokens (token :: tokens) (lead ++ (token ++ b :: line))

/-- Blanks in front of a text are not part of any word. -/
theorem words_append_of_allBlank (h : allBlank lead = true) (rest : List Char) :
    words (lead ++ rest) = words rest := by
  induction lead with
  | nil => rfl
  | cons c lead ih =>
    rw [allBlank, List.all_cons, Bool.and_eq_true] at h
    rw [List.cons_append, words, if_pos h.1, ih h.2]

theorem words_of_allBlank (h : allBlank line = true) : words line = [] := by
  have hwords := words_append_of_allBlank h []
  rwa [List.append_nil] at hwords

/-- A token that a blank or nothing follows is a word. -/
theorem words_token (h : IsToken token) (hrest : ∀ c ∈ rest.head?, isBlank c = true) :
    words (token ++ rest) = token :: words rest := by
  obtain ⟨hne, hblank⟩ := h
  induction token with
  | nil => exact absurd rfl hne
  | cons c token ih =>
    rw [List.forall_mem_cons] at hblank
    have hc : ¬ isBlank c = true := by simp [hblank.1]
    rw [List.cons_append, words, if_neg hc]
    cases token with
    | nil =>
      -- the character stands alone, whatever the words behind the blank are
      cases rest with
      | nil => rfl
      | cons d rest =>
        have hd : isBlank d = true := hrest d rfl
        rw [List.nil_append]
        cases hwords : words (d :: rest) <;> simp [consWord, hd]
    | cons d token =>
      have hd : isBlank d = false := hblank.2 d List.mem_cons_self
      rw [ih (List.cons_ne_nil d token) hblank.2]
      simp [consWord, hd]

/-- **The words of a line are the tokens that were written on it.** -/
theorem words_of_writesTokens (h : WritesTokens tokens line)
    (htokens : ∀ token ∈ tokens, IsToken token) :
    words line = tokens := by
  induction h with
  | @last lead token trail hlead htrail =>
    have hbehind : ∀ c ∈ trail.head?, isBlank c = true := fun c hc =>
      List.all_eq_true.1 htrail c (List.mem_of_mem_head? hc)
    rw [words_append_of_allBlank hlead, words_token (htokens token List.mem_cons_self) hbehind,
      words_of_allBlank htrail]
  | @cons lead token line b tokens hlead hb _ ih =>
    rw [List.forall_mem_cons] at htokens
    have hbehind : ∀ c ∈ (b :: line).head?, isBlank c = true := by simpa using hb
    rw [words_append_of_allBlank hlead, words_token htokens.1 hbehind,
      words, if_pos hb, ih htokens.2]

/-- A line with a token is not blank. -/
theorem not_allBlank_of_writesTokens (h : WritesTokens tokens line)
    (htokens : ∀ token ∈ tokens, IsToken token) :
    allBlank line = false := by
  rw [Bool.eq_false_iff]
  intro hblank
  have hwords := words_of_writesTokens h htokens
  rw [words_of_allBlank hblank] at hwords
  cases h <;> cases hwords

end Text

namespace Datalines

variable {vars : List InputVariable} {tokens : List String} {records : List (List String)}
  {lines : List String}

/-! ## Rows -/

/-- **What a variable makes of the token at its place**, if there is one. -/
inductive Takes (character : Bool) : Option String → Value → Prop where
  | beyond : Takes character none .missing
  | point : Takes character (some ".") .missing
  | text {token : String} (hcharacter : character = true) (hpoint : token ≠ ".") :
    Takes character (some token) (.text token)
  | number {token : String} {n : Number} (hnumeric : character = false)
    (hread : Number.ofString? token = some n) : Takes character (some token) (.number n)
  | unreadable {token : String} (hnumeric : character = false)
      (hread : Number.ofString? token = none) :
    Takes character (some token) .missing

theorem takes_fieldValue (character : Bool) (token : Option String) :
    Takes character token (fieldValue character (token.map String.toList)) := by
  cases token with
  | none => exact .beyond
  | some token =>
    rw [Option.map_some, fieldValue]
    by_cases hpoint : token = "."
    · subst hpoint
      exact .point
    · have hchars : token.toList ≠ ['.'] := fun h => hpoint (String.toList_inj.1 h)
      rw [if_neg hchars]
      cases character with
      | true =>
        rw [if_pos rfl, String.ofList_toList]
        exact .text rfl hpoint
      | false =>
        rw [if_neg Bool.false_ne_true]
        cases hread : Number.read token.toList with
        | none => exact .unreadable rfl hread
        | some n => exact .number rfl hread

/-- The row of a record. -/
def recordRow (vars : List InputVariable) (tokens : List String) : Row :=
  OrderedMap.ofList (vars.zipIdx.map fun (v, i) =>
    (v.name, fieldValue v.character ((tokens.map String.toList)[i]?)))

/-- **What the row of a record holds**: the variables in their order, each with what it makes of the
token at its place, and nothing of the tokens that exceed the variables. -/
structure Reads (vars : List InputVariable) (tokens : List String) (row : Row) : Prop where
  columns : row.keys = vars.map (·.name)
  values : ∀ (i : Nat) (v : InputVariable), vars[i]? = some v →
    ∃ value, row.get? v.name = some value ∧ Takes v.character tokens[i]? value
  ignored : row = recordRow vars (tokens.take vars.length)

/-- Only as many tokens are looked at as there are variables. -/
theorem recordRow_take : recordRow vars (tokens.take vars.length) = recordRow vars tokens := by
  rw [recordRow, List.map_take]
  exact congrArg OrderedMap.ofList
    (map_zipIdx_take (fun v token => (v.name, fieldValue v.character token))
    vars (tokens.map String.toList))

theorem reads_recordRow (hdistinct : (vars.map (·.name)).Nodup) (tokens : List String) :
    Reads vars tokens (recordRow vars tokens) := by
  have hkeys : (vars.zipIdx.map fun (v, i) =>
      (v.name, fieldValue v.character ((tokens.map String.toList)[i]?))).map (·.1) =
        vars.map (·.name) := by
    rw [List.map_map]
    conv_rhs => rw [← List.zipIdx_map_fst 0 vars, List.map_map]
    rfl
  have hentries : (recordRow vars tokens).entries = vars.zipIdx.map fun (v, i) =>
      (v.name, fieldValue v.character ((tokens.map String.toList)[i]?)) :=
    -- with distinct names no entry takes the place of another
    OrderedMap.entries_ofList (by rwa [Entries.keys, hkeys])
  constructor
  case columns => rw [OrderedMap.keys, hentries, Entries.keys, hkeys]
  case values =>
    intro i v hv
    refine ⟨fieldValue v.character ((tokens.map String.toList)[i]?), ?_, ?_⟩
    · rw [OrderedMap.get?_eq_some_iff, hentries]
      exact List.mem_map.2 ⟨(v, i), List.mk_mem_zipIdx_iff_getElem?.2 hv, rfl⟩
    · rw [List.getElem?_map]
      exact takes_fieldValue v.character tokens[i]?
  case ignored => exact recordRow_take.symm

/-! ## Lines -/

/-- The ways to write records: each on a line of its own, and blank lines among them. -/
inductive WritesRecords : List (List String) → List String → Prop where
  | nil : WritesRecords [] []
  | record {tokens : List String} {line : String}
    {records : List (List String)} {lines : List String}
    (hline : Text.WritesTokens (tokens.map String.toList) line.toList)
    (h : WritesRecords records lines) :
    WritesRecords (tokens :: records) (line :: lines)
  | blank {line : String} {records : List (List String)} {lines : List String}
    (hblank : Text.isBlankString line = true) (h : WritesRecords records lines) :
    WritesRecords records (line :: lines)

/-- **Data lines that were written are read as the rows of their records.** -/
theorem read_records (hdistinct : (vars.map (·.name)).Nodup)
    (htokens : ∀ tokens ∈ records, ∀ token ∈ tokens, Text.IsToken token.toList)
    (hwritten : WritesRecords records lines) :
    List.Forall₂ (Reads vars) records (read vars lines) := by
  -- the lines are read as they were written, one after another
  induction hwritten with
  | nil => exact .nil
  | @record tokens line records lines hline _ ih =>
    rw [List.forall_mem_cons] at htokens
    have hwords : ∀ token ∈ tokens.map String.toList, Text.IsToken token := by
      rw [List.forall_mem_map]
      exact htokens.1
    have hrow : lineRow vars line.toList = recordRow vars tokens := by
      rw [lineRow, Text.words_of_writesTokens hline hwords]
      rfl
    rw [read, List.map_cons, List.filter_cons_of_pos
      (by simp [Text.not_allBlank_of_writesTokens hline hwords]), List.map_cons, hrow]
    exact .cons (reads_recordRow hdistinct tokens) (ih htokens.2)
  | @blank line records lines hblank _ ih =>
    have hline : Text.allBlank line.toList = true := hblank
    rw [read, List.map_cons, List.filter_cons_of_neg (by simp [hline])]
    exact ih htokens

/-- Control: blanks of several kinds, a point for a text, a token that spells no number, a record
that is too wide, one that is too short, and a blank line between them. -/
theorem read_records_uneven :
    let vars : List InputVariable := [⟨"name", true⟩, ⟨"age", false⟩, ⟨"code", true⟩]
    let records := [["john", "23", ".", "z"], ["mary", "x"]]
    let lines := ["\u00a0john 23\t.  z ", " \t", "mary\u3000x"]
    WritesRecords records lines ∧ List.Forall₂ (Reads vars) records (read vars lines) := by
  intro vars records lines
  have hjohn : "\u00a0john 23\t.  z ".toList = ['\u00a0'] ++ ("john".toList ++ ' ' ::
      ([] ++ ("23".toList ++ '\t' ::
        ([] ++ (".".toList ++ ' ' :: ([' '] ++ ("z".toList ++ [' ']))))))) := by
    decide +kernel
  have hmary : "mary\u3000x".toList =
      [] ++ ("mary".toList ++ '\u3000' :: ([] ++ ("x".toList ++ []))) := by
    decide +kernel
  have hwritten : WritesRecords records lines := by
    refine .record ?_ (.blank (by decide +kernel) (.record ?_ .nil))
    · rw [hjohn]
      exact .cons (by decide) (by decide) (.cons rfl (by decide) (.cons rfl (by decide)
        (.last (by decide) (by decide))))
    · rw [hmary]
      exact .cons rfl (by decide) (.last rfl rfl)
  have htokens : ∀ tokens ∈ records, ∀ token ∈ tokens, Text.IsToken token.toList := by
    decide +kernel
  exact ⟨hwritten, read_records (by decide) htokens hwritten⟩

end Datalines

end DataStep
