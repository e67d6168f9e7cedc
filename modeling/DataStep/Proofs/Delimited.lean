import DataStep.Proofs.Dataset
import DataStep.Proofs.Text
import Mathlib.Data.List.Forall2

/-!
# Reading what was written

A table is written as delimited text by writing every field in quotes, with the quotes in it
doubled, or raw if nothing in it can be mistaken; lines end in a line feed, with or without a
carriage return in front of it, and blank lines may stand anywhere (`Written`). Main statement:
such a text is read as the data set of the table, every column of every row holding what its cell
stands for (`read_written`).

The fields of a line are found again one after another (`splitFields_of_writesRecord`), and a line
of fields is neither blank nor cut (`Whole`), so that the lines that are not blank are the lines
that were written (`filter_lines_of_writesLines`).
-/

set_option autoImplicit false

namespace DataStep

/-! ## Lines -/

namespace Text

variable {l text : List Char} {ls : List (List Char)}

/-- A line without the carriage return at its end. -/
def dropReturn (l : List Char) : List Char := if l.getLast? = some '\r' then l.dropLast else l

theorem dropReturn_cons (c : Char) (hl : l ≠ []) : dropReturn (c :: l) = c :: dropReturn l := by
  unfold dropReturn
  rw [List.getLast?_cons_of_ne_nil hl, List.dropLast_cons_of_ne_nil hl]
  split <;> rfl

theorem dropReturn_of_ne (h : l.getLast? ≠ some '\r') : dropReturn l = l := if_neg h

theorem dropReturn_concat (l : List Char) : dropReturn (l ++ ['\r']) = l := by
  simp [dropReturn]

theorem allBlank_dropReturn (h : allBlank l = true) : allBlank (dropReturn l) = true := by
  unfold dropReturn
  split
  · rw [allBlank, List.all_eq_true] at h ⊢
    exact fun c hc => h c (List.dropLast_subset l hc)
  · exact h

/-- A line feed ends the line in front of it. -/
theorem lines_append_feed (h : '\n' ∉ l) (rest : List Char) :
    lines (l ++ '\n' :: rest) = dropReturn l :: lines rest := by
  induction l with
  | nil => rfl
  | cons c l ih =>
    rw [List.mem_cons, not_or] at h
    cases l with
    | nil =>
      by_cases hc : c = '\r'
      · subst hc
        rfl
      · rw [List.cons_append, List.nil_append, lines, lines, dropReturn_of_ne (by simpa using hc)]
        · exact Ne.symm h.1
        · intro rest' hc'
          exact absurd hc' hc
    | cons d l =>
      rw [List.cons_append, lines, ih h.2, dropReturn_cons c (List.cons_ne_nil d l)]
      · exact Ne.symm h.1
      · intro rest' hc hrest
        rw [List.cons_append, List.cons.injEq] at hrest
        exact h.2 (hrest.1 ▸ List.mem_cons_self)

/-- What follows the last line feed is a line unless it is empty. -/
theorem lines_of_no_feed (h : '\n' ∉ l) (hl : l ≠ []) : lines l = [l] := by
  induction l with
  | nil => exact absurd rfl hl
  | cons c l ih =>
    rw [List.mem_cons, not_or] at h
    have hfeed : ∀ rest, l ≠ '\n' :: rest := fun rest heq => h.2 (heq ▸ List.mem_cons_self)
    rw [lines]
    · cases l with
      | nil => rfl
      | cons d l => rw [ih h.2 (List.cons_ne_nil d l)]
    · exact Ne.symm h.1
    · intro rest _ hrest
      exact hfeed rest hrest

/-- A line that is not blank and that line ends leave as it is. -/
structure Whole (l : List Char) : Prop where
  no_feed : '\n' ∉ l
  no_return : l.getLast? ≠ some '\r'
  not_blank : allBlank l = false

theorem Whole.ne_nil (h : Whole l) : l ≠ [] := by
  rintro rfl
  cases h.not_blank

/-- Lines are written with line ends behind them, the last one perhaps without, and with blank lines
among them. -/
inductive WritesLines : List (List Char) → List Char → Prop where
  | nil : WritesLines [] []
  | feed {l text : List Char} {ls : List (List Char)} (h : WritesLines ls text) :
    WritesLines (l :: ls) (l ++ '\n' :: text)
  | returnFeed {l text : List Char} {ls : List (List Char)} (h : WritesLines ls text) :
    WritesLines (l :: ls) (l ++ '\r' :: '\n' :: text)
  | last {l : List Char} : WritesLines [l] l
  | blank {b text : List Char} {ls : List (List Char)}
    (hblank : allBlank b = true) (hfeed : '\n' ∉ b)
    (h : WritesLines ls text) : WritesLines ls (b ++ '\n' :: text)
  | lastBlank {b : List Char} (hblank : allBlank b = true) (hfeed : '\n' ∉ b) : WritesLines [] b

/-- **The lines of a text that are not blank are the lines that were written.** -/
theorem filter_lines_of_writesLines (h : WritesLines ls text) (hls : ∀ l ∈ ls, Whole l) :
    (lines text).filter (fun l => !allBlank l) = ls := by
  have hkeep : ∀ {l : List Char} (rest : List (List Char)), Whole l →
      (l :: rest).filter (fun l => !allBlank l) = l :: rest.filter fun l => !allBlank l := by
    intro l rest hl
    rw [List.filter_cons_of_pos]
    rw [hl.not_blank]
    rfl
  have hdrop : ∀ {l : List Char} (rest : List (List Char)), allBlank l = true →
      (l :: rest).filter (fun l => !allBlank l) = rest.filter fun l => !allBlank l := by
    intro l rest hl
    rw [List.filter_cons_of_neg]
    rw [hl]
    exact Bool.false_ne_true
  induction h with
  | nil => rfl
  | @feed l text ls h ih =>
    have hl := hls l List.mem_cons_self
    rw [lines_append_feed hl.no_feed, dropReturn_of_ne hl.no_return, hkeep _ hl,
      ih fun l hl => hls l (List.mem_cons_of_mem _ hl)]
  | @returnFeed l text ls h ih =>
    have hl := hls l List.mem_cons_self
    have hfeed : '\n' ∉ l ++ ['\r'] := by simpa using hl.no_feed
    rw [List.append_cons, lines_append_feed hfeed, dropReturn_concat, hkeep _ hl,
      ih fun l hl => hls l (List.mem_cons_of_mem _ hl)]
  | @last l =>
    have hl := hls l List.mem_cons_self
    rw [lines_of_no_feed hl.no_feed hl.ne_nil, hkeep _ hl]
    rfl
  | @blank b text ls hblank hfeed h ih =>
    rw [lines_append_feed hfeed, hdrop _ (allBlank_dropReturn hblank), ih hls]
  | @lastBlank b hblank hfeed =>
    by_cases hb : b = []
    · rw [hb]
      rfl
    · rw [lines_of_no_feed hfeed hb, hdrop _ hblank]
      rfl

end Text

namespace Delimited

variable {delimiter : Char} {cell w line : List Char} {cells : List (List Char)}

/-! ## Fields -/

/-- A text with every quote in it doubled. -/
def doubled (cell : List Char) : List Char :=
  cell.flatMap fun c => if c = '"' then ['"', '"'] else [c]

/-- Nothing in a text can be mistaken for a delimiter, a quote or a line end,
and it is not blank. -/
structure Plain (delimiter : Char) (cell : List Char) : Prop where
  not_blank : Text.allBlank cell = false
  no_delimiter : delimiter ∉ cell
  no_quote : '"' ∉ cell
  no_return : '\r' ∉ cell
  no_feed : '\n' ∉ cell

/-- The ways to write a field. -/
inductive WritesField (delimiter : Char) : List Char → List Char → Prop where
  | quoted (cell : List Char) : WritesField delimiter cell ('"' :: (doubled cell ++ ['"']))
  | raw {cell : List Char} (h : Plain delimiter cell) : WritesField delimiter cell cell

/-- The ways to write a record: its fields with delimiters between them. -/
inductive WritesRecord (delimiter : Char) : List (List Char) → List Char → Prop where
  | last {cell w : List Char} (h : WritesField delimiter cell w) : WritesRecord delimiter [cell] w
  | cons {cell w line : List Char} {cells : List (List Char)} (h : WritesField delimiter cell w)
    (hrest : WritesRecord delimiter cells line) :
    WritesRecord delimiter (cell :: cells) (w ++ delimiter :: line)

/-- A quote that no other one follows closes the quoted part. -/
theorem fieldsFrom_close {rest : List Char} (field : List Char) (h : rest.head? ≠ some '"') :
    fieldsFrom delimiter true field ('"' :: rest) = fieldsFrom delimiter false field rest := by
  cases rest with
  | nil => rfl
  | cons c rest =>
    have hc : c ≠ '"' := fun heq => h (heq ▸ rfl)
    rw [fieldsFrom]
    intro rest' heq
    exact hc (List.cons.inj heq).1

/-- The text in quotes is read back up to the quote that closes it. -/
theorem fieldsFrom_doubled (cell field : List Char) {rest : List Char} (h : rest.head? ≠ some '"') :
    fieldsFrom delimiter true field (doubled cell ++ '"' :: rest) =
      fieldsFrom delimiter false (cell.reverse ++ field) rest := by
  induction cell generalizing field with
  | nil => exact fieldsFrom_close field h
  | cons c cell ih =>
    rw [List.reverse_cons, List.append_assoc, List.singleton_append, ← ih (c :: field)]
    by_cases hc : c = '"'
    · subst hc
      rfl
    · have hdoubled : doubled (c :: cell) = c :: doubled cell := by simp [doubled, hc]
      rw [hdoubled, List.cons_append, fieldsFrom]
      · exact fun rest' heq => absurd heq hc
      · exact hc

/-- A raw text is taken over character by character. -/
theorem fieldsFrom_raw (h : Plain delimiter cell) (rest : List Char) :
    fieldsFrom delimiter false [] (cell ++ rest) =
      fieldsFrom delimiter false cell.reverse rest := by
  have hfrom : ∀ (cs field : List Char), delimiter ∉ cs → '"' ∉ cs →
      fieldsFrom delimiter false field (cs ++ rest) =
        fieldsFrom delimiter false (cs.reverse ++ field) rest := by
    intro cs
    induction cs with
    | nil => exact fun _ _ _ => rfl
    | cons c cs ih =>
      intro field hdelimiter hquote
      rw [List.mem_cons, not_or] at hdelimiter hquote
      have hopens : ¬ ((c = '"' && Text.allBlank field) = true) := by
        simp [Ne.symm hquote.1]
      rw [List.cons_append, fieldsFrom, if_neg hopens, if_neg (Ne.symm hdelimiter.1),
        ih (c :: field) hdelimiter.2 hquote.2, List.reverse_cons, List.append_assoc,
        List.singleton_append]
  rw [hfrom cell [] h.no_delimiter h.no_quote, List.append_nil]

theorem fieldsFrom_of_writesField (h : WritesField delimiter cell w) {rest : List Char}
    (hrest : rest.head? ≠ some '"') :
    fieldsFrom delimiter false [] (w ++ rest) = fieldsFrom delimiter false cell.reverse rest := by
  cases h with
  | quoted =>
    have hopen : fieldsFrom delimiter false [] ('"' :: (doubled cell ++ '"' :: rest)) =
        fieldsFrom delimiter true [] (doubled cell ++ '"' :: rest) := rfl
    have happend : '"' :: (doubled cell ++ ['"']) ++ rest =
        '"' :: (doubled cell ++ '"' :: rest) := by
      simp
    rw [happend, hopen, fieldsFrom_doubled cell [] hrest, List.append_nil]
  | raw hplain => exact fieldsFrom_raw hplain rest

/-- **The fields of a record are read as they were written.** -/
theorem splitFields_of_writesRecord (hdelimiter : delimiter ≠ '"')
    (h : WritesRecord delimiter cells line) : splitFields delimiter line = some cells := by
  induction h with
  | @last cell w hfield =>
    have hread : fieldsFrom delimiter false [] (w ++ []) =
        fieldsFrom delimiter false cell.reverse [] :=
      fieldsFrom_of_writesField hfield (by simp)
    rw [List.append_nil] at hread
    rw [splitFields, hread, fieldsFrom, List.reverse_reverse]
  | @cons cell w line cells hfield hrest ih =>
    have hhead : (delimiter :: line).head? ≠ some '"' := by simpa using hdelimiter
    have hopens : ¬ ((delimiter = '"' && Text.allBlank cell.reverse) = true) := by simp [hdelimiter]
    rw [splitFields] at ih
    rw [splitFields, fieldsFrom_of_writesField hfield hhead, fieldsFrom,
      if_neg hopens, if_pos rfl, ih, Option.map_some, List.reverse_reverse]

/-! ## Lines of fields -/

theorem mem_doubled {c : Char} (h : c ∈ doubled cell) : c ∈ cell ∨ c = '"' := by
  obtain ⟨d, hd, hc⟩ := List.mem_flatMap.1 h
  split at hc
  · right
    simpa using hc
  · left
    rw [List.mem_singleton] at hc
    exact hc ▸ hd

/-- A field is written so that it can stand alone on a line. -/
theorem whole_of_writesField (h : WritesField delimiter cell w)
    (hfeed : '\n' ∉ cell) : Text.Whole w := by
  cases h with
  | quoted =>
    refine ⟨?_, by rw [← List.cons_append, List.getLast?_concat]; decide,
      by simp [Text.allBlank, Text.isBlank]⟩
    intro hmem
    rw [List.mem_cons, List.mem_append, List.mem_singleton] at hmem
    rcases hmem with heq | hmem | heq
    · exact absurd heq (by decide)
    · exact (mem_doubled hmem).elim hfeed (by decide)
    · exact absurd heq (by decide)
  | raw hplain =>
    exact ⟨hplain.no_feed, fun hlast => hplain.no_return (List.mem_of_getLast? hlast),
      hplain.not_blank⟩

theorem whole_of_writesRecord (hdelimiter : delimiter ≠ '\n')
    (h : WritesRecord delimiter cells line)
    (hfeed : ∀ cell ∈ cells, '\n' ∉ cell) : Text.Whole line := by
  induction h with
  | last hfield => exact whole_of_writesField hfield (hfeed _ List.mem_cons_self)
  | @cons cell w line cells hfield hrest ih =>
    have hw := whole_of_writesField hfield (hfeed cell List.mem_cons_self)
    have hline := ih fun cell hcell => hfeed cell (List.mem_cons_of_mem _ hcell)
    refine ⟨?_, ?_, ?_⟩
    · rw [List.mem_append, List.mem_cons]
      rintro (hmem | heq | hmem)
      · exact hw.no_feed hmem
      · exact hdelimiter heq.symm
      · exact hline.no_feed hmem
    · -- the line ends as its last field does
      rw [List.getLast?_append_cons, List.getLast?_cons_of_ne_nil hline.ne_nil]
      exact hline.no_return
    · have hblank := hw.not_blank
      rw [Text.allBlank] at hblank ⊢
      rw [List.all_append, hblank, Bool.false_and]

theorem whole_of_writesRecords {table : List (List (List Char))} {lines : List (List Char)}
    (hdelimiter : delimiter ≠ '\n') (h : List.Forall₂ (WritesRecord delimiter) table lines)
    (hfeed : ∀ cells ∈ table, ∀ cell ∈ cells, '\n' ∉ cell) : ∀ line ∈ lines, Text.Whole line := by
  induction h with
  | nil =>
    intro line hline
    cases hline
  | @cons cells line table lines hrecord _ ih =>
    rw [List.forall_mem_cons] at hfeed ⊢
    exact ⟨whole_of_writesRecord hdelimiter hrecord hfeed.1, ih hfeed.2⟩

/-! ## Cells -/

/-- What a cell stands for. -/
inductive StandsFor (cell : String) : Value → Prop where
  | missing (h : Text.isBlankString cell = true ∨
      Text.trimString cell = ".") : StandsFor cell .missing
  | number {n : Number} (hblank : Text.isBlankString cell = false)
    (hpoint : Text.trimString cell ≠ ".")
    (hread : Number.read (Text.trimString cell).toList = some n) (hfinite : n.isFinite = true) :
    StandsFor cell (.number n)
  | text (hblank : Text.isBlankString cell = false) (hpoint : Text.trimString cell ≠ ".")
    (hread : ∀ n, Number.read (Text.trimString cell).toList = some n → n.isFinite = false) :
    StandsFor cell (.text cell)

/-- A cell stands for one value, which is the one that is read. -/
theorem standsFor_iff {cell : String} {v : Value} :
    StandsFor cell v ↔ v = fieldValue cell.toList := by
  have hblank : Text.trim cell.toList = [] ↔ Text.isBlankString cell = true := by
    rw [Text.trim_eq_nil_iff]
    rfl
  have hpoint : Text.trim cell.toList = ['.'] ↔ Text.trimString cell = "." := by
    rw [Text.trimString, ← String.toList_inj, String.toList_ofList]
    rfl
  have htoList : (Text.trimString cell).toList = Text.trim cell.toList := String.toList_ofList
  constructor
  · intro h
    cases h with
    | missing h =>
      rw [← hblank, ← hpoint] at h
      simp [fieldValue, h]
    | number hblank' hpoint' hread hfinite =>
      have h₁ : Text.trim cell.toList ≠ [] := fun h => by simp [hblank.1 h] at hblank'
      have h₂ : Text.trim cell.toList ≠ ['.'] := fun h => hpoint' (hpoint.1 h)
      rw [htoList] at hread
      simp [fieldValue, h₁, h₂, hread, hfinite]
    | text hblank' hpoint' hread =>
      have h₁ : Text.trim cell.toList ≠ [] := fun h => by simp [hblank.1 h] at hblank'
      have h₂ : Text.trim cell.toList ≠ ['.'] := fun h => hpoint' (hpoint.1 h)
      rw [htoList] at hread
      cases hvalue : Number.read (Text.trim cell.toList) with
      | none => simp [fieldValue, h₁, h₂, hvalue]
      | some n => simp [fieldValue, h₁, h₂, hvalue, hread n hvalue]
  · rintro rfl
    by_cases hmissing : Text.trim cell.toList = [] ∨ Text.trim cell.toList = ['.']
    · have hvalue : fieldValue cell.toList = .missing := by simp [fieldValue, hmissing]
      rw [hvalue]
      exact .missing (hmissing.imp hblank.1 hpoint.1)
    · rw [not_or] at hmissing
      have hblank' : Text.isBlankString cell = false := by
        rw [Bool.eq_false_iff, ne_eq, ← hblank]
        exact hmissing.1
      have hpoint' : Text.trimString cell ≠ "." := fun h => hmissing.2 (hpoint.2 h)
      cases hread : Number.read (Text.trim cell.toList) with
      | none =>
        have hvalue : fieldValue cell.toList = .text cell := by simp [fieldValue, hmissing, hread]
        rw [hvalue]
        refine .text hblank' hpoint' fun n hn => ?_
        rw [htoList, hread] at hn
        cases hn
      | some n =>
        cases hfinite : n.isFinite with
        | true =>
          have hvalue : fieldValue cell.toList = .number n := by
            simp [fieldValue, hmissing, hread, hfinite]
          rw [hvalue]
          exact .number hblank' hpoint' (htoList ▸ hread) hfinite
        | false =>
          have hvalue : fieldValue cell.toList = .text cell := by
            simp [fieldValue, hmissing, hread, hfinite]
          rw [hvalue]
          refine .text hblank' hpoint' fun m hm => ?_
          rw [htoList, hread] at hm
          cases hm
          exact hfinite

/-- The row of a record under distinct names. -/
theorem entries_recordRow {header : List String} (hdistinct : header.Nodup)
    (hwidth : cells.length = header.length) :
    (recordRow header cells).entries = header.zip (cells.map fieldValue) := by
  have hrow : recordRow header cells =
      .ofList (header.zipIdx.map fun e => (e.1, fieldValue ((cells[e.2]?).getD []))) := rfl
  have hzip : (header.zipIdx.map fun e => (e.1, fieldValue ((cells[e.2]?).getD []))) =
      header.zip (cells.map fieldValue) := by
    apply List.ext_getElem
    · simp [hwidth]
    · intro i hi hi'
      have hcells : i < cells.length := by simpa [hwidth] using hi
      simp [List.getElem?_eq_getElem hcells]
  have hkeys : (Entries.keys (header.zip (cells.map fieldValue))).Nodup := by
    rw [Entries.keys, List.map_fst_zip (by simp [hwidth])]
    exact hdistinct
  rw [hrow, hzip, OrderedMap.entries_ofList hkeys]

/-! ## Tables -/

/-- The ways to write a table with a header. -/
def Written (delimiter : Char) (header : List String)
    (records : List (List String)) (text : String) :
    Prop :=
  ∃ lines, List.Forall₂ (WritesRecord delimiter)
    ((header :: records).map (·.map String.toList)) lines ∧
    Text.WritesLines lines text.toList

/-- A row holds what the cells of a record stand for. -/
def Holds (header : List String) (cells : List String) (row : Row) : Prop :=
  row.keys = header ∧ ∀ (i : Nat) (column cell : String), header[i]? = some column →
    cells[i]? = some cell →
    ∃ v, row.get? column = some v ∧ StandsFor cell v

theorem holds_recordRow {header cells : List String} (hdistinct : header.Nodup)
    (hwidth : cells.length = header.length) :
    Holds header cells (recordRow header (cells.map String.toList)) := by
  have hlength : (cells.map String.toList).length = header.length := by simpa using hwidth
  have hentries := entries_recordRow hdistinct hlength
  refine ⟨?_, ?_⟩
  · rw [OrderedMap.keys, hentries, Entries.keys, List.map_fst_zip (by simp [hwidth])]
  · intro i column cell hcolumn hcell
    refine ⟨fieldValue cell.toList, ?_, standsFor_iff.2 rfl⟩
    rw [OrderedMap.get?_eq_some_iff, hentries, List.mem_iff_getElem?]
    exact ⟨i, by simp [List.getElem?_zip_eq_some, hcolumn, hcell]⟩

/-! ## Reading -/

theorem map_snd_numberedLines (text : List Char) :
    (numberedLines text).map (·.2) = (Text.lines text).filter fun l => !Text.allBlank l := by
  have hlines : (((Text.lines text).zipIdx 1).map Prod.swap).map (·.2) = Text.lines text := by
    rw [List.map_map]
    exact List.zipIdx_map_fst 1 (Text.lines text)
  conv_rhs => rw [← hlines, List.filter_map]
  rfl

/-- The lines of a table that was written give its records, whatever their numbers are. -/
theorem mapM_lineFields (source : String) {table : List (List (List Char))}
    {lines : List (Nat × List Char)}
    (h : List.Forall₂ (fun cells line => splitFields delimiter line.2 = some cells) table lines) :
    lines.mapM (lineFields source delimiter) = .ok table := by
  induction h with
  | nil => rfl
  | cons hsplit _ ih =>
    rw [List.mapM_cons, ih, lineFields, hsplit]
    rfl

/-- **A table that was written is read again.** -/
theorem read_written {header : List String} {records : List (List String)} {text : String}
    (hquote : delimiter ≠ '"') (hbreak : delimiter ≠ '\n') (hdistinct : header.Nodup)
    (htrimmed : ∀ name ∈ header, Text.trimString name = name)
    (hwidth : ∀ record ∈ records, record.length = header.length)
    (hfeed : ∀ cells ∈ header :: records, ∀ cell ∈ cells, '\n' ∉ cell.toList)
    (hwritten : Written delimiter header records text) (name source : String) :
    ∃ rows, read name text delimiter source = .ok ⟨name, header, rows⟩ ∧
      List.Forall₂ (Holds header) records rows := by
  obtain ⟨lines, hlines, htext⟩ := hwritten
  have hwhole : ∀ line ∈ lines, Text.Whole line := by
    refine whole_of_writesRecords hbreak hlines fun cells hcells cell hcell => ?_
    obtain ⟨record, hrecord, rfl⟩ := List.mem_map.1 hcells
    obtain ⟨s, hs, rfl⟩ := List.mem_map.1 hcell
    exact hfeed record hrecord s hs
  have hnumbered : (numberedLines text.toList).map (·.2) = lines :=
    (map_snd_numberedLines text.toList).trans (Text.filter_lines_of_writesLines htext hwhole)
  rw [← hnumbered, List.forall₂_map_right_iff] at hlines
  have hsplit : List.Forall₂ (fun cells line => splitFields delimiter line.2 = some cells)
      ((header :: records).map (·.map String.toList)) (numberedLines text.toList) :=
    hlines.imp fun cells line hrecord => splitFields_of_writesRecord hquote hrecord
  have hnames : (header.map String.toList).map
      (fun field => String.ofList (Text.trim field)) = header := by
    rw [List.map_map]
    exact (List.map_congr_left htrimmed).trans (List.map_id header)
  unfold read
  generalize numberedLines text.toList = numbered at hsplit
  rw [List.map_cons] at hsplit
  cases hsplit with
  | @cons _ first _ rest hfirst hrest =>
    have hfields : lineFields source delimiter first = .ok (header.map String.toList) := by
      rw [lineFields, hfirst]
    have hdeclared : header.foldl Dataset.declare [] = header := by
      rw [Dataset.foldl_declare_of_nodup (by simpa using hdistinct), List.nil_append]
    refine ⟨records.map fun record => recordRow header (record.map String.toList), ?_, ?_⟩
    · simp only [hfields, mapM_lineFields source hrest, bind, Except.bind, hnames, hdeclared,
        List.map_map, Function.comp_def]
    · rw [List.forall₂_map_right_iff, List.forall₂_same]
      exact fun record hrecord => holds_recordRow hdistinct (hwidth record hrecord)

/-- Control: a doubled quote in the header, a quoted delimiter with a carriage return behind it, a
quoted point, an empty cell, and blank lines. -/
theorem read_written_mixed :
    let header := ["a", "x\""]
    let records := [["1e1", "p,\rq"], [".", ""]]
    let text := "\na,\"x\"\"\"\r\n \t\n1e1,\"p,\rq\"\n\".\",\"\""
    Written ',' header records text ∧
      ∃ rows, read "t" text ',' "f" = .ok ⟨"t", header, rows⟩ ∧
        List.Forall₂ (Holds header) records rows := by
  intro header records text
  have hwritten : Written ',' header records text := by
    refine ⟨["a,\"x\"\"\"".toList, "1e1,\"p,\rq\"".toList, "\".\",\"\"".toList], ?_, ?_⟩
    · have ha : Plain ',' ['a'] := ⟨by decide, by decide, by decide, by decide, by decide⟩
      have hnumber : Plain ',' ['1', 'e', '1'] :=
        ⟨by decide, by decide, by decide, by decide, by decide⟩
      exact .cons (.cons (.raw ha) (.last (.quoted _)))
        (.cons (.cons (.raw hnumber) (.last (.quoted _)))
          (.cons (.cons (.quoted _) (.last (.quoted _))) .nil))
    · have htext : text.toList = [] ++ '\n' :: ("a,\"x\"\"\"".toList ++ '\r' :: '\n' ::
          ([' ', '\t'] ++ '\n' :: ("1e1,\"p,\rq\"".toList ++ '\n' :: "\".\",\"\"".toList))) := by
        decide +kernel
      rw [htext]
      exact .blank rfl (by decide) (.returnFeed (.blank (by decide) (by decide) (.feed .last)))
  exact ⟨hwritten, read_written (by decide) (by decide) (by decide) (by decide +kernel) (by decide)
    (by decide +kernel) hwritten "t" "f"⟩

end Delimited

end DataStep
