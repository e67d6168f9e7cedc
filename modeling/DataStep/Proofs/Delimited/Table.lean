import DataStep.Proofs.Delimited

/-!
# Malformed lines and rectangular tables

Delimited text is refused because of one line: the first that is not blank and ends inside
quotes. Whether a line ends inside quotes is told by an automaton which goes through the line
once and of the fields keeps no more than whether the current one is blank so far (`Quoting`). It
agrees with the reader that collects the fields (`fieldsFrom_eq_none_iff`), so the lines that
have no fields are the malformed ones.

Main statement: for every text, delimiter and source, reading reports the number of the first
malformed line of the text, blank lines counted, and where no line is malformed it gives a table
with one row for each line behind the header, every row with the distinct names of the header for
its columns (`read_outcome`).
-/

set_option autoImplicit false

namespace DataStep.Delimited

variable {delimiter : Char} {header : List String} {fields : List (List Char)}

/-! ## Open quotes -/

/-- Where a reader stands in a line: outside quotes, inside quotes, or behind a quote inside quotes,
which closes them unless another one follows. Each place tells whether the field is blank so far. -/
inductive Quoting where
  | outside (blank : Bool)
  | inside (blank : Bool)
  | behindQuote (blank : Bool)

namespace Quoting

/-- Goes on outside quotes. -/
def pass (delimiter : Char) (blank : Bool) (c : Char) : Quoting :=
  -- the blanks in front of an opening quote are dropped, so the field starts again
  if c = '"' && blank then .inside true
  else if c = delimiter then .outside true
  else .outside (blank && Text.isBlank c)

/-- Goes on by one character. -/
def next (delimiter : Char) : Quoting → Char → Quoting
  | .outside blank, c => pass delimiter blank c
  | .inside blank, c => if c = '"' then .behindQuote blank else .inside (blank && Text.isBlank c)
  -- two quotes stand for one, and close nothing
  | .behindQuote blank, c => if c = '"' then .inside false else pass delimiter blank c

/-- Whether quotes are open. A quote that ends a line has closed them. -/
def isOpen : Quoting → Bool
  | .inside _ => true
  | _ => false

/-- The place of a reader that is inside quotes or not. -/
def within (quotes blank : Bool) : Quoting := if quotes then .inside blank else .outside blank

/-- A quote that no other one follows has closed the quotes. -/
theorem isOpen_behindQuote (delimiter : Char) (blank : Bool) {rest : List Char}
    (h : rest.head? ≠ some '"') :
    (rest.foldl (next delimiter) (.behindQuote blank)).isOpen =
      (rest.foldl (next delimiter) (.outside blank)).isOpen := by
  cases rest with
  | nil => rfl
  | cons c rest =>
    have hc : c ≠ '"' := by simpa using h
    simp [next, hc]

end Quoting

/-- Whether a line ends inside quotes. -/
def endsInQuotes (delimiter : Char) (line : List Char) : Bool :=
  (line.foldl (Quoting.next delimiter) (.outside true)).isOpen

/-- **From every place on, the fields of a line are missing exactly if the automaton
ends inside quotes.** -/
theorem fieldsFrom_eq_none_iff (quotes : Bool) (field line : List Char) :
    fieldsFrom delimiter quotes field line = none ↔
      (line.foldl (Quoting.next delimiter) (.within quotes (Text.allBlank field))).isOpen =
        true := by
  fun_induction fieldsFrom delimiter quotes field line with
  | case1 => simp [Quoting.within, Quoting.isOpen]
  | case2 => simp [Quoting.within, Quoting.isOpen]
  | case3 field rest ih =>
    -- the field holds the quote now, so it is not blank
    rw [ih]
    rfl
  | case4 field rest hsingle ih =>
    -- the field goes on outside quotes, and the automaton waits behind the quote
    have hhead : rest.head? ≠ some '"' := by
      intro hhead
      obtain ⟨rest', hrest⟩ := List.head?_eq_some_iff.1 hhead
      exact hsingle rest' hrest
    have hclosed := Quoting.isOpen_behindQuote delimiter (Text.allBlank field) hhead
    rw [ih, List.foldl_cons]
    exact (congrArg (· = true) hclosed).symm.to_iff
  | case5 field c rest _ hc ih =>
    have hnext : Quoting.next delimiter (.within true (Text.allBlank field)) c =
        .within true (Text.allBlank (c :: field)) :=
      (if_neg hc).trans (congrArg Quoting.inside (Bool.and_comm _ _))
    rw [ih, List.foldl_cons, hnext]
  | case6 field c rest hopens ih =>
    have hnext : Quoting.next delimiter (.within false (Text.allBlank field)) c =
        .within true (Text.allBlank []) := if_pos hopens
    rw [ih, List.foldl_cons, hnext]
  | case7 field rest hopens ih =>
    have hnext : Quoting.next delimiter (.within false (Text.allBlank field)) delimiter =
        .within false (Text.allBlank []) := (if_neg hopens).trans (if_pos rfl)
    rw [Option.map_eq_none_iff, ih, List.foldl_cons, hnext]
  | case8 field c rest hopens hdelimiter ih =>
    have hnext : Quoting.next delimiter (.within false (Text.allBlank field)) c =
        .within false (Text.allBlank (c :: field)) :=
      (if_neg hopens).trans
        ((if_neg hdelimiter).trans (congrArg Quoting.outside (Bool.and_comm _ _)))
    rw [ih, List.foldl_cons, hnext]

theorem splitFields_eq_none_iff {line : List Char} :
    splitFields delimiter line = none ↔ endsInQuotes delimiter line = true :=
  fieldsFrom_eq_none_iff false [] line

/-! ## Rows of records -/

/-- **What the row of a record holds**: the distinct names of the header in the order of their first
places, under each name what the field at its last place stands for, missing where the record is too
short for it, and nothing of the fields that exceed the header. -/
structure Fills (header : List String) (fields : List (List Char)) (row : Row) : Prop where
  columns : row.keys = header.eraseDups
  filled : ∀ before name after field, header = before ++ name :: after → name ∉ after →
    fields[before.length]? = some field →
      ∃ v, row.get? name = some v ∧ StandsFor (String.ofList field) v
  padded : ∀ before name after, header = before ++ name :: after → name ∉ after →
    fields.length ≤ before.length → row.get? name = some .missing
  ignored : row = recordRow header (fields.take header.length)

/-- A name has the value of the field at its last place. -/
theorem get?_recordRow (fields : List (List Char)) {before after : List String} {name : String}
    (hlast : name ∉ after) : (recordRow (before ++ name :: after) fields).get? name =
      some (fieldValue (fields[before.length]?.getD [])) := by
  have hafter : name ∉ ((after.zipIdx (before.length + 1)).map fun e =>
      (e.1, fieldValue ((fields[e.2]?).getD []))).map (·.1) := by
    rw [List.map_map]
    intro hmem
    obtain ⟨⟨column, i⟩, he, rfl⟩ := List.mem_map.1 hmem
    exact hlast (List.fst_mem_of_mem_zipIdx he)
  rw [recordRow, List.zipIdx_append, List.zipIdx_cons, List.map_append, List.map_cons, Nat.zero_add]
  exact OrderedMap.get?_ofList_append hafter

/-- Only as many fields are looked at as the header has names. -/
theorem recordRow_take : recordRow header (fields.take header.length) = recordRow header fields :=
  congrArg OrderedMap.ofList
    (map_zipIdx_take (fun column field => (column, fieldValue (field.getD [])))
    header fields)

theorem fills_recordRow : Fills header fields (recordRow header fields) where
  columns := by
    rw [recordRow, OrderedMap.keys_ofList, List.map_map]
    exact congrArg List.eraseDups (List.zipIdx_map_fst 0 header)
  -- of the places of a name the last one has the say
  filled := by
    rintro before name after field rfl hlast hfield
    rw [get?_recordRow fields hlast, hfield]
    refine ⟨_, rfl, standsFor_iff.2 ?_⟩
    rw [String.toList_ofList]
    rfl
  padded := by
    rintro before name after rfl hlast hshort
    rw [get?_recordRow fields hlast, List.getElem?_eq_none hshort]
    rfl
  ignored := recordRow_take.symm

/-! ## Lines -/

/-- Whether a line is not blank and ends inside quotes. -/
def malformed (delimiter : Char) (line : List Char) : Bool :=
  !Text.allBlank line && endsInQuotes delimiter line

/-- The names that the fields of a header give. -/
def headerNames (fields : List (List Char)) : List String :=
  fields.map fun field => String.ofList (Text.trim field)

/-- The data set of the fields of all lines, the first of which is the header. -/
def layOut (name : String) : List (List (List Char)) → Dataset
  | [] => .new name
  | names :: records => ⟨name, (headerNames names).foldl Dataset.declare [],
      records.map (recordRow (headerNames names))⟩

/-- Reading splits the lines that are not blank one after another and then lays out their fields. -/
theorem read_eq (name text : String) (delimiter : Char) (source : String) :
    read name text delimiter source =
      ((numberedLines text.toList).mapM (lineFields source delimiter)).map (layOut name) := by
  unfold read
  cases numberedLines text.toList with
  | nil => rfl
  | cons first records =>
    dsimp only
    rw [List.mapM_cons]
    cases lineFields source delimiter first with
    | error e => rfl
    | ok names => cases records.mapM (lineFields source delimiter) <;> rfl

/-- **The lines that are not blank have fields up to the first malformed line,
which gives its number.** -/
theorem mapM_lineFields_numbered (source : String) (lines : List (List Char)) (k : Nat) :
    (((lines.zipIdx k).map fun (line, i) => (i, line)).filter fun e => !Text.allBlank e.2).mapM
        (lineFields source delimiter) =
      match lines.findIdx? (malformed delimiter) with
      | some i => .error (.malformedRecord source (k + i))
      | none => .ok ((lines.filter fun line => !Text.allBlank line).map fun line =>
          (splitFields delimiter line).getD []) := by
  induction lines generalizing k with
  | nil => rfl
  | cons line lines ih =>
    have hlater : ∀ i, k + 1 + i = k + (i + 1) := fun i => by omega
    rw [List.zipIdx_cons, List.map_cons, List.findIdx?_cons]
    cases hblank : Text.allBlank line with
    | true =>
      -- a blank line is passed over, and only the numbers go on
      have hwell : malformed delimiter line = false := by simp [malformed, hblank]
      rw [List.filter_cons_of_neg (by simp [hblank]),
        List.filter_cons_of_neg (by simp [hblank]), ih, hwell]
      cases lines.findIdx? (malformed delimiter) with
      | none => rfl
      | some i => simp [hlater]
    | false =>
      rw [List.filter_cons_of_pos (by simp [hblank]), List.filter_cons_of_pos (by simp [hblank]),
        List.mapM_cons, lineFields]
      cases hsplit : splitFields delimiter line with
      | none =>
        have hbad : malformed delimiter line = true := by
          simp [malformed, hblank, splitFields_eq_none_iff.1 hsplit]
        rw [hbad]
        rfl
      | some fields =>
        have hwell : malformed delimiter line = false := by
          have hclosed : endsInQuotes delimiter line ≠ true := by
            rw [ne_eq, ← splitFields_eq_none_iff, hsplit]
            exact Option.some_ne_none fields
          simp [malformed, hclosed]
        rw [hwell, ih]
        cases lines.findIdx? (malformed delimiter) with
        | none => simp [hsplit, pure, Except.pure, bind, Except.bind]
        | some i => simp [hlater, bind, Except.bind]

/-! ## Tables -/

/-- **How lines that are not blank make a data set**: the first one names the columns, and each of
the others gives one row, in their order. -/
inductive Tabulates (delimiter : Char) (name : String) : List (List Char) → Dataset → Prop where
  | empty : Tabulates delimiter name [] (.new name)
  | table {first : List Char} {names : List (List Char)}
    {records : List (List Char)} {rows : List Row}
    (hnames : splitFields delimiter first = some names)
    (hrows : List.Forall₂ (fun line row => ∃ fields, splitFields delimiter line = some fields ∧
      Fills (headerNames names) fields row) records rows) :
    Tabulates delimiter name (first :: records) ⟨name, (headerNames names).eraseDups, rows⟩

theorem tabulates_layOut (name : String) {lines : List (List Char)}
    (h : ∀ line ∈ lines, splitFields delimiter line ≠ none) :
    Tabulates delimiter name lines
      (layOut name (lines.map fun line => (splitFields delimiter line).getD [])) := by
  have hsplit : ∀ line ∈ lines,
      splitFields delimiter line = some ((splitFields delimiter line).getD []) := by
    intro line hline
    obtain ⟨fields, hfields⟩ := Option.ne_none_iff_exists'.1 (h line hline)
    rw [hfields]
    rfl
  cases lines with
  | nil => exact .empty
  | cons first records =>
    rw [List.forall_mem_cons] at hsplit
    rw [List.map_cons, layOut, Dataset.foldl_declare_nil, List.map_map]
    refine .table hsplit.1 ?_
    rw [List.forall₂_map_right_iff, List.forall₂_same]
    exact fun line hline => ⟨_, hsplit.2 line hline, fills_recordRow⟩

/-- **Reading reports the first malformed line or gives a rectangular table.** For every text,
delimiter and source it fails exactly if some line is malformed, with the number of the first
such line counted from one among all lines of the text, and otherwise the lines that are not
blank make the data set. -/
theorem read_outcome (name text : String) (delimiter : Char) (source : String) :
    (∀ e, read name text delimiter source = .error e ↔
      ∃ i, (Text.lines text.toList).findIdx? (malformed delimiter) = some i ∧
        e = .malformedRecord source (i + 1)) ∧
    ((∀ line ∈ Text.lines text.toList, malformed delimiter line = false) ↔
      ∃ ds, read name text delimiter source = .ok ds ∧
        Tabulates delimiter name
          ((Text.lines text.toList).filter fun line => !Text.allBlank line) ds) := by
  rw [read_eq, numberedLines, mapM_lineFields_numbered, ← List.findIdx?_eq_none_iff]
  cases hfirst : (Text.lines text.toList).findIdx? (malformed delimiter) with
  | some i => simp [Except.map, Nat.add_comm, eq_comm]
  | none =>
    have hsplit : ∀ line ∈ (Text.lines text.toList).filter fun line => !Text.allBlank line,
        splitFields delimiter line ≠ none := by
      intro line hline
      rw [List.mem_filter] at hline
      have hwell := List.findIdx?_eq_none_iff.1 hfirst line hline.1
      rw [malformed, hline.2, Bool.true_and] at hwell
      rw [ne_eq, splitFields_eq_none_iff, hwell]
      exact Bool.false_ne_true
    constructor
    · simp [Except.map]
    · exact iff_of_true rfl ⟨_, rfl, tabulates_layOut name hsplit⟩

/-- The header has closed its quotes; of the two malformed lines the first is the
fourth line of the text. -/
example : read "t" "\na,\"b\"\n \n1,\"x\n2,\"y\n" ',' "f" = .error (.malformedRecord "f" 4) := by
  decide +kernel

end DataStep.Delimited
