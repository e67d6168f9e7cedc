import DataStep.Json.Decode
import DataStep.Proofs.Json.Scan

/-!
# Decoding what was written

A decoder takes a document for a value if the document is readable and its scan decodes to the value
(`Codes`). Strings, truth values, numbers and lists of them are taken for what they were written
from, and the laws of records and variants reduce a document to its parts: the fields of a record
are taken one after another (`Takes`), and two records with different names share one object
(`Reads.both`). Main statement: the text of a readable document that is not nested too deep decodes
to the value for which the document is taken (`decodeText_render`).
-/

set_option autoImplicit false

namespace DataStep.Json

open Decoder

variable {α β γ : Type} {j : Json} {a : α} {item : Decoder α}

/-- A document that a decoder takes for a value. -/
structure Codes (item : Decoder α) (j : Json) (a : α) : Prop where
  readable : Readable j
  /-- A null stands for a value that is not given. -/
  ne_null : j ≠ null
  decode : item j.toScan = .ok a

/-- A finite number that is read from its text. -/
structure Rereads (x : Number) : Prop where
  isFinite : x.isFinite = true
  read : readNumber (numberChars x) = some x

/-! ## Plain values -/

theorem codes_string (s : String) : Codes Decoder.string (.string s) s := ⟨trivial, nofun, rfl⟩

theorem codes_bool (b : Bool) : Codes Decoder.bool (.bool b) b := ⟨trivial, nofun, rfl⟩

theorem codes_number {x : Number} (h : Rereads x) : Codes Decoder.number (.ofNumber x) x := by
  obtain ⟨m, hchars, -⟩ := exists_numeral_of_isFinite h.isFinite
  have hnumber : Json.ofNumber x = .number (numberChars x) := if_pos h.isFinite
  rw [hnumber]
  refine ⟨⟨⟨x.negative, m, hchars⟩, ?_⟩, nofun, ?_⟩
  · rw [h.read]
    rfl
  · rw [toScan, Decoder.number, h.read]

theorem codes_natural {n : Nat} (h : n < 2 ^ 64) : Codes Decoder.natural (.ofNat n) n := by
  have hdigits : (Number.digitsOf n).all Char.isDigit = true :=
    List.all_eq_true.2 fun _ => Number.isDigit_of_mem_digitsOf
  refine ⟨⟨⟨false, Numeral.ofNat n, (Numeral.chars_ofNat n).symm⟩, isSome_readNumber_digitsOf h⟩,
    nofun, ?_⟩
  rw [Json.ofNat, toScan, Decoder.natural, hdigits, Number.natOfDigits_digitsOf, Bool.true_and]
  exact if_pos (decide_eq_true h)

/-- A value under a constructor. -/
theorem Codes.map (h : Codes item j a) (make : α → β) :
    Codes (fun j => (item j).map make) j (make a) :=
  ⟨h.readable, h.ne_null, by rw [h.decode]; rfl⟩

/-! ## Arrays -/

/-- Documents that a decoder takes for values, one after another. -/
inductive CodesAll (item : Decoder α) : List Json → List α → Prop
  | nil : CodesAll item [] []
  | cons {j : Json} {js : List Json} {a : α} {as : List α} (head : Codes item j a)
      (tail : CodesAll item js as) :
      CodesAll item (j :: js) (a :: as)

theorem CodesAll.readable {js : List Json} {as : List α} (h : CodesAll item js as) :
    ReadableAll js := by
  induction h with
  | nil => exact trivial
  | cons head _ ih => exact ⟨head.readable, ih⟩

theorem CodesAll.mapM {js : List Json} {as : List α} (h : CodesAll item js as) :
    (toScanAll js).mapM item = .ok as := by
  induction h with
  | nil => rfl
  | cons head _ ih =>
    rw [toScanAll, List.mapM_cons, head.decode, ih]
    rfl

theorem CodesAll.of_forall (write : α → Json) (as : List α) (h : ∀ a ∈ as, Codes item (write a) a) :
    CodesAll item (as.map write) as := by
  induction as with
  | nil => exact .nil
  | cons a as ih =>
    exact .cons (h a List.mem_cons_self) (ih fun b hb => h b (List.mem_cons_of_mem _ hb))

theorem codes_list {js : List Json} {as : List α} (h : CodesAll item js as) :
    Codes (Decoder.list item) (.array js) as := by
  refine ⟨h.readable, nofun, ?_⟩
  rw [toScan, Decoder.list, h.mapM]
  rfl

theorem codes_strings (ss : List String) : Codes (Decoder.list Decoder.string) (.ofStrings ss) ss :=
  codes_list (.of_forall .string ss fun s _ => codes_string s)

theorem codes_pair {first : Decoder α} {second : Decoder β} {k : Json} {b : β}
    (hfirst : Codes first j a)
    (hsecond : Codes second k b) : Codes (pair first second) (.array [j, k]) (a, b) := by
  refine ⟨⟨hfirst.readable, hsecond.readable, trivial⟩, nofun, ?_⟩
  simp only [toScan, toScanAll, pair, hfirst.decode, hsecond.decode]
  rfl

/-! ## Variants -/

variable {bare : String → Option α} {tagged : String → Option (Decoder α)} {tag : String}

theorem codes_bareTag (h : bare tag = some a) : Codes (variant bare tagged) (.string tag) a := by
  refine ⟨trivial, nofun, ?_⟩
  rw [toScan, variant, h]

theorem codes_tagged (hbare : bare tag = none)
    (htagged : tagged tag = some item) (h : Codes item j a) :
    Codes (variant bare tagged) (.tagged tag j) a := by
  refine ⟨⟨h.readable, trivial⟩, nofun, ?_⟩
  simp only [Json.tagged, toScan, toScanFields, variant, hbare, htagged, Option.map_none]
  change (do
    let a ← item j.toScan
    finish none a) = _
  rw [h.decode]
  rfl

/-! ## Records -/

open Decoder.Fields (takeAll field both)

variable {f : Fields α} {g : Fields β} {fields : List (String × Json)} {name : String}

/-- The fields of an object, taken one after another: what is known of a record
before and after them. -/
inductive Takes (f : Fields α) : f.Known → List (String × Json) → f.Known → Prop
  | nil (known : f.Known) : Takes f known [] known
  | cons {name : String} {j : Json} {fields : List (String × Json)} {known next last : f.Known}
      (readable : Readable j) (take : f.take name j.toScan known = some (.ok next))
      (rest : Takes f next fields last) :
      Takes f known ((name, j) :: fields) last

namespace Takes

variable {known next last : f.Known}

theorem readable (h : Takes f known fields last) : ReadableFields fields := by
  induction h with
  | nil => exact trivial
  | cons hread _ _ ih => exact ⟨hread, ih⟩

theorem takeAll_eq (h : Takes f known fields last) :
    takeAll f known (toScanFields fields) = .ok last := by
  induction h with
  | nil => rfl
  | cons _ htake _ ih =>
    rw [toScanFields, takeAll]
    simp only [htake]
    exact ih

theorem append {fields' : List (String × Json)} (h : Takes f known fields next)
    (h' : Takes f next fields' last) :
    Takes f known (fields ++ fields') last := by
  induction h with
  | nil => exact h'
  | cons hread htake _ ih => exact .cons hread htake (ih h')

/-- The fields of the first of two records. -/
theorem both_left (g : Fields β) (other : g.Known) (h : Takes f known fields last) :
    Takes (both f g) (known, other) fields (last, other) := by
  induction h with
  | nil => exact .nil _
  | cons hread htake _ ih =>
    refine .cons hread ?_ ih
    simp only [both, htake]
    rfl

end Takes

/-- A name that is none of the names of a record. -/
def Ignores (f : Fields α) (name : String) : Prop := ∀ value known, f.take name value known = none

theorem ignores_field {key : String} {absent : Except Fault α} (h : key ≠ name) :
    Ignores (field name item absent) key := fun _ _ => if_neg h

theorem Ignores.both (hf : Ignores f name) (hg : Ignores g name) : Ignores (both f g) name := by
  intro value known
  simp only [Fields.both, hf value known.1, hg value known.2]
  rfl

theorem Ignores.map (hf : Ignores f name) (make : α → β) : Ignores (Fields.map make f) name := hf

/-- The fields of the second of two records. -/
theorem Takes.both_right {known last : g.Known} (other : f.Known) (h : Takes g known fields last)
    (hignores : ∀ name ∈ fields.map Prod.fst, Ignores f name) :
    Takes (both f g) (other, known) fields (other, last) := by
  induction h with
  | nil => exact .nil _
  | cons hread htake _ ih =>
    refine .cons hread ?_ (ih fun name hname => hignores name (List.mem_cons_of_mem _ hname))
    simp only [both, hignores _ List.mem_cons_self _ _, htake]
    rfl

/-- The fields that a record is written in. -/
def Reads (f : Fields α) (fields : List (String × Json)) (a : α) : Prop :=
  ∃ known, Takes f f.start fields known ∧ f.build known = .ok a

/-- **A record is taken for what its fields are taken for.** -/
theorem codes_record (h : Reads f fields a) : Codes (record f) (.object fields) a := by
  obtain ⟨known, htakes, hbuild⟩ := h
  refine ⟨htakes.readable, nofun, ?_⟩
  rw [toScan, record, htakes.takeAll_eq]
  exact hbuild

theorem Takes.map {known last : f.Known} (h : Takes f known fields last) (make : α → β) :
    Takes (Fields.map make f) known fields last := by
  induction h with
  | nil => exact .nil _
  | cons hread htake _ ih => exact .cons hread htake ih

theorem Reads.map (h : Reads f fields a) (make : α → β) :
    Reads (Fields.map make f) fields (make a) := by
  obtain ⟨known, htakes, hbuild⟩ := h
  refine ⟨known, htakes.map make, ?_⟩
  change (f.build known).map make = _
  rw [hbuild]
  rfl

/-- **Two records whose names differ share one object.** -/
theorem Reads.both {fields' : List (String × Json)} {b : β}
    (hf : Reads f fields a) (hg : Reads g fields' b)
    (hignores : ∀ name ∈ fields'.map Prod.fst, Ignores f name) :
    Reads (both f g) (fields ++ fields') (a, b) := by
  obtain ⟨known, htakes, hbuild⟩ := hf
  obtain ⟨known', htakes', hbuild'⟩ := hg
  refine ⟨(known, known'),
    (htakes.both_left g g.start).append (htakes'.both_right known hignores), ?_⟩
  simp only [Fields.both, hbuild, hbuild']
  rfl

theorem reads_field {absent : Except Fault α} (hread : Readable j)
    (hdecode : item j.toScan = .ok a) :
    Reads (field name item absent) [(name, j)] a := by
  refine ⟨some a, .cons hread ?_ (.nil _), rfl⟩
  simp only [field, if_pos, hdecode]
  rfl

theorem Codes.field {absent : Except Fault α} (h : Codes item j a) :
    Reads (field name item absent) [(name, j)] a :=
  reads_field h.readable h.decode

theorem Codes.some (h : Codes item j a) : option item j.toScan = .ok (some a) := by
  have hdecode := h.decode
  cases j with
  | null => exact absurd rfl h.ne_null
  | _ =>
    change (item _).map Option.some = _
    rw [hdecode]
    rfl

/-- A field that may not be given. -/
theorem reads_optional {absent : Except Fault (Option α)} (write : α → Json) (o : Option α)
    (h : ∀ a ∈ o, Codes item (write a) a) :
    Reads (field name (option item) absent) [(name, .ofOption write o)] o := by
  cases o with
  | none => exact reads_field trivial rfl
  | some a => exact reads_field (h a rfl).readable (h a rfl).some

theorem Reads.cons {absent : Except Fault α} {b : β}
    (hf : Reads (field name item absent) [(name, j)] a)
    (hg : Reads g fields b) (hname : name ∉ fields.map Prod.fst) :
    Reads (Fields.both (field name item absent) g) ((name, j) :: fields) (a, b) :=
  hf.both hg fun _ hkey => ignores_field fun heq => hname (heq ▸ hkey)

/-! ## Nesting -/

/-- Every scanned value is nested at least once. -/
theorem height_toScan_pos (j : Json) : 0 < j.toScan.height := by
  cases j <;> simp [toScan, Scan.height]

theorem height_le_heightFields (h : j ∈ fields.map Prod.snd) :
    j.toScan.height ≤ Scan.heightFields (toScanFields fields) := by
  induction fields with
  | nil => cases h
  | cons field fields ih =>
    rw [toScanFields, Scan.heightFields]
    rcases List.mem_cons.1 h with rfl | h
    · exact Nat.le_max_left _ _
    · exact Nat.le_trans (ih h) (Nat.le_max_right _ _)

/-- A field of a tagged record nests less than the record. -/
theorem height_le_of_field {n : Nat}
    (hheight : (Json.tagged tag (.object fields)).toScan.height ≤ n + 1)
    (h : j ∈ fields.map Prod.snd) : j.toScan.height ≤ n := by
  have hfields := height_le_heightFields h
  simp only [Json.tagged, toScan, toScanFields, Scan.height, Scan.heightFields] at hheight
  omega

/-- The items of a tagged array nest less than the array. -/
theorem heightAll_le_of_tagged {js : List Json} {n : Nat}
    (hheight : (Json.tagged tag (.array js)).toScan.height ≤ n + 1) :
    Scan.heightAll (toScanAll js) ≤ n := by
  simp only [Json.tagged, toScan, toScanFields, Scan.height, Scan.heightFields] at hheight
  omega

/-- The items of an array in a field of a tagged record nest less than the record. -/
theorem heightAll_le_of_field {js : List Json} {n : Nat}
    (hheight : (Json.tagged tag (.object fields)).toScan.height ≤ n + 1)
    (h : array js ∈ fields.map Prod.snd) :
    Scan.heightAll (toScanAll js) ≤ n := by
  have harray := height_le_of_field hheight h
  rw [toScan, Scan.height] at harray
  omega

/-! ## Texts -/

/-- **The text of a document decodes to the value for which the document is taken.** -/
theorem decodeText_render (h : Codes item j a) (hdepth : j.depth ≤ Scan.maxDepth) :
    decodeText item j.render = .ok a := by
  rw [decodeText, render, String.toList_ofList, ofChars_chars h.readable hdepth]
  change (do
    let a ← item j.toScan
    if (Scan.skipBlanks []).isEmpty then .ok a else .error .malformed) = _
  rw [h.decode]
  rfl

end DataStep.Json
