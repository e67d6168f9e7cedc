import DataStep.Proofs.Json.Reading

/-!
# Scanning what was written

The text of a document is scanned as the document (`scanValue_chars`): each character of a string
comes back from its escape, a container ends where its text ends, and the scanner goes on behind the
document. What is asked of the document is that its numbers are numerals within the range
(`Json.Readable`) and that it does not nest too deep (`Json.depth`). Main statement: the text of a
document is scanned as the document to its end (`ofChars_chars`).
-/

set_option autoImplicit false

namespace DataStep.Json

open Scan (StringState hexUnit scanString scanValue scanItems scanItem
      scanFields scanField skipBlanks)

variable {rest : List Char} {fuel limit : Nat}

/-! ## Strings -/

/-- A state of scanning in which no half of a character waits or is lost. -/
def clean (chars : List Char) : StringState := ⟨chars, none, false⟩

theorem hexUnit_control :
    ∀ n < 32, hexUnit '0' '0' (hexDigit (n / 16)) (hexDigit (n % 16)) = some n := by decide

/-- A plain character stands for itself. -/
theorem scanString_plain {c : Char} (s : StringState) (hquote : c ≠ '"') (hslash : c ≠ '\\')
    (hcontrol : ¬c.toNat < 32) : scanString s (c :: rest) = scanString (s.push c) rest := by
  rw [scanString, if_neg hcontrol]
  · exact hquote
  all_goals
    intros
    contradiction

/-- A control character comes back from its escape by number. -/
theorem scanString_control {c : Char} (chars : List Char) (h : c.toNat < 32) :
    scanString (clean chars)
      ('\\' :: 'u' :: '0' :: '0' :: hexDigit (c.toNat / 16) :: hexDigit (c.toNat % 16) :: rest) =
      scanString (clean (c :: chars)) rest := by
  have hunit : (clean chars).pushUnit c.toNat = clean (c :: chars) := by
    have hhigh : (decide (0xD800 ≤ c.toNat) && decide (c.toNat ≤ 0xDBFF)) = false := by
      rw [decide_eq_false (by omega), Bool.false_and]
    have hlow : (decide (0xDC00 ≤ c.toNat) && decide (c.toNat ≤ 0xDFFF)) = false := by
      rw [decide_eq_false (by omega), Bool.false_and]
    rw [StringState.pushUnit]
    change (if _ then _ else if _ then _ else _) = _
    rw [hhigh, hlow, if_neg Bool.false_ne_true, if_neg Bool.false_ne_true, Char.ofNat_toNat]
    rfl
  rw [scanString, hexUnit_control _ h]
  dsimp only
  rw [hunit]

/-- **A character comes back from its escape.** -/
theorem scanString_escapeChar (chars : List Char) (c : Char) :
    scanString (clean chars) (escapeChar c ++ rest) = scanString (clean (c :: chars)) rest := by
  unfold escapeChar
  by_cases hquote : c = '"'
  · rw [hquote]
    rfl
  by_cases hslash : c = '\\'
  · rw [hslash]
    rfl
  rw [if_neg hquote, if_neg hslash]
  split
  · rename_i h
    rw [h]
    rfl
  split
  · rename_i h
    rw [h]
    rfl
  split
  · rename_i h
    rw [h]
    rfl
  split
  · rename_i h
    rw [← Char.ofNat_toNat c, h]
    rfl
  split
  · rename_i h
    rw [← Char.ofNat_toNat c, h]
    rfl
  split
  · rename_i h
    exact scanString_control chars h
  · rename_i h
    exact scanString_plain _ hquote hslash h

theorem scanString_flatMap (chars cs : List Char) :
    scanString (clean chars) (cs.flatMap escapeChar ++ '"' :: rest) =
      Scan.StringScan.closed (clean (cs.reverse ++ chars)) rest := by
  induction cs generalizing chars with
  | nil => rfl
  | cons c cs ih =>
    rw [List.flatMap_cons, List.append_assoc, scanString_escapeChar, ih,
      List.reverse_cons, List.append_assoc]
    rfl

/-- **A string comes back from its quotes.** -/
theorem scanString_quoted (s : String) :
    scanString .start (s.toList.flatMap escapeChar ++ '"' :: rest) = ⟨.ok s, none, rest⟩ := by
  have h : scanString (clean []) (s.toList.flatMap escapeChar ++ '"' :: rest) = _ :=
    scanString_flatMap [] s.toList
  rw [List.append_nil] at h
  refine h.trans ?_
  change (⟨.ok (String.ofList s.toList.reverse.reverse), none, rest⟩ : Scan.StringScan) = _
  rw [List.reverse_reverse, String.ofList_toList]

/-! ## Documents -/

/-- The digits of a number within the range. -/
def IsNumeral (digits : List Char) : Prop :=
  (∃ negative, ∃ m : Numeral, digits = minus negative ++ m.chars) ∧
  (readNumber digits).isSome = true

mutual

/-- The scan of the text of a document. -/
def toScan : Json → Scan
  | null => .null
  | bool b => .bool b
  | number digits => .number digits
  | string s => .string s
  | array items => .array (toScanAll items) none
  | object fields => .object (toScanFields fields) none

/-- The scans of items. -/
def toScanAll : List Json → List Scan
  | [] => []
  | j :: js => toScan j :: toScanAll js

/-- The scans of fields. -/
def toScanFields : List (String × Json) → List (Key × Scan)
  | [] => []
  | (name, j) :: fields => (.name name, toScan j) :: toScanFields fields

end

mutual

/-- How many containers a document nests. -/
def depth : Json → Nat
  | array items => depthAll items + 1
  | object fields => depthFields fields + 1
  | _ => 0

/-- The greatest nesting of items. -/
def depthAll : List Json → Nat
  | [] => 0
  | j :: js => max (depth j) (depthAll js)

/-- The greatest nesting of the values of fields. -/
def depthFields : List (String × Json) → Nat
  | [] => 0
  | (_, j) :: fields => max (depth j) (depthFields fields)

end

mutual

/-- A document whose numbers are within the range. -/
def Readable : Json → Prop
  | number digits => IsNumeral digits
  | array items => ReadableAll items
  | object fields => ReadableFields fields
  | _ => True

/-- Items whose numbers are within the range. -/
def ReadableAll : List Json → Prop
  | [] => True
  | j :: js => Readable j ∧ ReadableAll js

/-- Fields whose numbers are within the range. -/
def ReadableFields : List (String × Json) → Prop
  | [] => True
  | (_, j) :: fields => Readable j ∧ ReadableFields fields

end

/-! ## The texts of items and fields -/

/-- Texts with a comma before each of them. -/
def following (texts : List (List Char)) : List Char := texts.flatMap fun t => ',' :: t

theorem commaSeparated_cons (t : List Char) (ts : List (List Char)) :
    commaSeparated (t :: ts) = t ++ following ts := by
  induction ts generalizing t with
  | nil => exact (List.append_nil t).symm
  | cons u us ih =>
    rw [commaSeparated, ih]
    · rfl
    · exact fun h => nomatch h

theorem following_cons (t : List Char) (ts : List (List Char)) (rest : List Char) :
    following (t :: ts) ++ rest = ',' :: (t ++ (following ts ++ rest)) := by
  rw [following, List.flatMap_cons, List.append_assoc]
  rfl

/-- A closing bracket may stand behind a value, and so may a comma before the next one. -/
theorem follows_following {close : Char} (ts : List (List Char))
    (hclose : close = ']' ∨ close = '\x7d') :
    Follows (following ts ++ close :: rest) := by
  intro c hc
  cases ts with
  | nil =>
    cases hc
    exact .inr hclose
  | cons t ts =>
    rw [following_cons] at hc
    cases hc
    exact .inl rfl

theorem skipBlanks_cons {c : Char} {cs : List Char} (h : Scan.isBlank c = false) :
    skipBlanks (c :: cs) = c :: cs := by
  rw [skipBlanks, List.dropWhile_cons, h, if_neg Bool.false_ne_true]

/-- A number begins with a minus sign or a digit. -/
theorem IsNumeral.exists_cons {digits : List Char} (h : IsNumeral digits) :
    ∃ c cs, digits = c :: cs ∧ (c = '-' ∨ c.isDigit = true) := by
  obtain ⟨⟨negative, m, rfl⟩, -⟩ := h
  cases negative with
  | true => exact ⟨'-', m.chars, rfl, .inl rfl⟩
  | false =>
    obtain ⟨c, cs, hcs, hc⟩ := m.exists_digit_cons
    refine ⟨c, cs ++ m.fractionChars ++ m.powerChars, ?_, .inr hc⟩
    change m.chars = _
    rw [Numeral.chars, hcs]
    rfl

theorem isBlank_of_start {c : Char} (hc : c = '-' ∨ c.isDigit = true) : Scan.isBlank c = false := by
  rcases hc with rfl | hc
  · rfl
  · rw [Bool.eq_false_iff]
    intro hblank
    simp only [Scan.isBlank, Bool.or_eq_true, beq_iff_eq] at hblank
    rcases hblank with ((rfl | rfl) | rfl) | rfl <;> cases hc

/-- The text of a document begins with neither a blank nor a closing bracket. -/
theorem exists_chars_cons {j : Json} (h : Readable j) :
    ∃ c cs, j.chars = c :: cs ∧ Scan.isBlank c = false ∧ c ≠ ']' := by
  cases j with
  | null => exact ⟨'n', _, rfl, rfl, by decide⟩
  | bool b =>
    cases b with
    | true => exact ⟨'t', _, rfl, rfl, by decide⟩
    | false => exact ⟨'f', _, rfl, rfl, by decide⟩
  | number digits =>
    rw [Readable] at h
    obtain ⟨c, cs, hcs, hc⟩ := h.exists_cons
    refine ⟨c, cs, by rw [chars, hcs], isBlank_of_start hc, ?_⟩
    rintro rfl
    rcases hc with hc | hc <;> cases hc
  | string s => exact ⟨'"', _, by rw [chars, quoted], rfl, by decide⟩
  | array items => exact ⟨'[', _, by rw [chars], rfl, by decide⟩
  | object fields => exact ⟨'\x7b', _, by rw [chars], rfl, by decide⟩

/-! ## Scanning -/

/-- What begins like a number is scanned as a number. -/
theorem scanValue_of_start {c : Char} {cs : List Char} (hc : c = '-' ∨ c.isDigit = true) :
    scanValue (fuel + 1) limit (c :: cs) = Scan.scanNumber (c :: cs) := by
  have hstart : (c == '-' || c.isDigit) = true := by
    rcases hc with rfl | hc
    · rfl
    · rw [hc, Bool.or_true]
  rw [scanValue, skipBlanks_cons (isBlank_of_start hc)]
  split
  · rename_i h
    cases h
  -- no other value begins with a minus sign or a digit
  all_goals
    rename_i h
    cases h
    first
      | rcases hc with hc | hc <;> cases hc
      | exact if_pos hstart

/-- **A number is scanned as a whole.** -/
theorem scanValue_number {digits : List Char} (h : IsNumeral digits) (hrest : Follows rest) :
    scanValue (fuel + 1) limit (digits ++ rest) = (.number digits, some rest) := by
  obtain ⟨c, cs, hcs, hc⟩ := h.exists_cons
  obtain ⟨⟨negative, m, hdigits⟩, hrange⟩ := h
  have hparts := m.numberParts_append negative hrest
  rw [← hdigits] at hparts
  have hscan : Scan.scanNumber (digits ++ rest) = (.number digits, some rest) := by
    rw [Scan.scanNumber, hparts]
    dsimp only
    rw [hrange, if_pos rfl]
  rw [hcs, List.cons_append] at hscan ⊢
  rw [scanValue_of_start hc, hscan]

/-- A string is scanned as a whole. -/
theorem scanValue_string (s : String) :
    scanValue (fuel + 1) limit (quoted s ++ rest) = (.string s, some rest) := by
  have htext : quoted s ++ rest = '"' :: (s.toList.flatMap escapeChar ++ '"' :: rest) := by
    rw [quoted, List.cons_append, List.append_assoc]
    rfl
  rw [htext, scanValue, skipBlanks_cons rfl]
  change Scan.stringNode (scanString .start _) = _
  rw [scanString_quoted]
  rfl

variable {text more : List Char} {node : Scan} {nodes : List Scan} {fields : List (Key × Scan)}

theorem scanItems_close (first : Bool) :
    scanItems (fuel + 1) limit first (']' :: rest) = ⟨[], none, some rest⟩ := by
  rw [scanItems, skipBlanks_cons rfl]
  rfl

theorem scanFields_close (first : Bool) :
    scanFields (fuel + 1) limit first ('\x7d' :: rest) = ⟨[], none, some rest⟩ := by
  rw [scanFields, skipBlanks_cons rfl]
  rfl

theorem scanItems_comma :
    scanItems (fuel + 1) limit false (',' :: rest) = scanItem fuel limit rest := by
  rw [scanItems, skipBlanks_cons rfl]
  rfl

theorem scanFields_comma :
    scanFields (fuel + 1) limit false (',' :: rest) = scanField fuel limit rest := by
  rw [scanFields, skipBlanks_cons rfl]
  rfl

theorem scanItems_first {c : Char} (hblank : Scan.isBlank c = false) (hclose : c ≠ ']') :
    scanItems (fuel + 1) limit true (c :: rest) = scanItem fuel limit (c :: rest) := by
  rw [scanItems, skipBlanks_cons hblank]
  split
  · rename_i h
    cases h
  · rename_i h
    cases h
    exact absurd rfl hclose
  · rename_i h
    cases h
    rfl

theorem scanFields_first :
    scanFields (fuel + 1) limit true ('"' :: rest) = scanField fuel limit ('"' :: rest) := by
  rw [scanFields, skipBlanks_cons rfl]
  rfl

theorem scanValue_array (hlimit : 0 < limit)
    (hitems : scanItems fuel (limit - 1) true more = ⟨nodes, none, some rest⟩) :
    scanValue (fuel + 1) limit ('[' :: more) = (.array nodes none, some rest) := by
  rw [scanValue, skipBlanks_cons rfl]
  simp only [hitems, Scan.atDepth, if_neg hlimit.ne']

theorem scanValue_object (hlimit : 0 < limit)
    (hfields : scanFields fuel (limit - 1) true more = ⟨fields, none, some rest⟩) :
    scanValue (fuel + 1) limit ('\x7b' :: more) = (.object fields none, some rest) := by
  rw [scanValue, skipBlanks_cons rfl]
  simp only [hfields, Scan.atDepth, if_neg hlimit.ne']

/-- An item and the items behind it. -/
theorem scanItem_eq (hitem : scanValue fuel limit (text ++ more) = (node, some more))
    (hitems : scanItems fuel limit false more = ⟨nodes, none, some rest⟩) :
    scanItem (fuel + 1) limit (text ++ more) = ⟨node :: nodes, none, some rest⟩ := by
  rw [scanItem, hitem]
  dsimp only
  rw [hitems]

/-- A field and the fields behind it. -/
theorem scanField_eq (name : String)
    (hvalue : scanValue fuel limit (text ++ more) = (node, some more))
    (hfields : scanFields fuel limit false more = ⟨fields, none, some rest⟩) :
    scanField (fuel + 1) limit (quoted name ++ ':' :: text ++ more) =
      ⟨(.name name, node) :: fields, none, some rest⟩ := by
  have htext : quoted name ++ ':' :: text ++ more =
      '"' :: (name.toList.flatMap escapeChar ++ '"' :: (':' :: (text ++ more))) := by
    simp [quoted]
  rw [htext, scanField, skipBlanks_cons rfl]
  simp only [scanString_quoted, skipBlanks_cons (c := ':') rfl, hvalue, hfields]
  rfl

/-! ## The text of a document -/

theorem length_following_cons (t : List Char) (ts : List (List Char)) :
    (following (t :: ts)).length = 1 + t.length + (following ts).length := by
  rw [following, List.flatMap_cons, List.length_append, List.length_cons, following]
  omega

mutual

/-- **The text of a document is scanned as the document**, whatever follows it. Each character pays
for the four steps that the scanner may take between two values. -/
theorem scanValue_chars : ∀ (j : Json) (fuel limit : Nat) (rest : List Char),
    Readable j → j.depth ≤ limit → 4 * j.chars.length ≤ fuel → Follows rest →
      scanValue fuel limit (j.chars ++ rest) = (j.toScan, some rest)
  | j, 0, limit, rest, hread, hdepth, hfuel, hrest => by
    obtain ⟨c, cs, hcs, -⟩ := exists_chars_cons hread
    rw [hcs, List.length_cons] at hfuel
    omega
  | null, fuel + 1, limit, rest, hread, hdepth, hfuel, hrest => by
    rw [scanValue]
    rfl
  | bool true, fuel + 1, limit, rest, hread, hdepth, hfuel, hrest => by
    rw [scanValue]
    rfl
  | bool false, fuel + 1, limit, rest, hread, hdepth, hfuel, hrest => by
    rw [scanValue]
    rfl
  | number digits, fuel + 1, limit, rest, hread, hdepth, hfuel, hrest => by
    rw [Readable] at hread
    exact scanValue_number hread hrest
  | string s, fuel + 1, limit, rest, hread, hdepth, hfuel, hrest => scanValue_string s
  | array [], fuel + 1, limit, rest, hread, hdepth, hfuel, hrest => by
    rw [depth] at hdepth
    simp only [chars, List.length_cons, List.length_append] at hfuel
    obtain ⟨f, rfl⟩ : ∃ f, fuel = f + 1 := ⟨fuel - 1, by omega⟩
    exact scanValue_array (by omega) (scanItems_close true)
  | array (j :: js), fuel + 1, limit, rest, hread, hdepth, hfuel, hrest => by
    rw [Readable, ReadableAll] at hread
    rw [depth, depthAll] at hdepth
    obtain ⟨c, cs, hcs, hblank, hclose⟩ := exists_chars_cons hread.1
    simp only [chars, charsAll, commaSeparated_cons, List.length_cons, List.length_append] at hfuel
    obtain ⟨f, rfl⟩ : ∃ f, fuel = f + 1 + 1 := ⟨fuel - 2, by omega⟩
    have htext : (array (j :: js)).chars ++ rest =
        '[' :: (j.chars ++ (following (charsAll js) ++ ']' :: rest)) := by
      simp [chars, charsAll, commaSeparated_cons]
    have hitem := scanValue_chars j f (limit - 1)
      (following (charsAll js) ++ ']' :: rest) hread.1 (by omega) (by omega)
      (follows_following _ (.inl rfl))
    have hitems := scanItems_following js f (limit - 1) rest hread.2 (by omega) (by omega)
    rw [htext]
    refine scanValue_array (by omega) ?_
    -- the first item is told from the end of the array by its first character
    rw [hcs, List.cons_append, scanItems_first hblank hclose, ← List.cons_append, ← hcs]
    exact scanItem_eq hitem hitems
  | object [], fuel + 1, limit, rest, hread, hdepth, hfuel, hrest => by
    rw [depth] at hdepth
    simp only [chars, List.length_cons, List.length_append] at hfuel
    obtain ⟨f, rfl⟩ : ∃ f, fuel = f + 1 := ⟨fuel - 1, by omega⟩
    exact scanValue_object (by omega) (scanFields_close true)
  | object ((name, j) :: fields), fuel + 1, limit, rest, hread, hdepth, hfuel, hrest => by
    rw [Readable, ReadableFields] at hread
    rw [depth, depthFields] at hdepth
    simp only [chars, charsFields, commaSeparated_cons, List.length_cons,
      List.length_append] at hfuel
    obtain ⟨f, rfl⟩ : ∃ f, fuel = f + 1 + 1 := ⟨fuel - 2, by omega⟩
    have htext : (object ((name, j) :: fields)).chars ++ rest =
        '\x7b' :: (quoted name ++ ':' :: j.chars ++
          (following (charsFields fields) ++ '\x7d' :: rest)) := by
      simp [chars, charsFields, commaSeparated_cons]
    have hvalue :=
      scanValue_chars j f (limit - 1) (following (charsFields fields) ++ '\x7d' :: rest) hread.1
      (by omega) (by omega) (follows_following _ (.inr rfl))
    have hfields := scanFields_following fields f (limit - 1) rest hread.2 (by omega) (by omega)
    rw [htext]
    refine scanValue_object (by omega) ?_
    exact scanFields_first.trans (scanField_eq name hvalue hfields)

/-- The items behind the first one are scanned up to the end of the array. -/
theorem scanItems_following :
    ∀ (js : List Json) (fuel limit : Nat) (rest : List Char), ReadableAll js →
    depthAll js ≤ limit → 4 * (following (charsAll js)).length < fuel →
    scanItems fuel limit false (following (charsAll js) ++ ']' :: rest) =
      ⟨toScanAll js, none, some rest⟩
  | [], fuel, limit, rest, hread, hdepth, hfuel => by
    obtain ⟨f, rfl⟩ : ∃ f, fuel = f + 1 := ⟨fuel - 1, by omega⟩
    exact scanItems_close false
  | j :: js, fuel, limit, rest, hread, hdepth, hfuel => by
    rw [ReadableAll] at hread
    rw [depthAll] at hdepth
    rw [charsAll, length_following_cons] at hfuel
    obtain ⟨f, rfl⟩ : ∃ f, fuel = f + 1 + 1 := ⟨fuel - 2, by omega⟩
    have hitem := scanValue_chars j f limit
      (following (charsAll js) ++ ']' :: rest) hread.1 (by omega) (by omega)
      (follows_following _ (.inl rfl))
    have hitems := scanItems_following js f limit rest hread.2 (by omega) (by omega)
    rw [charsAll, following_cons, scanItems_comma]
    exact scanItem_eq hitem hitems

/-- The fields behind the first one are scanned up to the end of the object. -/
theorem scanFields_following :
    ∀ (fields : List (String × Json)) (fuel limit : Nat) (rest : List Char),
    ReadableFields fields → depthFields fields ≤ limit →
      4 * (following (charsFields fields)).length < fuel →
    scanFields fuel limit false (following (charsFields fields) ++ '\x7d' :: rest) =
      ⟨toScanFields fields, none, some rest⟩
  | [], fuel, limit, rest, hread, hdepth, hfuel => by
    obtain ⟨f, rfl⟩ : ∃ f, fuel = f + 1 := ⟨fuel - 1, by omega⟩
    exact scanFields_close false
  | (name, j) :: fields, fuel, limit, rest, hread, hdepth, hfuel => by
    rw [ReadableFields] at hread
    rw [depthFields] at hdepth
    rw [charsFields, length_following_cons, List.length_append, List.length_cons] at hfuel
    obtain ⟨f, rfl⟩ : ∃ f, fuel = f + 1 + 1 := ⟨fuel - 2, by omega⟩
    have hvalue := scanValue_chars j f limit
      (following (charsFields fields) ++ '\x7d' :: rest) hread.1 (by omega)
      (by omega) (follows_following _ (.inr rfl))
    have hfields := scanFields_following fields f limit rest hread.2 (by omega) (by omega)
    rw [charsFields, following_cons, scanFields_comma]
    exact scanField_eq name hvalue hfields

end

/-- **The text of a document is scanned as the document to its end.** -/
theorem ofChars_chars {j : Json} (hread : Readable j) (hdepth : j.depth ≤ limit) :
    Scan.ofChars limit j.chars = (j.toScan, some []) := by
  have h := scanValue_chars j (4 * j.chars.length + 4) limit [] hread hdepth
    (by omega) fun _ h => nomatch h
  rw [List.append_nil] at h
  exact h

end DataStep.Json
