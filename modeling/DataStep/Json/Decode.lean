import DataStep.Json.Scan

/-!
# Decoding

Decoders of scanned values. Each reports the first fault, in the order of the text, among the values
that it needs and the form of those that it passes over. The fields of a record may come in any
order; a field that is given twice is a mismatch, and so is a field that is not given, unless it is
optional. A variant is its tag alone or an object whose single field is its tag; where that tag
belongs, a text with anything but a string is malformed.
-/

set_option autoImplicit false

namespace DataStep.Json

/-- A decoder of scanned values. -/
abbrev Decoder (α : Type) := Scan → Except Fault α

namespace Decoder

variable {α β : Type}

/-- The fault of a value that is needed and has another shape. A container that is not entered may
be nested too deep. -/
def fault : Scan → Fault
  | .absent => .unfinished
  | .faultyNull f => f
  | .faultyString needed _ => needed
  | .faulty needed _ => needed
  | _ => .mismatched

/-- Decodes a string. -/
def string : Decoder String
  | .string s => .ok s
  | j => .error (fault j)

/-- Decodes a string of one character. -/
def char : Decoder Char
  | .string s =>
    match s.toList with
    | [c] => .ok c
    | _ => .error .mismatched
  | j => .error (fault j)

/-- Decodes a truth value. -/
def bool : Decoder Bool
  | .bool b => .ok b
  | j => .error (fault j)

/-- Decodes a number. -/
def number : Decoder Number
  | .number digits =>
    match readNumber digits with
    | some n => .ok n
    | none => .error .malformed
  | j => .error (fault j)

/-- Decodes a natural number of 64 bits, which is written in digits only. -/
def natural : Decoder Nat
  | .number digits =>
    if digits.all Char.isDigit && Number.natOfDigits digits < 0x10000000000000000 then
      .ok (Number.natOfDigits digits)
    else .error .mismatched
  | j => .error (fault j)

/-- Decodes nothing: the word null. -/
def unit (a : α) : Decoder α
  | .null => .ok a
  | j => .error (fault j)

/-- Decodes a value that may be null. -/
def option (item : Decoder α) : Decoder (Option α)
  | .null => .ok none
  | .faultyNull f => .error f
  | j => (item j).map some

/-- Ends with the fault that stopped a container, if one did. -/
def finish (stop : Option Fault) (a : α) : Except Fault α :=
  match stop with
  | some f => .error f
  | none => .ok a

/-- Decodes an array. -/
def list (item : Decoder α) : Decoder (List α)
  | .array items stop => do finish stop (← items.mapM item)
  | .tooDeep (.array _ _) => .error .malformed
  | j => .error (fault j)

/-- Decodes an array of two items. -/
def pair (first : Decoder α) (second : Decoder β) : Decoder (α × β)
  | .array items stop =>
    match items with
    | [] => do finish stop (); .error .mismatched
    | [a] => do let _ ← first a; finish stop (); .error .mismatched
    | [a, b] => do finish stop (← first a, ← second b)
    -- a third item stands where the array should end
    | a :: b :: _ => do let _ ← first a; let _ ← second b; .error .malformed
  | .tooDeep (.array _ _) => .error .malformed
  | j => .error (fault j)

/-! ## Records -/

/-- The fields of a record: what is known of them while they are decoded, how a field of a name is
taken, if the record has it, and what the record is in the end. -/
structure Fields (α : Type) where
  Known : Type
  start : Known
  take : String → Scan → Known → Option (Except Fault Known)
  build : Known → Except Fault α

namespace Fields

/-- A single field, with what it is if it is not given. -/
def field (name : String) (item : Decoder α) (absent : Except Fault α) : Fields α where
  Known := Option α
  start := none
  take key value known :=
    if key = name then
      -- a repetition fails before its value is looked at
      some (match known with
        | some _ => .error .mismatched
        | none => (item value).map some)
    else none
  build known :=
    match known with
    | some a => .ok a
    | none => absent

/-- A field that has to be given. -/
def required (name : String) (item : Decoder α) : Fields α :=
  field name item (.error .mismatched)

/-- A field that may be null or not be given. -/
def optional (name : String) (item : Decoder α) : Fields (Option α) :=
  field name (option item) (.ok none)

/-- A field with a default. -/
def withDefault (name : String) (item : Decoder α) (default : α) : Fields α :=
  field name item (.ok default)

/-- The fields of two records together. -/
def both (f : Fields α) (g : Fields β) : Fields (α × β) where
  Known := f.Known × g.Known
  start := (f.start, g.start)
  take key value known :=
    match f.take key value known.1 with
    | some r => some (r.map fun k => (k, known.2))
    | none => (g.take key value known.2).map fun r => r.map fun k => (known.1, k)
  build known := do return (← f.build known.1, ← g.build known.2)

/-- A record made from another. -/
def map (make : α → β) (f : Fields α) : Fields β where
  Known := f.Known
  start := f.start
  take := f.take
  build known := (f.build known).map make

/-- Takes the fields of an object one after another; unknown ones are passed over. -/
def takeAll (f : Fields α) (known : f.Known) : List (Key × Scan) → Except Fault f.Known
  | [] => .ok known
  | (key, value) :: rest =>
    match key with
    | .name name =>
      match f.take name value known with
      | some (.ok known) => takeAll f known rest
      | some (.error e) => .error e
      | none =>
        match value.skipFault with
        | some e => .error e
        | none => takeAll f known rest
    | .faulty needed _ => .error needed
    | .misplaced => .error .malformed
    | .absent => .error .unfinished

end Fields

/-- Decodes a record. -/
def record (f : Fields α) : Decoder α
  | .object fields stop => do
    let known ← f.takeAll f.start fields
    finish stop ()
    f.build known
  | .tooDeep _ => .error .malformed
  | j => .error (fault j)

/-! ## Variants -/

/-- Decodes a variant. `bare` finds the variants that are their tag alone, and `tagged` decodes the
variants with a value; null is the value of a variant without one. -/
def variant (bare : String → Option α) (tagged : String → Option (Decoder α)) : Decoder α
  | .string s =>
    match bare s with
    | some a => .ok a
    | none => .error .mismatched
  | .object [] stop => .error (stop.getD .malformed)
  | .object ((key, value) :: rest) stop =>
    match key with
    | .name name =>
      -- an unknown tag fails before its value is looked at
      match (bare name).map unit <|> tagged name with
      | none => .error .mismatched
      | some item => do
        let a ← item value
        if rest.isEmpty then finish stop a else .error .malformed
    | .faulty needed _ => .error needed
    | .misplaced => .error .malformed
    | .absent => .error .unfinished
  | .absent => .error .unfinished
  | .faultyString needed _ => .error needed
  | _ => .error .malformed

end Decoder

/-- Decodes a text that holds one value and nothing else. -/
def decodeText {α : Type} (item : Decoder α) (text : String) : Except Fault α := do
  let (scan, rest) := Scan.ofChars Scan.maxDepth text.toList
  let a ← item scan
  match rest with
  | some rest => if (Scan.skipBlanks rest).isEmpty then .ok a else .error .malformed
  | none => .ok a

mutual

/-- The nesting of a scanned value. -/
def Scan.height : Scan → Nat
  | .array items _ => Scan.heightAll items + 1
  | .object fields _ => Scan.heightFields fields + 1
  | .tooDeep inner => Scan.height inner + 1
  | _ => 1

/-- The greatest nesting of items. -/
def Scan.heightAll : List Scan → Nat
  | [] => 0
  | item :: items => max (Scan.height item) (Scan.heightAll items)

/-- The greatest nesting of the values of fields. -/
def Scan.heightFields : List (Key × Scan) → Nat
  | [] => 0
  | (_, value) :: fields => max (Scan.height value) (Scan.heightFields fields)

end

end DataStep.Json
