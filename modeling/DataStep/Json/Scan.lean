import DataStep.Json.Basic
import DataStep.Json.Numeral

/-!
# Scanning JSON text

Scanning never fails. Where a text stops being JSON, the scan has a node that says so, and nothing
follows it. A decoder walks the scan in the order of the text and reports the first fault of what it
needs; a value that it does not need is only checked for its form.

There are three faults: the text ends too early (`unfinished`), it is not JSON (`malformed`), or it
is JSON of another shape than needed (`mismatched`). The two ways of looking at a value differ in a
few places, so a faulty node may hold two faults: the one for a decoder that needs the value and the
one for a decoder that passes over it. A number beyond the range and an escape for half a character
are faults only if they are needed. A nesting beyond the limit is a fault only for a decoder that
enters the container.
-/

set_option autoImplicit false

namespace DataStep.Json

/-- What is wrong with a text. -/
inductive Fault where
  | unfinished
  | malformed
  | mismatched
  deriving DecidableEq, Repr

/-- What stands where the name of a field belongs. -/
inductive Key where
  | name (s : String)
  /-- A string with a fault; the text goes on if there is no fault in passing over it. -/
  | faulty (needed : Fault) (skipped : Option Fault)
  /-- Something else. -/
  | misplaced
  /-- The text ends. -/
  | absent
  deriving DecidableEq, Repr

/-- The fault in passing over the name of a field. -/
def Key.skipFault : Key → Option Fault
  | name _ => none
  | faulty _ skipped => skipped
  | misplaced => some .malformed
  | absent => some .unfinished

/-- A JSON text as far as it is one. -/
inductive Scan where
  | null
  | bool (b : Bool)
  | number (digits : List Char)
  | string (s : String)
  /-- Items, and the fault after the last one, if the array does not end there. -/
  | array (items : List Scan) (stop : Option Fault)
  /-- Fields, and the fault after the last one, if the object does not end there. -/
  | object (fields : List (Key × Scan)) (stop : Option Fault)
  /-- A container within more containers than the limit allows. -/
  | tooDeep (inner : Scan)
  /-- The text ends. -/
  | absent
  /-- A faulty beginning of the word `null`. -/
  | faultyNull (fault : Fault)
  /-- A string with a fault. -/
  | faultyString (needed : Fault) (skipped : Option Fault)
  /-- Any other token with a fault. -/
  | faulty (needed : Fault) (skipped : Option Fault)

namespace Scan

instance : Inhabited Scan := ⟨absent⟩

/-- The blanks of JSON text. -/
def isBlank (c : Char) : Bool := c == ' ' || c == '\n' || c == '\t' || c == '\r'

/-- A text without the blanks at its front. -/
def skipBlanks (cs : List Char) : List Char := cs.dropWhile isBlank

/-! ## Words and numbers -/

/-- What follows an expected text, or the fault where the text differs. -/
def afterWord : List Char → List Char → Except Fault (List Char)
  | [], rest => .ok rest
  | _ :: _, [] => .error .unfinished
  | w :: ws, c :: cs => if w = c then afterWord ws cs else .error .malformed

/-- A node and the text behind it, none if the text cannot go on. -/
abbrev Step := Scan × Option (List Char)

/-- A word with its node, and the node of a faulty word. -/
def word (letters : List Char) (node : Scan) (faulty : Fault → Scan) (cs : List Char) : Step :=
  match afterWord letters cs with
  | .ok rest => (node, some rest)
  | .error f => (faulty f, none)

/-- The digits at the front of a text, and what follows them; a fault if there are none. -/
def someDigits (cs : List Char) : Except Scan (List Char × List Char) :=
  match Number.spanDigits cs with
  | ([], []) => .error (.faulty .unfinished (some .malformed))
  | ([], _) => .error (.faulty .malformed (some .malformed))
  | digits => .ok digits

/-- A part of a number that begins with one of the given characters, if it is there. -/
def optionalPart (starts : List Char) (signed : Bool) (cs : List Char) :
    Except Scan (List Char × List Char) :=
  match cs with
  | c :: rest =>
    if starts.contains c then do
      let sign := if signed then rest.take 1 |>.filter fun s => s == '+' || s == '-' else []
      let (digits, rest) ← someDigits (rest.drop sign.length)
      .ok (c :: (sign ++ digits), rest)
    else .ok ([], cs)
  | [] => .ok ([], [])

/-- The parts of a number: sign, whole part, fraction and exponent. -/
def numberParts (cs : List Char) : Except Scan (List Char × List Char) := do
  let sign := cs.take 1 |>.filter (· == '-')
  let (whole, rest) ← someDigits (cs.drop sign.length)
  -- a zero leads no other digit
  if whole.head? == some '0' && whole.length != 1 then
    throw (.faulty .malformed (some .malformed))
  let (fraction, rest) ← optionalPart ['.'] false rest
  let (exponent, rest) ← optionalPart ['e', 'E'] true rest
  .ok (sign ++ whole ++ fraction ++ exponent, rest)

/-- A number. One beyond the range is a fault if it is needed. -/
def scanNumber (cs : List Char) : Step :=
  match numberParts cs with
  | .error node => (node, none)
  | .ok (digits, rest) =>
    if (readNumber digits).isSome then (.number digits, some rest)
    else (.faulty .malformed none, some rest)

/-! ## Strings -/

/-- The characters of a string so far, in reverse. A first half of a character waits for the second;
a half without the other spoils the string. -/
structure StringState where
  chars : List Char
  waiting : Option Nat
  spoiled : Bool

namespace StringState

/-- No characters yet. -/
def start : StringState := ⟨[], none, false⟩

/-- Adds a character. -/
def push (s : StringState) (c : Char) : StringState :=
  if s.waiting.isSome then { s with spoiled := true } else { s with chars := c :: s.chars }

/-- Adds a code unit of sixteen bits. -/
def pushUnit (s : StringState) (n : Nat) : StringState :=
  match s.waiting with
  | some high =>
    if 0xDC00 ≤ n && n ≤ 0xDFFF then
      let code := 0x10000 + (high - 0xD800) * 0x400 + (n - 0xDC00)
      { s with waiting := none, chars := Char.ofNat code :: s.chars }
    else { s with spoiled := true }
  | none =>
    if 0xD800 ≤ n && n ≤ 0xDBFF then { s with waiting := some n }
    else if 0xDC00 ≤ n && n ≤ 0xDFFF then { s with spoiled := true }
    else { s with chars := Char.ofNat n :: s.chars }

end StringState

/-- A scanned string: its characters or the fault in needing them, the fault in passing over it, and
the text behind it. -/
structure StringScan where
  value : Except Fault String
  stop : Option Fault
  rest : List Char

/-- A string that ends. -/
def StringScan.closed (s : StringState) (rest : List Char) : StringScan :=
  let value :=
    if s.spoiled || s.waiting.isSome then .error .malformed
    else .ok (String.ofList s.chars.reverse)
  ⟨value, none, rest⟩

/-- A string that a fault cuts off. -/
def StringScan.cut (s : StringState) (f : Fault) : StringScan :=
  ⟨.error (if s.spoiled then .malformed else f), some f, []⟩

/-- The character that a short escape stands for. -/
def shortEscape : Char → Option Char
  | '"' => some '"'
  | '\\' => some '\\'
  | '/' => some '/'
  | 'b' => some (Char.ofNat 8)
  | 'f' => some (Char.ofNat 12)
  | 'n' => some '\n'
  | 'r' => some '\r'
  | 't' => some '\t'
  | _ => none

/-- The value of a hexadecimal digit. -/
def hexValue (c : Char) : Option Nat :=
  if c.isDigit then some (c.toNat - '0'.toNat)
  else if 'a' ≤ c && c ≤ 'f' then some (c.toNat - 'a'.toNat + 10)
  else if 'A' ≤ c && c ≤ 'F' then some (c.toNat - 'A'.toNat + 10)
  else none

/-- The value of four hexadecimal digits. -/
def hexUnit (a b c d : Char) : Option Nat := do
  return (((← hexValue a) * 16 + (← hexValue b)) * 16 + (← hexValue c)) * 16 + (← hexValue d)

/-- The fault of an escape by number that fewer than four characters follow: they may still be four
bytes. -/
def shortUnitFault (cs : List Char) : Fault :=
  if (String.ofList cs).utf8ByteSize < 4 then .unfinished else .malformed

/-- The rest of a string behind its opening quote. -/
def scanString : StringState → List Char → StringScan
  | s, [] => .cut s .unfinished
  | s, '"' :: rest => .closed s rest
  | s, '\\' :: 'u' :: a :: b :: c :: d :: rest =>
    match hexUnit a b c d with
    | some n => scanString (s.pushUnit n) rest
    | none => .cut s .malformed
  -- fewer than four characters are left
  | s, '\\' :: 'u' :: rest => .cut s (shortUnitFault rest)
  | s, '\\' :: e :: rest =>
    match shortEscape e with
    | some c => scanString (s.push c) rest
    | none => .cut s .malformed
  | s, '\\' :: [] => .cut s .unfinished
  | s, c :: rest =>
    if c.toNat < 32 then .cut s .malformed else scanString (s.push c) rest

/-- A string as a node. -/
def stringNode (scan : StringScan) : Step :=
  let node :=
    match scan.value with
    | .ok s => .string s
    | .error f => .faultyString f scan.stop
  (node, if scan.stop.isSome then none else some scan.rest)

/-- A string as the name of a field. -/
def stringKey (scan : StringScan) : Key :=
  match scan.value with
  | .ok s => .name s
  | .error f => .faulty f scan.stop

/-! ## Values -/

/-- A container, marked if the limit on containers is used up. -/
def atDepth (limit : Nat) (node : Scan) : Scan := if limit = 0 then .tooDeep node else node

/-- The items of an array and what ends them. -/
structure Items where
  items : List Scan
  stop : Option Fault
  rest : Option (List Char)

/-- The fields of an object and what ends them. -/
structure FieldScan where
  fields : List (Key × Scan)
  stop : Option Fault
  rest : Option (List Char)

mutual

/-- A value at the front of a text. The first bound exceeds the steps that the text can take, the
second is the number of containers that may still be entered. -/
def scanValue : Nat → Nat → List Char → Step
  | 0, _, _ => (.absent, none)
  | fuel + 1, limit, cs =>
    match skipBlanks cs with
    | [] => (.absent, none)
    | '[' :: rest =>
      let scan := scanItems fuel (limit - 1) true rest
      (atDepth limit (.array scan.items scan.stop), scan.rest)
    | '\x7b' :: rest =>
      let scan := scanFields fuel (limit - 1) true rest
      (atDepth limit (.object scan.fields scan.stop), scan.rest)
    | '"' :: rest => stringNode (scanString .start rest)
    | 'n' :: rest => word ['u', 'l', 'l'] .null .faultyNull rest
    | 't' :: rest => word ['r', 'u', 'e'] (.bool true) (fun f => .faulty f (some f)) rest
    | 'f' :: rest => word ['a', 'l', 's', 'e'] (.bool false) (fun f => .faulty f (some f)) rest
    | c :: rest =>
      if c == '-' || c.isDigit then scanNumber (c :: rest)
      else (.faulty .malformed (some .malformed), none)

/-- The items of an array, from the first one or from behind an item. -/
def scanItems : Nat → Nat → Bool → List Char → Items
  | 0, _, _, _ => ⟨[], some .unfinished, none⟩
  | fuel + 1, limit, first, cs =>
    match skipBlanks cs with
    | [] => ⟨[], some .unfinished, none⟩
    | ']' :: rest => ⟨[], none, some rest⟩
    | c :: rest =>
      if first then scanItem fuel limit (c :: rest)
      else if c = ',' then scanItem fuel limit rest
      else ⟨[], some .malformed, none⟩

/-- An item and the items behind it. -/
def scanItem : Nat → Nat → List Char → Items
  | 0, _, _ => ⟨[], some .unfinished, none⟩
  | fuel + 1, limit, cs =>
    match scanValue fuel limit cs with
    | (item, none) => ⟨[item], none, none⟩
    | (item, some rest) =>
      let scan := scanItems fuel limit false rest
      ⟨item :: scan.items, scan.stop, scan.rest⟩

/-- The fields of an object, from the first one or from behind a field. -/
def scanFields : Nat → Nat → Bool → List Char → FieldScan
  | 0, _, _, _ => ⟨[], some .unfinished, none⟩
  | fuel + 1, limit, first, cs =>
    match skipBlanks cs with
    | [] => ⟨[], some .unfinished, none⟩
    | '\x7d' :: rest => ⟨[], none, some rest⟩
    | c :: rest =>
      if first then scanField fuel limit (c :: rest)
      else if c = ',' then scanField fuel limit rest
      else ⟨[], some .malformed, none⟩

/-- A field and the fields behind it. -/
def scanField : Nat → Nat → List Char → FieldScan
  | 0, _, _ => ⟨[], some .unfinished, none⟩
  | fuel + 1, limit, cs =>
    match skipBlanks cs with
    -- a comma asks for another field
    | [] => ⟨[(.absent, .absent)], none, none⟩
    | '"' :: rest =>
      let scan := scanString .start rest
      let key := stringKey scan
      if scan.stop.isSome then ⟨[(key, .absent)], none, none⟩
      else
        match skipBlanks scan.rest with
        | [] => ⟨[(key, .absent)], none, none⟩
        | ':' :: rest =>
          match scanValue fuel limit rest with
          | (value, none) => ⟨[(key, value)], none, none⟩
          | (value, some rest) =>
            let scan := scanFields fuel limit false rest
            ⟨(key, value) :: scan.fields, scan.stop, scan.rest⟩
        | _ => ⟨[(key, .faulty .malformed (some .malformed))], none, none⟩
    | _ => ⟨[(.misplaced, .absent)], none, none⟩

end

/-- The greatest number of containers around a value. -/
abbrev maxDepth : Nat := 127

/-- A value at the front of a text, and what follows it. -/
def ofChars (limit : Nat) (cs : List Char) : Step := scanValue (4 * cs.length + 4) limit cs

/-! ## Passing over a value -/

mutual

/-- The first fault in a value that is passed over. -/
def skipFault : Scan → Option Fault
  | array items stop => (skipFaultAll items).or stop
  | object fields stop => (skipFaultFields fields).or stop
  | tooDeep inner => skipFault inner
  | absent => some .unfinished
  | faultyNull f => some f
  | faultyString _ skipped => skipped
  | faulty _ skipped => skipped
  | _ => none

/-- The first fault in items that are passed over. -/
def skipFaultAll : List Scan → Option Fault
  | [] => none
  | item :: items => (skipFault item).or (skipFaultAll items)

/-- The first fault in fields that are passed over. -/
def skipFaultFields : List (Key × Scan) → Option Fault
  | [] => none
  | (key, value) :: fields =>
    key.skipFault.or ((skipFault value).or (skipFaultFields fields))

end

end Scan

end DataStep.Json
