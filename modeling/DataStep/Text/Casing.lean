import DataStep.Text.CaseTable

/-!
# Letter case

The full case mappings of Unicode text: one character may become several, and a capital sigma
becomes a final sigma when a letter stands before it in its word and none after it. Names of
functions, arrays, options and data sets are compared in lower case and library references in
upper case. Operator tokens know the ASCII letters only (`asciiLower`).
-/

set_option autoImplicit false

namespace DataStep.Text

/-- The image of a character code under a run that covers it. -/
def CaseRun.image? (r : CaseRun) (n : Nat) : Option Nat :=
  if r.first ≤ n && n ≤ r.last && (n - r.first) % r.step == 0 then some (n + r.offset).toNat
  else none

/-- Whether a character code lies in one of the ranges. -/
def inRanges (ranges : List (Nat × Nat)) (n : Nat) : Bool :=
  ranges.any fun (first, last) => first ≤ n && n ≤ last

/-- The image of a character: its expansion, else the image under a run, else itself. -/
def mapCase (expansions : List (Nat × List Nat)) (runs : List CaseRun) (c : Char) : List Char :=
  match expansions.lookup c.toNat with
  | some codes => codes.map Char.ofNat
  | none =>
    match runs.findSome? (·.image? c.toNat) with
    | some code => [Char.ofNat code]
    | none => [c]

/-- The upper case of a character. -/
def upperChar (c : Char) : List Char :=
  if c.toNat < 128 then [c.toUpper] else mapCase upperExpansions upperRuns c

/-- The lower case of a character outside any context. -/
def lowerChar (c : Char) : List Char :=
  if c.toNat < 128 then [c.toLower] else mapCase lowerExpansions lowerRuns c

/-- Whether the next character that the search does not pass over is a letter with a case. -/
def reachesCased (cs : List Char) : Bool :=
  match cs.dropWhile fun c => inRanges caseIgnorableRanges c.toNat with
  | [] => false
  | c :: _ => inRanges casedRanges c.toNat

/-- The lower case of a text, with the characters before it in reverse order. -/
def lowerAfter (before : List Char) : List Char → List Char
  | [] => []
  | c :: rest =>
    let image :=
      -- the one image that depends on the characters around it
      if c = 'Σ' then [if reachesCased before && !reachesCased rest then 'ς' else 'σ']
      else lowerChar c
    image ++ lowerAfter (c :: before) rest

/-- The upper case of a string. -/
def upper (s : String) : String := String.ofList (s.toList.flatMap upperChar)

/-- The lower case of a string. -/
def lower (s : String) : String := String.ofList (lowerAfter [] s.toList)

/-- The lower case of the ASCII letters of a string. -/
def asciiLower (s : String) : String := String.ofList (s.toList.map Char.toLower)

end DataStep.Text
