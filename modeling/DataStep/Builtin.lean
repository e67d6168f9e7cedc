import DataStep.Interval
import DataStep.Log
import DataStep.Operator
import DataStep.Run

/-!
# Built-in functions

Every built-in function has a name, found in letters of either case, and a range for the number of
its arguments. Text functions take a missing value for the empty text and reject numbers; numeric
functions take a text for the number that it spells and are missing on what is no number. A
logarithm or a root outside its domain is missing and leaves a warning.
-/

set_option autoImplicit false

namespace DataStep

/-- What evaluation works on: a log for its warnings. -/
abbrev EvalM := Run EvalError Log

/-- Adds a warning to the log. -/
def EvalM.warn (message : String) : EvalM Unit := modify (Log.warning · message)

/-- A built-in function. -/
inductive Builtin where
  | substr | trim | right | left | upcase | lowcase
  | sqrt | abs | log | log10 | ceil | floor | round | exp
  | today | datepart | timepart | intck | intnx
  deriving DecidableEq, Repr

namespace Builtin

/-- All built-in functions with their names. -/
def table : List (String × Builtin) :=
  [("substr", substr), ("trim", trim), ("right", right), ("left", left), ("upcase", upcase),
   ("lowcase", lowcase), ("sqrt", sqrt), ("abs", abs), ("log", log), ("log10", log10),
   ("ceil", ceil), ("floor", floor), ("round", round), ("exp", exp), ("today", today),
   ("datepart", datepart), ("timepart", timepart), ("intck", intck), ("intnx", intnx)]

/-- The function that a name denotes. -/
def ofName? (name : String) : Option Builtin := table.lookup (Text.lower name)

/-- The name of a function. -/
def name (b : Builtin) : String :=
  ((table.find? fun e => e.2 == b).map (·.1)).getD ""

/-- The fewest and the most arguments of a function. -/
def arity : Builtin → Nat × Nat
  | substr => (2, 3)
  | round => (1, 2)
  | today => (0, 0)
  | intck => (3, 3)
  | intnx => (3, 4)
  | _ => (1, 1)

/-! ## Text functions -/

/-- The text of a text argument. -/
def textArgument (b : Builtin) (v : Value) : Except EvalError String :=
  match v with
  | .text s => .ok s
  | .missing => .ok ""
  | .number _ => .error (.typeMismatch b.name "character" v.typeName)

/-- Applies a function to the characters of a text argument. -/
def onText (b : Builtin) (f : List Char → List Char) (v : Value) : Except EvalError Value :=
  (b.textArgument v).map fun s => .text (String.ofList (f s.toList))

/-- How many characters a slice takes of what is left from its position on. -/
def sliceLength (left : Nat) : Option Value → Nat
  | none => left
  | some v =>
    match v.toNumber? with
    | none => left
    | some n =>
      -- a length below one takes nothing
      if n.isNaN || n.negative then 0
      else if n.isInfinite then left
      else min n.toInt.toNat left

/-- The characters from a position on, counted from one; the position and the length count by
their whole parts, and a position outside the text leaves nothing. -/
def slice (cs : List Char) (position : Number) (length : Option Value) : Except Halt (List Char) :=
  if position.isNaN then .error .nanIndex
  else
    let start := position.toInt
    if position.isInfinite || start < 1 || cs.length < start then .ok []
    else
      let tail := cs.drop (start.toNat - 1)
      .ok (tail.take (sliceLength tail.length length))

/-- The part of a text that a position and a length select. -/
def substring (v position : Value) (length : Option Value) : EvalM Value := do
  let s ← (substr.textArgument v : Except EvalError String)
  match position.toNumber? with
  | none => pure (.text "")
  | some p =>
    match slice s.toList p length with
    | .ok cs => pure (.text (String.ofList cs))
    | .error h => Run.halt h

/-! ## Numeric functions -/

/-- Applies a function to the number that an argument counts as. -/
def onNumber (f : Number → Number) (v : Value) : Value := .ofNumber? (v.toNumber?.map f)

/-- Applies a function inside its domain; outside it the result is missing, with a warning. -/
def inDomain (label : String) (outside : Number → Bool) (f : Number → Number) (v : Value) :
    EvalM Value :=
  match v.toNumber? with
  | none => pure .missing
  | some n =>
    if outside n then do
      EvalM.warn s!"Invalid argument to function {label}({n.text}); result set to missing"
      pure .missing
    else pure (.number (f n))

/-- The logarithm to the base ten, which rejects what is not positive. -/
def commonLogarithm (v : Value) : Except EvalError Value :=
  match v.toNumber? with
  | none => .ok .missing
  | some n =>
    if n.atMost (.zero false) then .error (.domainError log10.name "positive")
    else .ok (.number n.log10)

/-- A number rounded at a decimal place, the units without one. -/
def rounded (v : Value) (places : Option Value) : Value :=
  match v.toNumber? with
  | none => .missing
  | some x =>
    match places with
    | none => .number (x.roundHalfAway 0)
    | some p =>
      match p.toNumber? with
      | none => .missing
      | some d => .number (x.roundHalfAway d.toPlaces)

/-! ## Dates -/

/-- The seconds of a day. -/
def secondsPerDay : Number := .ofNat 86400

/-- The seconds since the beginning of the day. -/
def secondsOfDay (seconds : Number) : Number :=
  let r := seconds.rem secondsPerDay
  if r.below (.zero false) then r.add secondsPerDay else r

/-- The largest count of days and of intervals that the date functions accept. -/
abbrev maxSpan : Nat := 3000000

/-- The day of a number of days, within the accepted span. -/
def toDay? (x : Number) : Option Int :=
  let d := x.floor
  if d.isFinite && d.toInt.natAbs ≤ maxSpan then some d.toInt else none

/-- A count of intervals: the whole part, within the accepted span. -/
def toCount? (x : Number) : Option Int :=
  if x.isFinite && x.toInt.natAbs ≤ maxSpan then some x.toInt else none

/-- The interval that an argument names. -/
def intervalArgument (b : Builtin) (v : Value) : Except EvalError Interval :=
  match v with
  | .text s =>
    match Interval.ofWord? (Text.lower (Text.trimString s)) with
    | some i => .ok i
    | none => .error (.unsupportedInterval b.name s)
  | v => .error (.typeMismatch b.name "character interval" v.typeName)

/-- The alignment that an argument names, the beginning without one. -/
def alignmentArgument : Option Value → Except EvalError Alignment
  | none => .ok .beginning
  | some v =>
    match Alignment.ofWord? (Text.lower (Text.trimString v.toText)) with
    | some a => .ok a
    | none => .error (.domainError intnx.name "one of BEGINNING, MIDDLE, END, SAME")

/-- A number of days or intervals, if there is one. -/
def ofCount? : Option Int → Value
  | some n => .number (.ofInt n)
  | none => .missing

/-- How many intervals lie between two days. -/
def intervalCount (interval start stop : Value) : Except EvalError Value := do
  let interval ← intck.intervalArgument interval
  return ofCount? do
    let a ← toDay? (← start.toNumber?)
    let b ← toDay? (← stop.toNumber?)
    some (interval.count a b)

/-- The day that lies a number of intervals further on. -/
def intervalAdvance (interval start n : Value) (alignment : Option Value) :
    Except EvalError Value := do
  let interval ← intnx.intervalArgument interval
  -- a bad alignment is reported even if a date is missing
  let alignment ← alignmentArgument alignment
  return ofCount? do
    let d ← toDay? (← start.toNumber?)
    let n ← toCount? (← n.toNumber?)
    (interval.advance? d n).map alignment.pick

/-! ## Calls -/

/-- The result of a function on its arguments, given the current day. -/
def apply (b : Builtin) (currentDay : Int) (args : List Value) : EvalM Value :=
  match b, args with
  | substr, [v, position] => substring v position none
  | substr, [v, position, length] => substring v position (some length)
  | trim, [v] => b.onText Text.trimEnd v
  | right, [v] => b.onText Text.trimEnd v
  | left, [v] => b.onText Text.trimStart v
  | upcase, [v] => b.onText (·.flatMap Text.upperChar) v
  | lowcase, [v] => b.onText (Text.lowerAfter []) v
  | sqrt, [v] => inDomain "SQRT" (·.below (.zero false)) .sqrt v
  | log, [v] => inDomain "LOG" (·.atMost (.zero false)) .ln v
  | log10, [v] => commonLogarithm v
  | abs, [v] => pure (onNumber .abs v)
  | ceil, [v] => pure (onNumber .ceil v)
  | floor, [v] => pure (onNumber .floor v)
  | exp, [v] => pure (onNumber .exp v)
  | round, [v] => pure (rounded v none)
  | round, [v, places] => pure (rounded v (some places))
  | today, [] => pure (.number (.ofInt currentDay))
  | datepart, [v] => pure (onNumber (fun x => (x.div secondsPerDay).floor) v)
  | timepart, [v] => pure (onNumber secondsOfDay v)
  | intck, [interval, start, stop] => intervalCount interval start stop
  | intnx, [interval, start, n] => intervalAdvance interval start n none
  | intnx, [interval, start, n, alignment] => intervalAdvance interval start n (some alignment)
  | b, args => throw (.arityMismatch b.name b.arity.1 b.arity.2 args.length)

/-- Calls the function that a name denotes. -/
def call (currentDay : Int) (name : String) (args : List Value) : EvalM Value :=
  match ofName? name with
  | some b => b.apply currentDay args
  | none => throw (.unsupportedFunction name)

end Builtin

end DataStep
