import DataStep.Eval
import DataStep.Statement

/-!
# The context of statements

The context is what the statements of a DATA step body see and change: the row in the making, the
bookkeeping of the pass over the body, the retained values, the passes of the running loops, the
arrays and the log. Statements at the top level share it for their conditions and loops.
-/

set_option autoImplicit false

namespace DataStep

/-- The bookkeeping of one pass over a DATA step body. -/
structure StepState where
  /-- Whether OUTPUT was executed. -/
  output : Bool
  /-- The variables of the DROP statements, if one was executed. -/
  drop : Option (List String)
  /-- The variables of the KEEP statements, if one was executed. -/
  keep : Option (List String)
  /-- The variables of the RETAIN statements. -/
  retain : List String
  /-- The retained variables of the pass before. -/
  previousRetain : List String
  deriving DecidableEq

namespace StepState

/-- No bookkeeping yet. -/
def empty : StepState := ⟨false, none, none, [], []⟩

instance : Inhabited StepState := ⟨empty⟩

/-- The bookkeeping with which the next pass begins. -/
def next (s : StepState) : StepState := ⟨false, none, none, [], s.retain⟩

/-- Adds variables to a DROP or KEEP list. -/
def extend (list : Option (List String)) (vars : List String) : Option (List String) :=
  some (list.getD [] ++ vars)

/-- Whether a variable does not go to the output: it is not kept, or it is dropped where nothing is
kept. -/
def excludes (s : StepState) (name : String) : Bool :=
  match s.keep, s.drop with
  | some keep, _ => !keep.contains name
  | none, some drop => drop.contains name
  | none, none => false

end StepState

/-- What statements see and change. -/
structure Context where
  /-- The row in the making. -/
  row : Row
  /-- The values of retained variables. -/
  saved : OrderedMap Value
  step : StepState
  /-- The completed passes of the running conditional loops, the innermost first. -/
  loops : List Nat
  arrays : Arrays
  log : Log
  /-- The day on which the run takes place. -/
  currentDay : Int

/-- Whether the statements after one are executed. -/
inductive Flow where
  | next
  /-- The pass of the innermost conditional loop is over. -/
  | endOfPass
  deriving DecidableEq, Repr

/-- A run of statements on the context. -/
abbrev ContextM := Run RunError Context

namespace Context

/-- The context before the first statement. -/
def initial (currentDay : Int) : Context :=
  ⟨.empty, .empty, .empty, [], .empty, #[], currentDay⟩

/-- What expressions see. -/
def scope (ctx : Context) : Scope := ⟨ctx.row, ctx.arrays, ctx.currentDay⟩

/-- Changes the row. -/
def mapRow (f : Row → Row) (ctx : Context) : Context := { ctx with row := f ctx.row }

/-- Changes the log. -/
def mapLog (f : Log → Log) (ctx : Context) : Context := { ctx with log := f ctx.log }

/-- Evaluates on the scope and the log of the context. -/
def evaluation {α : Type} (act : Scope → EvalM α) : ContextM α :=
  Run.of fun ctx =>
    (Run.within Context.log (fun c log => { c with log }) RunError.eval (act ctx.scope)).start ctx

/-- The value of an expression. -/
def evaluate (e : Expr) : ContextM Value := evaluation fun scope => e.eval scope

/-- Whether a condition holds. -/
def holds (e : Expr) : ContextM Bool := return (← evaluate e).isTrue

/-! ## Loops -/

/-- Begins a conditional loop. -/
def enterLoop (ctx : Context) : Context := { ctx with loops := 0 :: ctx.loops }

/-- Ends the innermost conditional loop. -/
def leaveLoop (ctx : Context) : Context := { ctx with loops := ctx.loops.tail }

/-- Counts a pass of the innermost conditional loop. -/
def countPass (ctx : Context) : Context :=
  match ctx.loops with
  | [] => ctx
  | n :: outer => { ctx with loops := (n + 1) :: outer }

/-- The message of a loop that is cut off. -/
def cutOffMessage (limit : Nat) : String :=
  s!"DO loop exceeded the maximum of {limit} iterations; loop terminated"

/-- Whether the condition of a loop asks for another pass. -/
def wantsPass (kind : LoopKind) : Option Expr → ContextM Bool
  | none => pure true
  | some condition => do
    let holds ← holds condition
    match kind with
    | .whileTrue => pure holds
    | .untilTrue => pure !holds

/-- Whether a loop has another pass: its condition asks for one and the limit is not reached. -/
def hasPass (limit : Nat) (kind : LoopKind) (condition : Option Expr) : ContextM Bool := do
  if ← wantsPass kind condition then
    -- the condition is evaluated before the limit is looked at
    if limit ≤ (← get).loops.headD 0 then
      modify (mapLog (Log.error · (cutOffMessage limit)))
      pure false
    else pure true
  else pure false

/-! ## Statements without parts -/

/-- Assigns to a variable or to an array element. The value is evaluated before the subscript. -/
def assign (target : Target) (value : Expr) : ContextM Unit := do
  let v ← evaluate value
  let name ← match target with
    | .variable name => pure name
    | .element array index => evaluation fun scope => scope.resolve array index
  modify (mapRow fun row => row.insert name v)

/-- Takes variables out of the row and off the output. -/
def drop (vars : List String) (ctx : Context) : Context :=
  { ctx with
    row := vars.foldl OrderedMap.erase ctx.row
    step := { ctx.step with drop := StepState.extend ctx.step.drop vars } }

/-- Leaves only the given variables in the row and in the output. -/
def keep (vars : List String) (ctx : Context) : Context :=
  { ctx with
    row := ctx.row.filterKeys vars.contains
    step := { ctx.step with keep := StepState.extend ctx.step.keep vars } }

/-- Marks a variable as retained and gives it its initial value, if it has neither a value in the
row nor one retained before. -/
def retainItem (ctx : Context) (item : RetainItem) : Context :=
  let names := ctx.step.retain
  let names := if names.contains item.name then names else names ++ [item.name]
  -- an initial value never replaces a value that was carried over
  let row :=
    match item.initial with
    | none => ctx.row
    | some v =>
      if ctx.row.contains item.name || ctx.saved.contains item.name then ctx.row
      else ctx.row.insert item.name v
  { ctx with row, step := { ctx.step with retain := names } }

/-- Declares an array, whose size has to be the number of its variables. -/
def declareArray (name : String) (size : Nat) (vars : List String) : ContextM Unit :=
  if size != vars.length then throw (.arraySizeMismatch name size vars.length)
  else modify fun ctx => { ctx with arrays := ctx.arrays.declare name vars }

/-- Ends the pass of the innermost conditional loop. -/
def endPass : ContextM Flow := do
  if (← get).loops.isEmpty then throw .unmatchedEnd else pure .endOfPass

end Context

end DataStep
