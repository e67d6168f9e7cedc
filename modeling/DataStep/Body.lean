import DataStep.Context

/-!
# The body of a DATA step

The statements of a body are executed in order until one ends the pass of a conditional loop. Every
loop gets the same bound on its passes: a run that needs more of them halts, so that a loop without
an end is one that halts under every bound. A conditional loop also stops by itself at the limit of
the configuration; a counted loop has no such limit.
-/

set_option autoImplicit false

namespace DataStep

/-- One pass of a conditional loop, if it has one; a loop without a condition has no second. -/
def loopPass {σ : Type} (hasPass : Run RunError σ Bool) (body : Run RunError σ Unit)
    (once : Bool) : Run RunError σ (Option Unit) := do
  if ← hasPass then
    body
    pure (if once then some () else none)
  else pure (some ())

/-- Whether a counter has not passed the end of a loop in the direction of the increment. -/
def inRange (increment current last : Number) : Bool :=
  if Number.below (.zero false) increment then current.atMost last else last.atMost current

/-- One pass of a counted loop, if its counter is in range. -/
def countedPass (counter : String) (last increment : Number) (body : ContextM Flow) :
    ContextM (Option Flow) := do
  -- the counter is a column of the row, so the body may change it
  match (Row.value (← get).row counter).toNumber? with
  | none => pure (some .next)
  | some current =>
    if inRange increment current last then
      match ← body with
      | .endOfPass => pure (some .endOfPass)
      | .next =>
        modify (Context.mapRow fun row =>
          let next := (Row.value row counter).toNumber?.map fun n => n.add increment
          row.insert counter (.ofNumber? next))
        pure none
    else pure (some .next)

/-- Begins a counted loop: evaluates start, end and increment and sets the counter. Answers the end,
if it counts as a number, and the increment, one unless it is given. -/
def startCounted (counter : String) (start stop : Expr) (increment : Option Expr) :
    ContextM (Option Number × Number) := do
  let first ← Context.evaluate start
  let last := (← Context.evaluate stop).toNumber?
  let step ← match increment with
    | some e => pure ((← Context.evaluate e).toNumber?.getD (.zero false))
    | none => pure (.ofNat 1)
  -- an increment that counts as no number is zero, too
  if step.isZero then throw (.zeroIncrement counter)
  modify (Context.mapRow fun row => row.insert counter first.toNumeric)
  pure (last, step)

/-- A loop from a counter's start to its end. -/
def countedLoop (passes : Nat) (counter : String) (start stop : Expr) (increment : Option Expr)
    (body : ContextM Flow) : ContextM Flow := do
  match ← startCounted counter start stop increment with
  | (none, _) => pure .next
  | (some last, step) => Run.iterate (countedPass counter last step body) passes

/-- The failure of a statement that may not stand in a body. -/
def notInBody (s : Statement) : ContextM Flow :=
  throw (.unsupportedStatement s.keyword "in DATA step")

mutual

/-- Executes a statement of a body. -/
def Statement.perform (passes limit : Nat) : Statement → ContextM Flow
  | .assign target value => do Context.assign target value; pure .next
  | .output => do
    modify fun ctx => { ctx with step := { ctx.step with output := true } }
    pure .next
  | .drop vars => do modify (Context.drop vars); pure .next
  | .keep vars => do modify (Context.keep vars); pure .next
  | .retain items => do modify (items.foldl Context.retainItem); pure .next
  | .ifThen condition body => do
    if ← Context.holds condition then Statement.performAll passes limit body else pure .next
  | .ifChain condition body elseIfs otherwise => do
    if ← Context.holds condition then Statement.performAll passes limit body
    else Statement.performArms passes limit (Statement.performAll passes limit otherwise) elseIfs
  | .array name size vars => do Context.declareArray name size vars; pure .next
  | .conditionalDo kind condition body => do
    let pass : ContextM Unit := do
      -- an end of the pass stops here: the loop goes on with its condition
      let _ ← body.perform passes limit
      modify Context.countPass
    let again := loopPass (Context.hasPass limit kind condition) pass condition.isNone
    Run.bracket Context.enterLoop Context.leaveLoop (Run.iterate again passes)
    pure .next
  | .endPass => Context.endPass
  | .countedDo counter start stop increment body =>
    countedLoop passes counter start stop increment (Statement.performAll passes limit body)
  | .block body => Statement.performAll passes limit body
  | .merge _ => pure .next
  | .byVariables _ => pure .next
  | .dataStep header body => notInBody (.dataStep header body)
  | .options settings => notInBody (.options settings)
  | .libname libref path => notInBody (.libname libref path)
  | .title text => notInBody (.title text)
  | .proc p => notInBody (.proc p)

/-- Executes statements in order until one ends the pass of a conditional loop. -/
def Statement.performAll (passes limit : Nat) : List Statement → ContextM Flow
  | [] => pure .next
  | s :: rest => do
    match ← s.perform passes limit with
    | .next => Statement.performAll passes limit rest
    | .endOfPass => pure .endOfPass

/-- Executes the body of the first arm whose condition holds, or else what is left. -/
def Statement.performArms (passes limit : Nat) (otherwise : ContextM Flow) :
    List (Expr × List Statement) → ContextM Flow
  | [] => otherwise
  | (condition, body) :: arms => do
    if ← Context.holds condition then Statement.performAll passes limit body
    else Statement.performArms passes limit otherwise arms

end

end DataStep
