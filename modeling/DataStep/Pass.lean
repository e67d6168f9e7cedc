import DataStep.Body

/-!
# A pass over a DATA step body

For each input row the body is executed once. Before it, the variables that the pass before retained
take their saved values. After it, excluded columns leave the row; then each retained variable of
this pass is saved, or takes its saved value where the row does not have it and it is not excluded.
The row goes to the output if OUTPUT was executed, in the form that it has at the end.
-/

set_option autoImplicit false

namespace DataStep

namespace Context

/-- Gives a row the saved values of variables. -/
def restore (saved : OrderedMap Value) (row : Row) (names : List String) : Row :=
  names.foldl (fun row name =>
    match saved.get? name with
    | some v => row.insert name v
    | none => row) row

/-- The context in which a pass over an input row begins. -/
def beginPass (row : Row) (ctx : Context) : Context :=
  { ctx with
    row := restore ctx.saved row ctx.step.retain
    step := ctx.step.next }

/-- Saves a retained variable, or gives it its saved value where the row does not have it. -/
def saveOrRestore (ctx : Context) (name : String) : Context :=
  match ctx.row.get? name with
  | some v => { ctx with saved := ctx.saved.insert name v }
  -- a column that is excluded must not come back
  | none =>
    if ctx.step.excludes name then ctx
    else { ctx with row := restore ctx.saved ctx.row [name] }

/-- The context at the end of a pass. -/
def finishPass (ctx : Context) : Context :=
  ctx.step.retain.foldl saveOrRestore
    { ctx with row := ctx.row.filterKeys fun name => !ctx.step.excludes name }

/-- One pass over the body for an input row; answers the row that goes to the output. -/
def pass (passes limit : Nat) (body : List Statement) (row : Row) : ContextM (Option Row) := do
  modify (beginPass row)
  let _ ← Statement.performAll passes limit body
  modify finishPass
  let ctx ← get
  pure (if ctx.step.output then some ctx.row else none)

end Context

end DataStep
