import DataStep.Procedure
import DataStep.Step

/-!
# Execution

Statements at the top level: DATA steps, procedures and settings, and the conditions, loops, arrays,
BY and MERGE statements that may also stand outside a DATA step. A program executes its statements
one after another; one that fails leaves an error in the log, and the next one is executed.
-/

set_option autoImplicit false

namespace DataStep

/-- The failure of a statement that may only stand in the body of a DATA step. -/
def onlyInBody (s : Statement) : SessionM Flow :=
  throw (.unsupportedStatement s.keyword "outside a DATA step")

mutual

/-- Executes a statement at the top level. -/
def Statement.execute (passes : Nat) : Statement → SessionM Flow
  | .dataStep header body => do Session.dataStep passes header body; pure .next
  | .proc p => do Session.procedure p; pure .next
  | .options settings => do Session.setOptions settings; pure .next
  | .libname libref path => do Session.assignLibrary libref path; pure .next
  | .title text => do Session.setTitle text; pure .next
  | .ifChain condition body elseIfs otherwise => do
    if ← Session.onContext (Context.holds condition) then Statement.executeAll passes body
    else Statement.executeArms passes (Statement.executeAll passes otherwise) elseIfs
  | .array name size vars => do
    Session.onContext (Context.declareArray name size vars)
    pure .next
  | .conditionalDo kind condition body => do
    let limit := (← get).config.maxPasses
    let pass : SessionM Unit := do
      -- a DATA step in the body forgets the running loops
      let _ ← body.execute passes
      modify (Session.mapContext Context.countPass)
    let hasPass := Session.onContext (Context.hasPass limit kind condition)
    let again := loopPass hasPass pass condition.isNone
    Run.bracket (Session.mapContext Context.enterLoop) (Session.mapContext Context.leaveLoop)
      (Run.iterate again passes)
    pure .next
  | .endPass => Session.onContext Context.endPass
  | .merge datasets => do Session.mergeCurrent datasets; pure .next
  | .byVariables vars => do
    modify fun s => { s with byVariables := vars }
    pure .next
  | .assign target value => onlyInBody (.assign target value)
  | .output => onlyInBody .output
  | .drop vars => onlyInBody (.drop vars)
  | .keep vars => onlyInBody (.keep vars)
  | .retain items => onlyInBody (.retain items)
  | .ifThen condition body => onlyInBody (.ifThen condition body)
  | .countedDo counter start stop increment body =>
    onlyInBody (.countedDo counter start stop increment body)
  | .block body => onlyInBody (.block body)

/-- Executes statements in order until one ends the pass of a conditional loop. -/
def Statement.executeAll (passes : Nat) : List Statement → SessionM Flow
  | [] => pure .next
  | s :: rest => do
    match ← s.execute passes with
    | .next => Statement.executeAll passes rest
    | .endOfPass => pure .endOfPass

/-- Executes the body of the first arm whose condition holds, or else what is left. -/
def Statement.executeArms (passes : Nat) (otherwise : SessionM Flow) :
    List (Expr × List Statement) → SessionM Flow
  | [] => otherwise
  | (condition, body) :: arms => do
    if ← Session.onContext (Context.holds condition) then Statement.executeAll passes body
    else Statement.executeArms passes otherwise arms

end

namespace Session

/-- Executes one statement of a program, with no loop running. -/
def run (passes : Nat) (s : Statement) : SessionM Unit := do
  modify (mapContext fun ctx => { ctx with loops := [] })
  let _ ← s.execute passes

/-- Executes one statement and logs its error, if it fails. -/
def runLogged (passes : Nat) (s : Statement) : SessionM Unit :=
  tryCatch (run passes s) fun e => error e.message

/-- Executes the statements of a program. -/
def runProgram (passes : Nat) (program : Program) : SessionM Unit :=
  program.statements.forM (runLogged passes)

end Session

end DataStep
