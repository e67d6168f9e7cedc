import DataStep.Builtin
import DataStep.Expr
import DataStep.Row

/-!
# Evaluation

An expression is evaluated against a row and the declared arrays. Both operands of an operator are
evaluated, the left one first, and the arguments of a call from left to right. A variable that the
row does not have is missing and leaves a warning. An array stands for a list of variables; a
subscript counts by its whole part, from one, and is an error when it names no element.
-/

set_option autoImplicit false

namespace DataStep

/-- Arrays by lower-case name: each a list of variables. -/
abbrev Arrays := OrderedMap (List String)

namespace Arrays

/-- Declares an array, in place of one of the same name. -/
def declare (arrays : Arrays) (name : String) (vars : List String) : Arrays :=
  arrays.insert (Text.lower name) vars

/-- The variables of an array. -/
def find? (arrays : Arrays) (name : String) : Option (List String) :=
  arrays.get? (Text.lower name)

/-- The place in a list of the given size that a subscript names, counted from zero. -/
def position? (size : Nat) (subscript : Number) : Option Nat :=
  let i := subscript.toInt
  if subscript.isInfinite || i < 1 || size < i then none else some (i.toNat - 1)

/-- The variable that an array element stands for. A subscript that is not a number has no order
to the bounds and passes them, and then there is no element to take. -/
def element (arrays : Arrays) (name : String) (index : Value) :
    Except Halt (Except EvalError String) :=
  match arrays.find? name with
  | none => .ok (.error (.undefinedArray name))
  | some vars =>
    match index.toNumber? with
    | none => .ok (.error (.indexOutOfBounds name none vars.length))
    | some n =>
      if n.isNaN then .error .nanIndex
      else
        match (position? vars.length n).bind (vars[·]?) with
        | some v => .ok (.ok v)
        | none => .ok (.error (.indexOutOfBounds name (some n.trunc) vars.length))

end Arrays

/-- What an expression can see. -/
structure Scope where
  row : Row
  arrays : Arrays
  /-- The day on which the run takes place. -/
  currentDay : Int

namespace Scope

/-- The value of a variable; one that the row does not have is missing, with a warning. -/
def lookup (scope : Scope) (name : String) : EvalM Value :=
  match scope.row.get? name with
  | some v => pure v
  | none => do
    EvalM.warn s!"Variable {name} is uninitialized"
    pure .missing

/-- The variable that an array element stands for. -/
def element (scope : Scope) (array : String) (index : Value) : EvalM String :=
  Run.of fun log => (scope.arrays.element array index).map fun r => (r, log)

end Scope

/-- The operator of a token. -/
def Operator.ofToken (token : String) : Except EvalError Operator :=
  match ofToken? token with
  | some op => .ok op
  | none => .error (.unsupportedOperator token)

mutual

/-- The value of an expression. -/
def Expr.eval (scope : Scope) : Expr → EvalM Value
  | .number n => pure (.number n)
  | .text s => pure (.text s)
  | .variable name => scope.lookup name
  | .element array index => do
    let i ← index.eval scope
    let v ← scope.element array i
    scope.lookup v
  | .binary op left right => do
    -- an unknown operator fails before its operands are evaluated
    let op ← (Operator.ofToken op : Except EvalError Operator)
    let l ← left.eval scope
    let r ← right.eval scope
    pure (op.apply l r)
  | .call name args => do
    let vs ← Expr.evalAll scope args
    Builtin.call scope.currentDay name vs

/-- The values of expressions, from left to right. -/
def Expr.evalAll (scope : Scope) : List Expr → EvalM (List Value)
  | [] => pure []
  | e :: es => do
    let v ← e.eval scope
    let vs ← Expr.evalAll scope es
    pure (v :: vs)

end

/-- The variable that the element of an array with a subscript expression stands for. -/
def Scope.resolve (scope : Scope) (array : String) (index : Expr) : EvalM String := do
  let i ← index.eval scope
  scope.element array i

end DataStep
