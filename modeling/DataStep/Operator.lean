import DataStep.Value
import DataStep.Text.Casing

/-!
# Binary operators

The operands of an operator are the numbers that its values count as. Arithmetic on a missing
operand and division by zero are missing. A comparison puts a missing operand below every number
and leaves numbers that have no order equal; it answers one or zero, as the connectives do.
-/

set_option autoImplicit false

namespace DataStep

/-- A binary operator. -/
inductive Operator where
  | add | sub | mul | div
  | gt | lt | ge | le | eq | ne
  | and | or
  deriving DecidableEq, Repr

namespace Operator

/-- The operator that a token names; the words may be in letters of either case. -/
def ofToken? (token : String) : Option Operator :=
  match Text.asciiLower token with
  | "+" => some add
  | "-" => some sub
  | "*" => some mul
  | "/" => some div
  | ">" => some gt
  | "<" => some lt
  | ">=" => some ge
  | "<=" => some le
  | "==" => some eq
  | "!=" => some ne
  | "and" => some and
  | "or" => some or
  | _ => none

/-- An arithmetic result, missing unless both operands are present. -/
def lift (f : Number → Number → Value) : Option Number → Option Number → Value
  | some a, some b => f a b
  | _, _ => .missing

/-- A quotient; division by a zero is missing. -/
def quotient (a b : Number) : Value :=
  if b.isZero then .missing else .number (a.div b)

/-- The order of two operands: a missing one is below every number, and numbers without an order
are equal. -/
def compareOperands : Option Number → Option Number → Ordering
  | none, none => .eq
  | none, some _ => .lt
  | some _, none => .gt
  | some a, some b => (a.partialCompare b).getD .eq

/-- Whether an operand is present and not zero. -/
def holds : Option Number → Bool
  | some n => !n.isZero
  | none => false

/-- A truth value as a number. -/
def truth (b : Bool) : Value := .number (Number.ofNat (if b then 1 else 0))

/-- The result of an operator on two operands. -/
def applyOperands (op : Operator) (a b : Option Number) : Value :=
  match op with
  | add => lift (fun a b => .number (a.add b)) a b
  | sub => lift (fun a b => .number (a.sub b)) a b
  | mul => lift (fun a b => .number (a.mul b)) a b
  | div => lift quotient a b
  | gt => truth (compareOperands a b).isGT
  | lt => truth (compareOperands a b).isLT
  | ge => truth (compareOperands a b).isGE
  | le => truth (compareOperands a b).isLE
  | eq => truth (compareOperands a b).isEq
  | ne => truth (compareOperands a b).isNe
  | and => truth (holds a && holds b)
  | or => truth (holds a || holds b)

/-- The result of an operator on two values. -/
def apply (op : Operator) (left right : Value) : Value :=
  op.applyOperands left.toNumber? right.toNumber?

end Operator

end DataStep
