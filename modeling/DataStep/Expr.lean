import DataStep.Number.Basic

/-!
# Expressions

The expressions of assignments, conditions and WHERE clauses. An operator stands as the token that
was written; whether it names an operator is found out when the expression is evaluated.
-/

set_option autoImplicit false

namespace DataStep

/-- An expression. -/
inductive Expr where
  | number (n : Number)
  | text (s : String)
  | variable (name : String)
  | call (name : String) (args : List Expr)
  /-- An element of an array, by its subscript. -/
  | element (array : String) (index : Expr)
  | binary (op : String) (left right : Expr)

instance : Inhabited Expr := ⟨.text ""⟩

end DataStep
