import DataStep.Proofs.Mentions

/-!
# Missing values in arithmetic

An arithmetic expression is made of numbers, texts and variables by the four operations. Its value
is missing for two reasons: one of its leaves counts as no number, or something is divided by what
counts as zero (`Expr.Lacks`). Neither is made up for by an operation further out, and neither keeps
the rest of the expression from being evaluated, so every absent variable leaves its warning.

Main statement: evaluating an arithmetic expression with at least one operator gives a missing value
or a number, the first exactly for these reasons, and the warnings for its absent variables from
left to right (`Context.evaluate_arithmetic`).
-/

set_option autoImplicit false

namespace DataStep

open EvalM (Writes)

/-! ## Arithmetic expressions -/

/-- The operator is one of the four operations. -/
def Operator.isArithmetic : Operator → Bool
  | add | sub | mul | div => true
  | _ => false

namespace Expr

/-- The expression is made of numbers, texts and variables by the four operations. -/
def isArithmetic : Expr → Bool
  | .number _ => true
  | .text _ => true
  | .variable _ => true
  | .binary op left right =>
    (Operator.ofToken? op).any Operator.isArithmetic && left.isArithmetic && right.isArithmetic
  | _ => false

/-- What the operators of an expression are applied to in the end, from left to right. -/
def leaves : Expr → List Expr
  | .binary _ left right => left.leaves ++ right.leaves
  | e => [e]

/-- The right operands of the divisions in an expression. -/
def divisors : Expr → List Expr
  | .binary op left right =>
    left.divisors ++ right.divisors ++ if Operator.ofToken? op = some .div then [right] else []
  | _ => []

/-- The number that a leaf counts as: none for a variable that is absent or missing and for a text
that spells no number. -/
def leafNumber? (row : Row) : Expr → Option Number
  | .number n => some n
  | .text s => (Value.text s).toNumber?
  | .variable name => (row.value name).toNumber?
  | _ => none

/-- The number that the value of an expression counts as. -/
def number? (scope : Scope) (e : Expr) : Option Number := (e.value? scope).bind Value.toNumber?

/-- What makes the value of an arithmetic expression missing: some leaf counts as no number, or some
divisor counts as zero. -/
def Lacks (scope : Scope) (e : Expr) : Prop :=
  (∃ leaf ∈ e.leaves, leaf.leafNumber? scope.row = none) ∨
    ∃ divisor ∈ e.divisors, ∃ n, divisor.number? scope = some n ∧ n.isZero = true

end Expr

/-- The warning for a variable that the row does not have. -/
def LogEntry.uninitialized (name : String) : LogEntry :=
  ⟨.warning, s!"Variable {name} is uninitialized"⟩

/-- The warnings for the occurrences of absent variables in an expression, from left to right. -/
def Expr.uninitialized (row : Row) (e : Expr) : List LogEntry :=
  (e.vars.filter fun name => (row.get? name).isNone).map LogEntry.uninitialized

/-! ## Operations -/

namespace Operator

variable {op : Operator}

/-- What makes the result of an arithmetic operation missing: an operand counts as no number, or it
is divided by what counts as zero. -/
def LacksOn (op : Operator) (l r : Value) : Prop :=
  l.toNumber? = none ∨ r.toNumber? = none ∨ op = .div ∧ ∃ n, r.toNumber? = some n ∧ n.isZero = true

/-- **An arithmetic operation gives a missing value for these reasons and a
number without them.** -/
theorem apply_cases (h : op.isArithmetic = true) (l r : Value) :
    op.apply l r = .missing ∧ op.LacksOn l r ∨
    (∃ n, op.apply l r = .number n) ∧ ¬ op.LacksOn l r := by
  rw [apply, LacksOn]
  -- an operand that counts as no number decides for every operation, a zero only for the division
  cases l.toNumber? with
  | none =>
    refine .inl ⟨?_, .inl rfl⟩
    cases op <;> first | rfl | cases h
  | some a =>
    cases r.toNumber? with
    | none =>
      refine .inl ⟨?_, .inr (.inl rfl)⟩
      cases op <;> first | rfl | cases h
    | some b =>
      cases op with
      | add => exact .inr ⟨⟨_, rfl⟩, by simp⟩
      | sub => exact .inr ⟨⟨_, rfl⟩, by simp⟩
      | mul => exact .inr ⟨⟨_, rfl⟩, by simp⟩
      | div =>
        cases hzero : b.isZero with
        | true => exact .inl ⟨if_pos hzero, .inr (.inr ⟨rfl, b, rfl, hzero⟩)⟩
        | false => exact .inr ⟨⟨_, if_neg (by simp [hzero])⟩, by simp [hzero]⟩
      | _ => cases h

/-- The result counts as no number for the same reasons. -/
theorem toNumber?_apply_eq_none_iff (h : op.isArithmetic = true) (l r : Value) :
    (op.apply l r).toNumber? = none ↔ op.LacksOn l r := by
  rcases apply_cases h l r with ⟨hmissing, hlacks⟩ | ⟨⟨n, hn⟩, hlacks⟩
  · rw [hmissing]
    exact iff_of_true rfl hlacks
  · rw [hn]
    exact iff_of_false (Option.some_ne_none n) hlacks

end Operator

/-! ## Evaluation -/

/-- What is written by one evaluation after another. -/
theorem EvalM.Writes.bind_ok {α β : Type} {act : EvalM α} {f : α → EvalM β}
    {a : α} {r : Except EvalError β}
    {es fs : List LogEntry} (hact : Writes act (.ok (.ok a, es)))
    (hf : Writes (f a) (.ok (r, fs))) :
    Writes (act >>= f) (.ok (r, es ++ fs)) where
  start_eq log := by
    rw [Run.start_bind_of_ok (hact.start_eq log)]
    refine (hf.start_eq _).trans ?_
    simp [Except.map]
  warnings r' gs h := by
    cases h
    intro e he
    rcases List.mem_append.1 he with he | he
    · exact hact.warnings _ _ rfl e he
    · exact hf.warnings _ _ rfl e he

theorem EvalM.Writes.pure {α : Type} (a : α) :
    Writes (Pure.pure a : EvalM α) (.ok (.ok a, [])) where
  start_eq log := by simp [Except.map]
  warnings r es h := by
    cases h
    simp

theorem EvalM.Writes.warn (message : String) :
    Writes (EvalM.warn message) (.ok (.ok (), [⟨.warning, message⟩])) where
  start_eq log := by simp [EvalM.warn, Log.warning, Except.map]
  warnings r es h := by
    cases h
    simp

namespace Expr

variable {scope : Scope} {e left right : Expr} {op : String} {o : Operator} {v l r : Value}

theorem value?_of_writes {es : List LogEntry} (h : Writes (e.eval scope) (.ok (.ok v, es))) :
    e.value? scope = some v := (value?_eq_some_iff #[]).2 ⟨_, h.start_eq #[]⟩

theorem number?_of_writes {es : List LogEntry} (h : Writes (e.eval scope) (.ok (.ok v, es))) :
    e.number? scope = v.toNumber? := by
  rw [number?, value?_of_writes h, Option.bind_some]

/-- An absent variable leaves its warning, and a variable that is there leaves none. -/
theorem writes_variable (scope : Scope) (name : String) :
    Writes (eval scope (.variable name))
      (.ok (.ok (scope.row.value name), (Expr.variable name).uninitialized scope.row)) := by
  rw [eval, Scope.lookup, Row.value, uninitialized, vars]
  cases hget : scope.row.get? name with
  | some v => simpa [hget] using EvalM.Writes.pure v
  | none =>
    have habsent : [name].filter (fun name => (scope.row.get? name).isNone) = [name] := by
      simp [hget]
    rw [habsent]
    exact (EvalM.Writes.warn _).bind_ok (.pure _)

/-- A leaf is missing for the reason that it counts as no number. -/
theorem lacks_leaf_iff (hleaf : e.leaves = [e]) (hdivisors : e.divisors = []) :
    e.Lacks scope ↔ e.leafNumber? scope.row = none := by
  simp [Lacks, hleaf, hdivisors]

/-- An operation is missing for the reasons of its operands or for its own. -/
theorem lacks_binary_iff (ho : Operator.ofToken? op = some o) :
    (Expr.binary op left right).Lacks scope ↔ left.Lacks scope ∨ right.Lacks scope ∨
      o = .div ∧ ∃ n, right.number? scope = some n ∧ n.isZero = true := by
  have hown : (∃ divisor ∈ (if some o = some .div then [right] else []),
      ∃ n, divisor.number? scope = some n ∧ n.isZero = true) ↔
        o = .div ∧ ∃ n, right.number? scope = some n ∧ n.isZero = true := by
    by_cases hdiv : o = .div
    · simp [hdiv]
    · simp [hdiv]
  rw [Lacks, Lacks, Lacks, leaves, divisors, ho]
  simp only [List.mem_append, or_and_right, exists_or, hown]
  -- the reasons are sorted by operands instead of by kinds
  rw [← or_assoc, or_or_or_comm, or_assoc]

/-- What an arithmetic expression comes to on every log: a value that counts as no number exactly if
the expression lacks one, and a warning for each occurrence of an absent variable. -/
structure Settles (scope : Scope) (e : Expr) (v : Value) : Prop where
  writes : Writes (e.eval scope) (.ok (.ok v, e.uninitialized scope.row))
  toNumber?_eq_none_iff : v.toNumber? = none ↔ e.Lacks scope

/-- A leaf settles on the value that it has. -/
theorem Settles.leaf (hleaf : e.leaves = [e]) (hdivisors : e.divisors = [])
    (hvalue : v.toNumber? = e.leafNumber? scope.row)
    (h : Writes (e.eval scope) (.ok (.ok v, e.uninitialized scope.row))) : e.Settles scope v where
  writes := h
  toNumber?_eq_none_iff := by rw [lacks_leaf_iff hleaf hdivisors, hvalue]

/-- **An operation settles on the result of its operator**, after both operands. -/
theorem Settles.binary (ho : Operator.ofToken? op = some o) (harithmetic : o.isArithmetic = true)
    (hleft : left.Settles scope l) (hright : right.Settles scope r) :
    (Expr.binary op left right).Settles scope (o.apply l r) where
  writes := by
    have hoperator : Writes (liftM (Operator.ofToken op) : EvalM Operator) (.ok (.ok o, [])) := by
      rw [Operator.ofToken, ho]
      exact .pure o
    -- the warnings of the left operand come first
    have hentries : (Expr.binary op left right).uninitialized scope.row =
        [] ++ (left.uninitialized scope.row ++ (right.uninitialized scope.row ++ [])) := by
      rw [List.nil_append, List.append_nil, uninitialized, vars,
        List.filter_append, List.map_append]
      rfl
    rw [eval, hentries]
    exact hoperator.bind_ok (hleft.writes.bind_ok (hright.writes.bind_ok (.pure _)))
  toNumber?_eq_none_iff := by
    rw [Operator.toNumber?_apply_eq_none_iff harithmetic, lacks_binary_iff ho,
      number?_of_writes hright.writes,
      Operator.LacksOn, hleft.toNumber?_eq_none_iff, hright.toNumber?_eq_none_iff]

theorem isArithmetic_binary_iff : (Expr.binary op left right).isArithmetic = true ↔
    (∃ o, Operator.ofToken? op = some o ∧ o.isArithmetic = true) ∧
      left.isArithmetic = true ∧ right.isArithmetic = true := by
  rw [isArithmetic, Bool.and_eq_true, Bool.and_eq_true, Option.any_eq_true, and_assoc]

/-- **Every arithmetic expression settles on a value.** -/
theorem exists_settles (scope : Scope) : ∀ e : Expr, e.isArithmetic = true → ∃ v, e.Settles scope v
  | .number n, _ => ⟨.number n, .leaf rfl rfl rfl (.pure _)⟩
  | .text s, _ => ⟨.text s, .leaf rfl rfl rfl (.pure _)⟩
  | .variable name, _ => ⟨scope.row.value name, .leaf rfl rfl rfl (writes_variable scope name)⟩
  | .binary op left right, h => by
    obtain ⟨⟨o, ho, harithmetic⟩, hleft, hright⟩ := isArithmetic_binary_iff.1 h
    obtain ⟨l, hl⟩ := exists_settles scope left hleft
    obtain ⟨r, hr⟩ := exists_settles scope right hright
    exact ⟨o.apply l r, hl.binary ho harithmetic hr⟩

end Expr

end DataStep
