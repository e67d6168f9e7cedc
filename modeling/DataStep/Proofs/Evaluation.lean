import DataStep.Eval
import DataStep.Proofs.Run

/-!
# What evaluation does to the log

Evaluating an expression adds warnings to the log and nothing else, whether it gives a value or
fails, and what it comes to does not depend on the log (`Expr.eval_written`). The proof follows the
expression: a variable that the row does not have and an argument outside the domain of a function
are the only sources of warnings. So an expression has one value on a scope
(`Expr.value?_eq_some_iff`).
-/

set_option autoImplicit false

namespace DataStep

variable {ι α : Type}

/-- The second log is the first one with entries of certain severities at its end. -/
def Log.Extends (allowed : Severity → Prop) (a b : Log) : Prop :=
  ∃ es : List LogEntry, b.toList = a.toList ++ es ∧ ∀ e ∈ es, allowed e.severity

namespace Log.Extends

variable {allowed : Severity → Prop} {a b c : Log}

theorem refl (log : Log) : Extends allowed log log := ⟨[], by simp, by simp⟩

theorem trans (hab : Extends allowed a b) (hbc : Extends allowed b c) : Extends allowed a c := by
  obtain ⟨es, hb, hes⟩ := hab
  obtain ⟨fs, hc, hfs⟩ := hbc
  refine ⟨es ++ fs, by rw [hc, hb, List.append_assoc], fun e he => ?_⟩
  rcases List.mem_append.1 he with he | he
  · exact hes e he
  · exact hfs e he

theorem push (log : Log) (entry : LogEntry) (h : allowed entry.severity) :
    Extends allowed log (Array.push log entry) :=
  ⟨[entry], by simp, by simpa using h⟩

theorem mono {other : Severity → Prop} (h : Extends allowed a b)
    (hother : ∀ severity, allowed severity → other severity) : Extends other a b := by
  obtain ⟨es, hb, hes⟩ := h
  exact ⟨es, hb, fun e he => hother _ (hes e he)⟩

end Log.Extends

/-- The second log is the first one with warnings at its end. -/
abbrev Log.Warned : Log → Log → Prop := Log.Extends (· = .warning)

/-- The second log is the first one without a note among the entries at its end. -/
abbrev Log.Unnoted : Log → Log → Prop := Log.Extends (· ≠ .note)

theorem Log.Warned.unnoted {a b : Log} (h : Warned a b) : Unnoted a b :=
  h.mono fun severity hs => by rw [hs]; exact Severity.noConfusion

/-! ## Evaluations as writers -/

/-- What an evaluation comes to on any log: it halts, or it gives a result and adds entries. -/
abbrev EvalM.Outcome (α : Type) := Except Halt (Except EvalError α × List LogEntry)

/-- An evaluation does not read the log: it comes to one outcome on all logs, and what it adds are
warnings. -/
structure EvalM.Writes (act : EvalM α) (out : EvalM.Outcome α) : Prop where
  start_eq : ∀ log, act.start log = out.map fun result => (result.1, log ++ result.2.toArray)
  warnings : ∀ r es, out = .ok (r, es) → ∀ e ∈ es, e.severity = .warning

/-- An evaluation adds nothing but warnings to the log. -/
abbrev EvalM.Warns (act : EvalM α) : Prop :=
  Run.Obeys (fun a (_ : List Empty) b => Log.Warned a b) act Run.silent

namespace EvalM.Writes

variable {act : EvalM α} {out : Outcome α}

protected theorem warns (h : Writes act out) : Warns act := by
  intro log r log' hs
  rw [h.start_eq] at hs
  cases out with
  | error halt => cases hs
  | ok result =>
    cases hs
    exact ⟨result.2, by simp, h.warnings result.1 result.2 rfl⟩

end EvalM.Writes

/-- An evaluation comes to some outcome. -/
abbrev EvalM.Written (act : EvalM α) : Prop := ∃ out, EvalM.Writes act out

namespace EvalM.Written

open EvalM (Written)

/-- What is known without the log is an outcome without entries. -/
protected theorem lift (x : Except EvalError α) : Written (liftM x : EvalM α) :=
  ⟨.ok (x, []), fun log => by simp [Except.map]; rfl, by
    intro r es h
    cases h
    simp⟩

protected theorem pure (a : α) : Written (pure a : EvalM α) := Written.lift (.ok a)

protected theorem throw (e : EvalError) : Written (throw e : EvalM α) := Written.lift (.error e)

protected theorem warn (message : String) : Written (EvalM.warn message) :=
  ⟨.ok (.ok (), [⟨.warning, message⟩]), fun log => by simp [EvalM.warn, Log.warning, Except.map], by
    intro r es h
    cases h
    simp⟩

protected theorem halt (h : Halt) : Written (Run.halt h : EvalM α) :=
  ⟨.error h, fun log => rfl, by
    intro r es h
    cases h⟩

/-- **One evaluation after another adds its entries behind those of the first one.** -/
theorem bind {β : Type} {act : EvalM α} {f : α → EvalM β} (hact : Written act)
    (hf : ∀ a, Written (f a)) : Written (act >>= f) := by
  obtain ⟨out, hstart, hwarnings⟩ := hact
  cases out with
  | error halt =>
    refine ⟨.error halt, fun log => ?_, fun r es h => nomatch h⟩
    rw [Run.start_bind, hstart]
    rfl
  | ok result =>
    obtain ⟨r, es⟩ := result
    have hes := hwarnings r es rfl
    cases r with
    | error e =>
      refine ⟨.ok (.error e, es), fun log => ?_, fun r es' h => by cases h; exact hes⟩
      rw [Run.start_bind, hstart]
      rfl
    | ok a =>
      obtain ⟨next, hnext, hmore⟩ := hf a
      refine ⟨next.map fun result => (result.1, es ++ result.2), fun log => ?_, ?_⟩
      · rw [Run.start_bind, hstart]
        change (f a).start (log ++ es.toArray) = _
        rw [hnext]
        cases next with
        | error halt => rfl
        | ok result => simp [Except.map]
      · intro r' es' h
        cases next with
        | error halt => cases h
        | ok result =>
          cases h
          intro e he
          rcases List.mem_append.1 he with he | he
          · exact hes e he
          · exact hmore result.1 result.2 rfl e he

end EvalM.Written

open EvalM (Warns Written)

/-! ## Built-in functions -/

namespace Builtin

theorem substring_written (v position : Value) (length : Option Value) :
    Written (substring v position length) := by
  apply Written.bind (.lift _)
  intro s
  cases position.toNumber? with
  | none => exact .pure _
  | some p =>
    dsimp only
    cases slice s.toList p length with
    | ok cs => exact .pure _
    | error h => exact .halt h

theorem inDomain_written (label : String) (outside : Number → Bool)
    (f : Number → Number) (v : Value) :
    Written (inDomain label outside f v) := by
  unfold inDomain
  cases v.toNumber? with
  | none => exact .pure _
  | some n =>
    dsimp only
    split
    · apply Written.bind (.warn _)
      intro _
      exact .pure _
    · exact .pure _

theorem apply_written (b : Builtin) (currentDay : Int) (args : List Value) :
    Written (b.apply currentDay args) := by
  unfold apply
  split
  all_goals first
    | exact substring_written _ _ _
    | exact inDomain_written _ _ _ _
    | exact .pure _
    | exact .throw _
    | exact .lift _

theorem call_written (currentDay : Int) (name : String) (args : List Value) :
    Written (call currentDay name args) := by
  unfold call
  cases ofName? name with
  | none => exact .throw _
  | some b => exact apply_written b currentDay args

/-- A call answers a value, whatever the day and the log, and leaves the log alone. -/
def Answers (name : String) (args : List Value) (v : Value) : Prop :=
  ∀ currentDay log, (call currentDay name args).start log = .ok (.ok v, log)

/-- A call that does not use the day or the log answers what its function gives. -/
theorem answers_iff {name : String} {args : List Value} {v : Value}
    {result : Except EvalError Value} (h : ∀ currentDay, call currentDay name args = liftM result) :
    Answers name args v ↔ result = .ok v := by
  have hstart : ∀ currentDay log, (call currentDay name args).start log = .ok (result, log) := by
    intro currentDay log
    rw [h]
    cases result <;> rfl
  constructor
  · intro hanswers
    have heq := (hstart 0 #[]).symm.trans (hanswers 0 #[])
    cases heq
    rfl
  · rintro rfl
    exact hstart

end Builtin

/-! ## Expressions -/

theorem Scope.lookup_written (scope : Scope) (name : String) : Written (scope.lookup name) := by
  unfold lookup
  cases scope.row.get? name with
  | none =>
    apply Written.bind (.warn _)
    intro _
    exact .pure _
  | some v => exact .pure v

theorem Scope.element_written (scope : Scope) (array : String) (index : Value) :
    Written (scope.element array index) := by
  unfold element
  cases scope.arrays.element array index with
  | error halt => exact .halt halt
  | ok result => exact .lift result

mutual

/-- **Evaluating an expression does not read the log and adds nothing but warnings to it.** -/
theorem Expr.eval_written (scope : Scope) : ∀ e : Expr, Written (e.eval scope)
  | .number _ => .pure _
  | .text _ => .pure _
  | .variable name => scope.lookup_written name
  | .element array index => by
    rw [Expr.eval]
    apply Written.bind (Expr.eval_written scope index)
    intro i
    apply Written.bind (scope.element_written array i)
    intro v
    exact scope.lookup_written v
  | .binary op left right => by
    rw [Expr.eval]
    apply Written.bind (.lift _)
    intro op
    apply Written.bind (Expr.eval_written scope left)
    intro l
    apply Written.bind (Expr.eval_written scope right)
    intro r
    exact .pure _
  | .call name args => by
    rw [Expr.eval]
    apply Written.bind (Expr.evalAll_written scope args)
    intro vs
    exact Builtin.call_written scope.currentDay name vs

theorem Expr.evalAll_written (scope : Scope) : ∀ es : List Expr, Written (Expr.evalAll scope es)
  | [] => .pure _
  | e :: es => by
    rw [Expr.evalAll]
    apply Written.bind (Expr.eval_written scope e)
    intro v
    apply Written.bind (Expr.evalAll_written scope es)
    intro vs
    exact .pure _

end

theorem Scope.resolve_written (scope : Scope) (array : String) (index : Expr) :
    Written (scope.resolve array index) := by
  apply Written.bind (index.eval_written scope)
  intro i
  exact scope.element_written array i

theorem Expr.eval_warns (scope : Scope) (e : Expr) : Warns (e.eval scope) := by
  obtain ⟨out, hout⟩ := e.eval_written scope
  exact hout.warns

theorem Scope.resolve_warns (scope : Scope) (array : String) (index : Expr) :
    Warns (scope.resolve array index) := by
  obtain ⟨out, hout⟩ := scope.resolve_written array index
  exact hout.warns

/-! ## Values of expressions -/

/-- The value that an expression has on a scope, if it has one. -/
def Expr.value? (scope : Scope) (e : Expr) : Option Value :=
  match (e.eval scope).start #[] with
  | .ok (.ok v, _) => some v
  | _ => none

/-- **The value of an expression is the one that its evaluation gives on any log.** -/
theorem Expr.value?_eq_some_iff {scope : Scope} {e : Expr} {v : Value} (log : Log) :
    e.value? scope = some v ↔ ∃ log', (e.eval scope).start log = .ok (.ok v, log') := by
  obtain ⟨out, hout⟩ := e.eval_written scope
  rw [Expr.value?, hout.start_eq, hout.start_eq]
  cases out with
  | error halt => simp [Except.map]
  | ok result =>
    obtain ⟨_ | _, es⟩ := result <;> simp [Except.map]

end DataStep
