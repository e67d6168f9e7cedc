import DataStep.Proofs.Body.Agreement

/-!
# What an expression mentions

The variables and the arrays that occur in an expression, in the order of their occurrence, and the
variables behind those arrays. Nothing else that evaluation works on is read: two scopes that agree
on them evaluate the expression in the same way (`Scope.Agrees.eval_eq`), whatever else the rows
and the declarations are.

Main statement: on two contexts of this kind, evaluation gives the same value or the same error, or
does not return on either, it adds the same entries to the two logs, and it changes nothing else
(`Context.evaluate_of_agrees`).
-/

set_option autoImplicit false

namespace DataStep

/-! ## Occurrences -/

mutual

/-- The variables that occur in an expression, from left to right, once for each occurrence. -/
def Expr.vars : Expr → List String
  | .number _ => []
  | .text _ => []
  | .variable name => [name]
  | .element _ index => index.vars
  | .binary _ left right => left.vars ++ right.vars
  | .call _ args => Expr.allVars args

/-- The variables that occur in expressions, from left to right. -/
def Expr.allVars : List Expr → List String
  | [] => []
  | e :: es => e.vars ++ Expr.allVars es

end

mutual

/-- The arrays that occur in an expression, by the names as they are written. -/
def Expr.arrays : Expr → List String
  | .number _ => []
  | .text _ => []
  | .variable _ => []
  | .element array index => array :: index.arrays
  | .binary _ left right => left.arrays ++ right.arrays
  | .call _ args => Expr.allArrays args

/-- The arrays that occur in expressions. -/
def Expr.allArrays : List Expr → List String
  | [] => []
  | e :: es => e.arrays ++ Expr.allArrays es

end

/-- An element of an array is one of its declared variables. -/
theorem Arrays.mem_of_element {arrays : Arrays} {name v : String}
    {index : Value} {vars : List String}
    (hfind : arrays.find? name = some vars)
    (h : arrays.element name index = .ok (.ok v)) : v ∈ vars := by
  rw [element, hfind] at h
  dsimp only at h
  split at h
  · cases h
  · rename_i n hn
    split at h
    · cases h
    · split at h
      · rename_i u hplace
        cases h
        obtain ⟨i, -, hi⟩ := Option.bind_eq_some_iff.1 hplace
        exact List.mem_of_getElem? hi
      · cases h

/-! ## Agreement -/

namespace Scope

/-- Two scopes agree on variables and on arrays: both rows have a variable with the same value or
neither has it, both declare an array in the same way or neither does, and the rows agree on the
variables behind the arrays. The names of arrays are the same in letters of either case. -/
structure Agrees (names arrays : List String) (s t : Scope) : Prop where
  variable_eq : ∀ name ∈ names, s.row.get? name = t.row.get? name
  array_eq : ∀ array ∈ arrays, s.arrays.find? array = t.arrays.find? array
  backing_eq : ∀ array ∈ arrays, ∀ vars, s.arrays.find? array = some vars →
    ∀ name ∈ vars, s.row.get? name = t.row.get? name

theorem lookup_congr {s t : Scope} {name : String} (h : s.row.get? name = t.row.get? name) :
    s.lookup name = t.lookup name := by
  rw [lookup, lookup, h]

namespace Agrees

variable {names arrays : List String} {s t : Scope}

/-- What agrees on more agrees on less. -/
theorem mono {names' arrays' : List String} (h : Agrees names' arrays' s t)
    (hnames : ∀ name ∈ names, name ∈ names') (harrays : ∀ array ∈ arrays, array ∈ arrays') :
    Agrees names arrays s t where
  variable_eq name hname := h.variable_eq name (hnames name hname)
  array_eq array harray := h.array_eq array (harrays array harray)
  backing_eq array harray := h.backing_eq array (harrays array harray)

theorem left {names' arrays' : List String}
    (h : Agrees (names ++ names') (arrays ++ arrays') s t) : Agrees names arrays s t :=
  h.mono (fun _ => List.mem_append_left _) (fun _ => List.mem_append_left _)

theorem right {names' arrays' : List String}
    (h : Agrees (names' ++ names) (arrays' ++ arrays) s t) : Agrees names arrays s t :=
  h.mono (fun _ => List.mem_append_right _) (fun _ => List.mem_append_right _)

/-- **An element of an array is read in the same way**, since its subscript selects one of the
variables on which the rows agree. -/
theorem element_eq {array : String} (h : Agrees names arrays s t)
    (harray : array ∈ arrays) (index : Value) :
    (s.element array index >>= s.lookup) = (t.element array index >>= t.lookup) := by
  have hsame : s.arrays.element array index = t.arrays.element array index := by
    rw [Arrays.element, Arrays.element, h.array_eq array harray]
  rw [element, element, ← hsame]
  cases helement : s.arrays.element array index with
  | error halt => rfl
  | ok result =>
    cases result with
    | error e => rfl
    | ok v =>
      change s.lookup v = t.lookup v
      cases hfind : s.arrays.find? array with
      | none =>
        rw [Arrays.element, hfind] at helement
        cases helement
      | some vars =>
        have hmem := Arrays.mem_of_element hfind helement
        exact lookup_congr (h.backing_eq array harray vars hfind v hmem)

end Agrees

end Scope

mutual

/-- **An expression is evaluated in the same way on scopes that agree on what it mentions.** -/
theorem Scope.Agrees.eval_eq {s t : Scope} : ∀ e : Expr, s.Agrees e.vars e.arrays t →
    e.usesToday = false → e.eval s = e.eval t
  | .number _, _, _ => rfl
  | .text _, _, _ => rfl
  | .variable name, h, _ => Scope.lookup_congr (h.variable_eq name (List.mem_singleton_self name))
  | .element array index, h, htoday => by
    rw [Expr.usesToday] at htoday
    have hindex : s.Agrees index.vars index.arrays t :=
      h.mono (fun _ => id) (fun _ => List.mem_cons_of_mem array)
    rw [Expr.eval, Expr.eval, Scope.Agrees.eval_eq index hindex htoday]
    -- whatever the subscript is, it selects the same element
    exact congrArg _ (funext fun i => h.element_eq List.mem_cons_self i)
  | .binary op left right, h, htoday => by
    rw [Expr.usesToday, Bool.or_eq_false_iff] at htoday
    rw [Expr.vars, Expr.arrays] at h
    rw [Expr.eval, Expr.eval, Scope.Agrees.eval_eq left h.left htoday.1,
      Scope.Agrees.eval_eq right h.right htoday.2]
  | .call name args, h, htoday => by
    rw [Expr.usesToday, Bool.or_eq_false_iff] at htoday
    rw [Expr.vars, Expr.arrays] at h
    rw [Expr.eval, Expr.eval, Scope.Agrees.evalAll_eq args h htoday.2]
    exact congrArg _ (funext fun vs => Builtin.call_currentDay htoday.1 vs _ _)

theorem Scope.Agrees.evalAll_eq {s t : Scope} :
    ∀ es : List Expr, s.Agrees (Expr.allVars es) (Expr.allArrays es) t →
      Expr.anyUsesToday es = false → Expr.evalAll s es = Expr.evalAll t es
  | [], _, _ => rfl
  | e :: es, h, htoday => by
    rw [Expr.anyUsesToday, Bool.or_eq_false_iff] at htoday
    rw [Expr.allVars, Expr.allArrays] at h
    rw [Expr.evalAll, Expr.evalAll, Scope.Agrees.eval_eq e h.left htoday.1,
      Scope.Agrees.evalAll_eq es h.right htoday.2]

end

/-! ## Contexts -/

namespace Context

variable {c d : Context} {e : Expr}

/-- What an evaluation comes to on a context: nothing changes but the log. -/
def afterEvaluation (c : Context) (out : EvalM.Outcome Value) :
    Except Halt (Except RunError Value × Context) :=
  out.map fun result => (result.1.mapError RunError.eval,
    { c with log := c.log ++ result.2.toArray })

theorem evaluate_start_eq {out : EvalM.Outcome Value} (h : EvalM.Writes (e.eval c.scope) out) :
    (evaluate e).start c = c.afterEvaluation out := by
  rw [evaluate, evaluation, Run.start_of, Run.start_within, h.start_eq, afterEvaluation]
  cases out <;> rfl

/-- **Evaluation depends only on what the expression mentions.** -/
theorem evaluate_of_agrees (hagrees : c.scope.Agrees e.vars e.arrays d.scope)
    (htoday : e.usesToday = false) :
    ∃ out, (evaluate e).start c = c.afterEvaluation out ∧
      (evaluate e).start d = d.afterEvaluation out := by
  obtain ⟨out, hout⟩ := e.eval_written c.scope
  refine ⟨out, evaluate_start_eq hout, evaluate_start_eq ?_⟩
  rw [← Scope.Agrees.eval_eq e hagrees htoday]
  exact hout

/-- Control: an element of an array on two days, with a variable of which the expression knows
nothing on one of them. -/
theorem evaluate_of_agrees_other_variable : ∃ c d : Context,
    c.row.get? "z" ≠ d.row.get? "z" ∧ c.currentDay ≠ d.currentDay ∧
      ∃ out, (evaluate (.element "A" (.variable "i"))).start c = c.afterEvaluation out ∧
        (evaluate (.element "A" (.variable "i"))).start d = d.afterEvaluation out := by
  let row : Row := OrderedMap.empty.insert "i" (.number (.ofInt 1))
  let arrays : Arrays := Arrays.declare .empty "a" ["x"]
  have hfind : arrays.find? "A" = some ["x"] := by decide +kernel
  let c : Context := { Context.initial 0 with row := row, arrays := arrays }
  let d : Context := { Context.initial 1 with row := row.insert "z" .missing, arrays := arrays }
  have hrow : ∀ name, name ≠ "z" → c.row.get? name = d.row.get? name := by
    intro name hname
    exact ((row.get?_insert "z" name .missing).trans (if_neg hname.symm)).symm
  refine ⟨c, d, by decide, by decide, evaluate_of_agrees ?_ rfl⟩
  constructor
  · intro name hname
    exact hrow name (by rintro rfl; revert hname; decide)
  · exact fun _ _ => rfl
  · intro array harray vars hvars name hname
    rw [Expr.arrays, Expr.arrays, List.mem_singleton] at harray
    subst harray
    have heq : some vars = some ["x"] := hvars.symm.trans hfind
    cases heq
    exact hrow name (by rintro rfl; revert hname; decide)

end Context

end DataStep
