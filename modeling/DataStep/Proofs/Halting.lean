import DataStep.Proofs.Evaluation

/-!
# Where evaluation halts

An evaluation gives a value or an error, or it halts and then gives neither. The subscript of an
array and the position of a slice are compared with their bounds, and a not-a-number passes both
comparisons, though there is no element that it names. `Expr.Halts` follows an evaluation to such a
subscript or position. Main statement: an evaluation returns exactly if it reaches none
(`Expr.eval_returns_iff`). Any other subscript outside the bounds is an error, and any other
position outside them selects the empty text. Not every evaluation returns
(`Expr.not_returns_nan_subscript`).
-/

set_option autoImplicit false

namespace DataStep

variable {α β : Type}

/-! ## Subscripts and positions -/

namespace Value

/-- Whether a value counts as a not-a-number. -/
def isNaN (v : Value) : Bool := v.toNumber?.any Number.isNaN

/-- Whether a value counts as a number whose whole part lies between one and a size. -/
def isPlace (size : Nat) (v : Value) : Bool :=
  v.toNumber?.any fun n => decide (1 ≤ n.toInt ∧ n.toInt ≤ (size : Int))

end Value

/-- Whether an element is asked for that cannot be looked for. -/
def Arrays.HaltsAt (arrays : Arrays) (name : String) (index : Value) : Prop :=
  (arrays.find? name).isSome = true ∧ index.isNaN = true

/-- Whether a slice of a text is asked for at a position that is a not-a-number. -/
def Builtin.slicesAtNaN : List Value → Bool
  | [v, position] => !v.isNumber && position.isNaN
  | [v, position, _] => !v.isNumber && position.isNaN
  | _ => false

/-- Whether a call asks for a slice that cannot be looked for. -/
def Builtin.HaltsOn (name : String) (args : List Value) : Prop :=
  ofName? name = some substr ∧ slicesAtNaN args = true

mutual

/-- Whether the evaluation of an expression reaches a subscript or a position that is a
not-a-number. -/
def Expr.Halts (scope : Scope) : Expr → Prop
  | .number _ => False
  | .text _ => False
  | .variable _ => False
  | .element array index =>
    index.Halts scope ∨ ∃ v, index.value? scope = some v ∧ scope.arrays.HaltsAt array v
  | .binary op left right =>
    -- an unknown operator is an error before its operands are evaluated
    (Operator.ofToken? op).isSome = true ∧
      (left.Halts scope ∨ (left.value? scope).isSome = true ∧ right.Halts scope)
  | .call name args =>
    Expr.AnyHalts scope args ∨
      ∃ vs, args.mapM (Expr.value? scope) = some vs ∧ Builtin.HaltsOn name vs

/-- Whether one of several expressions halts, evaluated from left to right until one fails. -/
def Expr.AnyHalts (scope : Scope) : List Expr → Prop
  | [] => False
  | e :: es => e.Halts scope ∨ (e.value? scope).isSome = true ∧ Expr.AnyHalts scope es

end

/-! ## Evaluations that halt -/

namespace EvalM

/-- An evaluation gives a value or an error, on whatever log. -/
def Returns (act : EvalM α) : Prop := ∀ log, ∃ r log', act.start log = .ok (r, log')

/-- An evaluation gives a value, on whatever log. -/
def Gives (act : EvalM α) (a : α) : Prop := ∀ log, ∃ log', act.start log = .ok (.ok a, log')

/-- A condition tells, on whatever log, whether an evaluation halts at a not-a-number; it does not
halt otherwise. -/
def HaltsIff (act : EvalM α) (P : Prop) : Prop :=
  ∀ log h, act.start log = .error h ↔ h = .nanIndex ∧ P

theorem Written.gives_iff {act : EvalM α} (hact : Written act) (log : Log) {a : α} :
    Gives act a ↔ ∃ log', act.start log = .ok (.ok a, log') := by
  refine ⟨fun h => h log, ?_⟩
  obtain ⟨out, hout⟩ := hact
  rintro ⟨log', h⟩ other
  rw [hout.start_eq] at h ⊢
  cases out with
  | error halt => cases h
  | ok result =>
    obtain ⟨r, es⟩ := result
    cases h
    exact ⟨other ++ es.toArray, rfl⟩

/-- An evaluation in sequence gives what its second part gives on the value of the first one. -/
theorem gives_bind_iff {act : EvalM α} {f : α → EvalM β} (hact : Written act)
    (hf : ∀ a, Written (f a)) {b : β} : Gives (act >>= f) b ↔ ∃ a, Gives act a ∧ Gives (f a) b := by
  constructor
  · intro h
    obtain ⟨log', hstart⟩ := h #[]
    rcases Run.start_bind_eq_ok.1 hstart with ⟨e, -, he⟩ | ⟨a, log, ha, hb⟩
    · cases he
    · exact ⟨a, (hact.gives_iff #[]).2 ⟨log, ha⟩, ((hf a).gives_iff log).2 ⟨log', hb⟩⟩
  · rintro ⟨a, ha, hb⟩ log
    obtain ⟨log', hstart⟩ := ha log
    rw [Run.start_bind_of_ok hstart]
    exact hb log'

theorem gives_pure_iff {a b : α} : Gives (pure a) b ↔ a = b :=
  ⟨fun h => by obtain ⟨log', h⟩ := h #[]; cases h; rfl, fun h log => ⟨log, by rw [h]; rfl⟩⟩

theorem gives_lift_iff {x : Except EvalError α} {a : α} :
    Gives (liftM x : EvalM α) a ↔ x = .ok a := by
  rw [(Written.lift x).gives_iff #[]]
  exact ⟨fun ⟨log', h⟩ => congrArg (·.1) (Except.ok.inj h), fun h => ⟨#[], by rw [h]; rfl⟩⟩

namespace Returns

variable {act : EvalM α} {f : α → EvalM β}

protected theorem pure (a : α) : Returns (pure a : EvalM α) := fun log => ⟨.ok a, log, rfl⟩

protected theorem throw (e : EvalError) : Returns (throw e : EvalM α) :=
  fun log => ⟨.error e, log, rfl⟩

protected theorem lift (x : Except EvalError α) : Returns (liftM x : EvalM α) :=
  fun log => ⟨x, log, rfl⟩

protected theorem warn (message : String) : Returns (EvalM.warn message) :=
  fun log => ⟨.ok (), Log.warning log message, rfl⟩

theorem bind (hact : Returns act) (hf : ∀ a, Returns (f a)) : Returns (act >>= f) := by
  intro log
  rw [Run.start_bind]
  obtain ⟨e | a, log', h⟩ := hact log
  · exact ⟨.error e, log', by rw [h]⟩
  · rw [h]
    exact hf a log'

/-- An evaluation that returns does not halt. -/
theorem not_halts (h : Returns act) {log : Log} {halt : Halt} : act.start log ≠ .error halt := by
  obtain ⟨r, log', hstart⟩ := h log
  intro hhalt
  cases hstart.symm.trans hhalt

end Returns

namespace HaltsIff

variable {act : EvalM α} {f : α → EvalM β} {P : Prop} {Q : α → Prop}

theorem returns_iff (h : HaltsIff act P) : Returns act ↔ ¬ P := by
  constructor
  · intro hreturns hP
    exact hreturns.not_halts ((h #[] .nanIndex).2 ⟨rfl, hP⟩)
  · intro hP log
    cases hstart : act.start log with
    | error halt => exact absurd ((h log halt).1 hstart).2 hP
    | ok result => exact ⟨result.1, result.2, rfl⟩

theorem congr {P' : Prop} (h : HaltsIff act P) (hP : P ↔ P') : HaltsIff act P' := by
  intro log halt
  rw [h log halt, hP]

theorem of_returns (h : Returns act) : HaltsIff act False := by
  intro log halt
  exact ⟨fun hhalt => absurd hhalt h.not_halts, fun hhalt => hhalt.2.elim⟩

/-- **An evaluation in sequence halts in its first part, or in the second one on the value that the
first one gives.** -/
theorem bind (hwritten : Written act) (hact : HaltsIff act P) (hf : ∀ a, HaltsIff (f a) (Q a)) :
    HaltsIff (act >>= f) (P ∨ ∃ a, Gives act a ∧ Q a) := by
  -- the first part gives the same on every log, so the condition need not name one
  intro log halt
  rw [Run.start_bind_eq_error, hact log halt]
  constructor
  · rintro (⟨hhalt, hP⟩ | ⟨a, log', ha, hstart⟩)
    · exact ⟨hhalt, .inl hP⟩
    · obtain ⟨hhalt, hQ⟩ := (hf a log' halt).1 hstart
      exact ⟨hhalt, .inr ⟨a, (hwritten.gives_iff log).2 ⟨log', ha⟩, hQ⟩⟩
  · rintro ⟨hhalt, hP | ⟨a, ha, hQ⟩⟩
    · exact .inl ⟨hhalt, hP⟩
    · obtain ⟨log', hstart⟩ := ha log
      exact .inr ⟨a, log', hstart, (hf a log' halt).2 ⟨hhalt, hQ⟩⟩

/-- An evaluation whose second part returns halts in its first part. -/
theorem bind_returns (hact : HaltsIff act P) (hf : ∀ a, Returns (f a)) :
    HaltsIff (act >>= f) P := by
  intro log halt
  rw [Run.start_bind_eq_error, hact log halt]
  refine or_iff_left ?_
  rintro ⟨a, log', -, hstart⟩
  exact (hf a).not_halts hstart

end HaltsIff

end EvalM

open EvalM (Written Returns Gives HaltsIff)

/-! ## Elements and calls -/

theorem Scope.lookup_returns (scope : Scope) (name : String) : Returns (scope.lookup name) := by
  unfold lookup
  cases scope.row.get? name with
  | none =>
    apply Returns.bind (.warn _)
    intro _
    exact .pure _
  | some v => exact .pure v

theorem Arrays.element_eq_error_iff {arrays : Arrays} {name : String}
    {index : Value} {halt : Halt} :
    arrays.element name index = .error halt ↔ halt = .nanIndex ∧ arrays.HaltsAt name index := by
  unfold element HaltsAt Value.isNaN
  cases arrays.find? name with
  | none => simp
  | some vars =>
    cases index.toNumber? with
    | none => simp
    | some n =>
      cases hnan : n.isNaN with
      | true => simp [hnan, eq_comm]
      | false =>
        dsimp only
        rw [hnan, if_neg Bool.false_ne_true]
        split <;> simp [hnan]

/-- The element of an array is looked for unless its subscript is a not-a-number. -/
theorem Scope.element_halts (scope : Scope) (array : String) (index : Value) :
    HaltsIff (scope.element array index) (scope.arrays.HaltsAt array index) := by
  intro log halt
  rw [element, Run.start_of, ← Arrays.element_eq_error_iff]
  cases scope.arrays.element array index <;> simp [Except.map]

namespace Builtin

theorem textArgument_eq_ok_iff {b : Builtin} {v : Value} :
    (∃ s, b.textArgument v = .ok s) ↔ v.isNumber = false := by
  cases v <;> simp [textArgument, Value.isNumber]

theorem slice_eq_error_iff {cs : List Char} {position : Number}
    {length : Option Value} {halt : Halt} :
    slice cs position length = .error halt ↔ halt = .nanIndex ∧ position.isNaN = true := by
  unfold slice
  cases hnan : position.isNaN with
  | true => simp [eq_comm]
  | false =>
    rw [if_neg Bool.false_ne_true]
    dsimp only
    split <;> simp

/-- A slice of a text is taken unless its position is a not-a-number. -/
theorem substring_halts (v position : Value) (length : Option Value) :
    HaltsIff (substring v position length) ((!v.isNumber && position.isNaN) = true) := by
  refine (HaltsIff.bind (.lift _) (.of_returns (.lift _)) (Q := fun _ => position.isNaN = true)
    fun s => ?_).congr ?_
  · intro log halt
    unfold Value.isNaN
    cases position.toNumber? with
    | none => simp
    | some p =>
      dsimp only
      have hslice : slice s.toList p length = .error halt ↔ halt = .nanIndex ∧ p.isNaN = true :=
        slice_eq_error_iff
      rw [Option.any_some, ← hslice]
      cases slice s.toList p length <;> simp
  · simp only [EvalM.gives_lift_iff, exists_and_right, textArgument_eq_ok_iff,
      false_or, Bool.and_eq_true, Bool.not_eq_true']

theorem inDomain_returns (label : String) (outside : Number → Bool)
    (f : Number → Number) (v : Value) :
    Returns (inDomain label outside f v) := by
  unfold inDomain
  cases v.toNumber? with
  | none => exact .pure _
  | some n =>
    dsimp only
    split
    · apply Returns.bind (.warn _)
      intro _
      exact .pure _
    · exact .pure _

theorem apply_substr_halts (currentDay : Int) (args : List Value) :
    HaltsIff (substr.apply currentDay args) (slicesAtNaN args = true) := by
  have hthrow : ∀ e, HaltsIff (throw e : EvalM Value) (false = true) := fun e =>
    (HaltsIff.of_returns (.throw e)).congr (by simp)
  match args with
  | [] => exact hthrow _
  | [_] => exact hthrow _
  | [v, position] => exact substring_halts v position none
  | [v, position, length] => exact substring_halts v position (some length)
  | _ :: _ :: _ :: _ :: _ => exact hthrow _

theorem apply_returns {b : Builtin} (hb : b ≠ substr) (currentDay : Int) (args : List Value) :
    Returns (b.apply currentDay args) := by
  unfold apply
  split
  all_goals first
    | exact absurd rfl hb
    | exact inDomain_returns _ _ _ _
    | exact .pure _
    | exact .throw _
    | exact .lift _

/-- **Among the functions only a slice may halt.** -/
theorem call_halts (currentDay : Int) (name : String) (args : List Value) :
    HaltsIff (call currentDay name args) (HaltsOn name args) := by
  unfold call HaltsOn
  cases hname : ofName? name with
  | none => exact (HaltsIff.of_returns (.throw _)).congr (by simp)
  | some b =>
    by_cases hb : b = substr
    · subst hb
      exact (apply_substr_halts currentDay args).congr (by simp)
    · exact (HaltsIff.of_returns (apply_returns hb currentDay args)).congr (by simp [hb])

end Builtin

/-! ## Expressions -/

theorem Operator.ofToken_eq_ok_iff {token : String} {op : Operator} :
    ofToken token = .ok op ↔ ofToken? token = some op := by
  unfold ofToken
  cases ofToken? token <;> simp

theorem Expr.gives_eval_iff {scope : Scope} {e : Expr} {v : Value} :
    Gives (e.eval scope) v ↔ e.value? scope = some v := by
  rw [Expr.value?_eq_some_iff #[], (e.eval_written scope).gives_iff #[]]

theorem Expr.gives_evalAll_iff {scope : Scope} {es : List Expr} {vs : List Value} :
    Gives (Expr.evalAll scope es) vs ↔ es.mapM (Expr.value? scope) = some vs := by
  induction es generalizing vs with
  | nil =>
    rw [Expr.evalAll, EvalM.gives_pure_iff]
    simp [eq_comm]
  | cons e es ih =>
    have hrest : ∀ v,
        Written (do let vs ← Expr.evalAll scope es; pure (v :: vs) : EvalM (List Value)) :=
      fun v => (Expr.evalAll_written scope es).bind fun vs => .pure _
    rw [Expr.evalAll, EvalM.gives_bind_iff (e.eval_written scope) hrest, List.mapM_cons]
    simp only [EvalM.gives_bind_iff (Expr.evalAll_written scope es) fun vs => .pure _,
      EvalM.gives_pure_iff, Expr.gives_eval_iff, ih]
    simp [Option.bind_eq_some_iff]

mutual

/-- **An evaluation halts exactly if it reaches a subscript or a position
that is a not-a-number.** -/
theorem Expr.eval_halts (scope : Scope) : ∀ e : Expr, HaltsIff (e.eval scope) (e.Halts scope)
  | .number _ => .of_returns (.pure _)
  | .text _ => .of_returns (.pure _)
  | .variable name => .of_returns (scope.lookup_returns name)
  | .element array index => by
    rw [Expr.eval, Expr.Halts]
    refine (HaltsIff.bind (index.eval_written scope) (Expr.eval_halts scope index) fun i =>
      (scope.element_halts array i).bind_returns scope.lookup_returns).congr ?_
    simp only [Expr.gives_eval_iff]
  | .binary op left right => by
    rw [Expr.eval, Expr.Halts]
    refine (HaltsIff.bind (.lift _) (.of_returns (.lift _)) fun _ =>
      HaltsIff.bind (left.eval_written scope) (Expr.eval_halts scope left) fun _ =>
        (Expr.eval_halts scope right).bind_returns fun _ => .pure _).congr ?_
    simp only [EvalM.gives_lift_iff, Expr.gives_eval_iff, exists_and_right, false_or,
      Option.isSome_iff_exists, Operator.ofToken_eq_ok_iff]
  | .call name args => by
    rw [Expr.eval, Expr.Halts]
    refine (HaltsIff.bind (Expr.evalAll_written scope args)
      (Expr.evalAll_halts scope args) fun vs =>
      Builtin.call_halts scope.currentDay name vs).congr ?_
    simp only [Expr.gives_evalAll_iff]

theorem Expr.evalAll_halts (scope : Scope) :
    ∀ es : List Expr, HaltsIff (Expr.evalAll scope es) (Expr.AnyHalts scope es)
  | [] => .of_returns (.pure _)
  | e :: es => by
    rw [Expr.evalAll, Expr.AnyHalts]
    refine (HaltsIff.bind (e.eval_written scope) (Expr.eval_halts scope e) fun v =>
      (Expr.evalAll_halts scope es).bind_returns fun vs => .pure (v :: vs)).congr ?_
    simp only [Expr.gives_eval_iff, exists_and_right, Option.isSome_iff_exists]

end

/-! ## Outside the bounds -/

theorem Arrays.position?_eq_none {size : Nat} {n : Number}
    (h : ¬ (1 ≤ n.toInt ∧ n.toInt ≤ (size : Int))) :
    position? size n = none := by
  rw [position?, if_pos]
  simp only [Bool.or_eq_true, decide_eq_true_eq]
  omega

/-- A subscript of a declared array that is no place in it and no not-a-number is out of bounds. -/
theorem Arrays.element_of_not_isPlace {arrays : Arrays} {name : String} {vars : List String}
    {index : Value} (hfind : arrays.find? name = some vars)
    (hplace : index.isPlace vars.length = false) (hnan : index.isNaN = false) :
    arrays.element name index =
      .ok (.error (.indexOutOfBounds name (index.toNumber?.map Number.trunc) vars.length)) := by
  unfold Value.isPlace at hplace
  unfold Value.isNaN at hnan
  rw [element, hfind]
  cases hnumber : index.toNumber? with
  | none => rfl
  | some n =>
    rw [hnumber, Option.any_some] at hplace hnan
    dsimp only
    rw [hnan, if_neg Bool.false_ne_true, position?_eq_none (of_decide_eq_false hplace)]
    rfl

/-- A slice of a text at a position that is no place in it and no not-a-number is empty. -/
theorem Builtin.substring_of_not_isPlace {v position : Value} (length : Option Value) (log : Log)
    (htext : v.isNumber = false) (hplace : position.isPlace v.toText.length = false)
    (hnan : position.isNaN = false) :
    (substring v position length).start log = .ok (.ok (.text ""), log) := by
  unfold Value.isPlace at hplace
  unfold Value.isNaN at hnan
  have hargument : substr.textArgument v = .ok v.toText := by
    cases v with
    | number n => cases htext
    | text s => rfl
    | missing => rfl
  have hlift : (liftM (substr.textArgument v) : EvalM String).start log =
      .ok (.ok v.toText, log) := by
    rw [hargument]
    rfl
  rw [substring, Run.start_bind_of_ok hlift]
  cases hnumber : position.toNumber? with
  | none => rfl
  | some p =>
    rw [hnumber, Option.any_some] at hplace hnan
    have houtside := of_decide_eq_false hplace
    have hslice : slice v.toText.toList p length = .ok [] := by
      rw [slice, hnan, if_neg Bool.false_ne_true]
      dsimp only
      rw [if_pos]
      simp only [Bool.or_eq_true, decide_eq_true_eq, String.length_toList]
      omega
    dsimp only
    rw [hslice]
    rfl

/-- The search for an element fails as its subscript is out of bounds, wherever it is made. -/
theorem Scope.resolve_of_not_isPlace {scope : Scope} {array : String} {vars : List String}
    {index : Expr} {v : Value} (hfind : scope.arrays.find? array = some vars)
    (hv : index.value? scope = some v) (hplace : v.isPlace vars.length = false)
    (hnan : v.isNaN = false) (log : Log) :
    ∃ log', (scope.resolve array index).start log =
        .ok (.error (.indexOutOfBounds array (v.toNumber?.map Number.trunc) vars.length), log') ∧
      ((Expr.element array index).eval scope).start log =
        .ok (.error (.indexOutOfBounds array (v.toNumber?.map Number.trunc) vars.length),
          log') := by
  obtain ⟨log', hstart⟩ := (Expr.value?_eq_some_iff log).1 hv
  have helement : (scope.element array v).start log' =
      .ok (.error (.indexOutOfBounds array (v.toNumber?.map Number.trunc) vars.length), log') := by
    rw [element, Run.start_of, Arrays.element_of_not_isPlace hfind hplace hnan]
    rfl
  refine ⟨log', ?_, ?_⟩
  · rw [resolve, Run.start_bind_of_ok hstart, helement]
  · rw [Expr.eval, Run.start_bind_of_ok hstart, Run.start_bind_of_error helement]

/-! ## Evaluations that return -/

/-- **An evaluation, the search for an element and a call return exactly if they reach no subscript
and no position that is a not-a-number.** Any other subscript that is no place in its array is out
of bounds, and a slice at any other position that is no place in its text is empty. -/
theorem Expr.eval_returns_iff (scope : Scope) :
    (∀ e, Returns (Expr.eval scope e) ↔ ¬ e.Halts scope) ∧
    (∀ array index, Returns (scope.resolve array index) ↔
      ¬ (index.Halts scope ∨ ∃ v, index.value? scope = some v ∧ scope.arrays.HaltsAt array v)) ∧
    (∀ name args, Returns (Builtin.call scope.currentDay name args) ↔ ¬ Builtin.HaltsOn name args) ∧
    (∀ array vars index v, scope.arrays.find? array = some vars → index.value? scope = some v →
      v.isPlace vars.length = false → v.isNaN = false → ∀ log, ∃ log',
        (scope.resolve array index).start log = .ok (.error
          (.indexOutOfBounds array (v.toNumber?.map Number.trunc) vars.length), log') ∧
        ((Expr.element array index).eval scope).start log = .ok (.error
          (.indexOutOfBounds array (v.toNumber?.map Number.trunc) vars.length), log')) ∧
    (∀ name v position rest, Builtin.ofName? name = some .substr → v.isNumber = false →
      position.isPlace v.toText.length = false → position.isNaN = false → rest.length ≤ 1 → ∀ log,
        (Builtin.call scope.currentDay name (v :: position :: rest)).start log =
          .ok (.ok (.text ""), log)) := by
  refine ⟨fun e => (e.eval_halts scope).returns_iff, fun array index => ?_,
    fun name args => (Builtin.call_halts scope.currentDay name args).returns_iff,
    fun array vars index v => Scope.resolve_of_not_isPlace, ?_⟩
  · refine ((HaltsIff.bind (index.eval_written scope) (index.eval_halts scope) fun i =>
      scope.element_halts array i).congr ?_).returns_iff
    simp only [Expr.gives_eval_iff]
  · intro name v position rest hname htext hplace hnan hrest log
    rw [Builtin.call, hname]
    match rest, hrest with
    | [], _ => exact Builtin.substring_of_not_isPlace none log htext hplace hnan
    | [length], _ => exact Builtin.substring_of_not_isPlace (some length) log htext hplace hnan

/-- A scope without columns that declares an array of one variable. -/
def Scope.oneElement : Scope := ⟨.empty, Arrays.declare .empty "a" ["x"], 0⟩

/-- Control: the subscript `nan` of an array of one variable passes the bounds, and the evaluation
halts. -/
theorem Expr.not_returns_nan_subscript :
    ¬ Returns ((Expr.element "a" (.text "nan")).eval .oneElement) := by
  intro h
  have hhalts : ((Expr.element "a" (.text "nan")).eval .oneElement).start #[] = .error .nanIndex :=
    rfl
  exact h.not_halts hhalts

end DataStep
