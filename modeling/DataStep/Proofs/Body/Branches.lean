import DataStep.Proofs.Body.Place

/-!
# Blocks and chains of conditions

A block does what its statements do in its place (`Statement.performAll_block`), and what is left of
a chain of conditions after the first one is a chain in its ELSE part
(`Statement.perform_ifChain_cons`). A chain chooses one branch and performs it
(`Statement.performArms_eq_bind`): its conditions are evaluated one after another up to the first
that holds, and the branch of that one is chosen, or the ELSE part if none holds
(`Statement.branchOf_start_eq_ok_iff`).

Main statement: these laws together (`Statement.structural_laws`). They are equations between runs,
so they speak of errors, of ends of passes, of the state and of the log at once.
-/

set_option autoImplicit false

namespace DataStep.Statement

open Run (Trace follow silent)

variable {body otherwise : List Statement} {arms : List (Expr × List Statement)} {s v : Context}

/-! ## Blocks -/

/-- A statement alone is performed as in a list. -/
theorem performAll_singleton (passes limit : Nat) (stmt : Statement) :
    performAll passes limit [stmt] = stmt.perform passes limit := by
  rw [performAll]
  refine Eq.trans (congrArg _ (funext fun flow => ?_)) (bind_pure (stmt.perform passes limit))
  cases flow with
  | next => rw [performAll]
  | endOfPass => rfl

/-- **A block among statements is the statements in it.** -/
theorem performAll_block (passes limit : Nat) (before body after : List Statement) :
    performAll passes limit (before ++ [.block body] ++ after) =
      performAll passes limit (before ++ body ++ after) := by
  have hblock : performAll passes limit [.block body] = performAll passes limit body := by
    rw [performAll_singleton, perform]
  rw [performAll_append, performAll_append, performAll_append _ _ (before ++ body) after,
    performAll_append _ _ before body, hblock]

/-! ## Chains -/

/-- A condition with one branch is a chain without further arms. -/
theorem perform_ifThen (passes limit : Nat) (p : Expr) (t : List Statement) :
    perform passes limit (.ifThen p t) = perform passes limit (.ifChain p t [] []) := by
  rw [perform, perform, performArms, performAll]

/-- **The rest of a chain is a chain in its ELSE part.** -/
theorem perform_ifChain_cons (passes limit : Nat) (p : Expr) (t : List Statement)
    (q : Expr) (u : List Statement)
    (elseIfs : List (Expr × List Statement)) (otherwise : List Statement) :
    perform passes limit (.ifChain p t ((q, u) :: elseIfs) otherwise) =
      perform passes limit (.ifChain p t [] [.ifChain q u elseIfs otherwise]) := by
  rw [perform, perform, performArms, performArms, performAll_singleton, perform]

/-- The branch of a chain: its conditions are evaluated one after another, and the
first that holds decides. -/
def branchOf (otherwise : List Statement) : List (Expr × List Statement) → ContextM (List Statement)
  | [] => pure otherwise
  | (condition, body) :: arms => do
    if ← Context.holds condition then pure body else branchOf otherwise arms

/-- The conditions of some arms are evaluated one after another, and none of them holds. -/
inductive PassesOver : List (Expr × List Statement) → Context → Context → Prop
  | nil (s : Context) : PassesOver [] s s
  | cons {condition : Expr} {body : List Statement}
      {arms : List (Expr × List Statement)} {s t u : Context}
      (hfalse : (Context.holds condition).start s = .ok (.ok false, t))
      (hrest : PassesOver arms t u) :
      PassesOver ((condition, body) :: arms) s u

/-- **A chain chooses a branch and performs it.** -/
theorem performArms_eq_bind (passes limit : Nat) (otherwise : List Statement)
    (arms : List (Expr × List Statement)) :
    performArms passes limit (performAll passes limit otherwise) arms =
      branchOf otherwise arms >>= performAll passes limit := by
  induction arms with
  | nil => rw [performArms, branchOf, pure_bind]
  | cons arm arms ih =>
    obtain ⟨condition, body⟩ := arm
    rw [performArms, branchOf, bind_assoc, ih]
    refine congrArg _ (funext fun holds => ?_)
    cases holds with
    | true => exact (pure_bind _ _).symm
    | false => rfl

/-- What a chain executes is what the branch executes. -/
theorem momentsArms_eq_follow (passes limit : Nat) (otherwise : List Statement)
    (arms : List (Expr × List Statement)) :
    momentsArms passes limit (momentsAll passes limit otherwise) arms =
      (branchOf otherwise arms).follow (momentsAll passes limit) := by
  induction arms with
  | nil => rw [momentsArms, branchOf]; rfl
  | cons arm arms ih =>
    obtain ⟨condition, body⟩ := arm
    rw [momentsArms, branchOf, Run.follow_bind, ih]
    refine congrArg _ (funext fun holds => ?_)
    cases holds with
    | true => rfl
    | false => rfl

/-- A branch that is chosen is the one of the first condition that holds, or what
is left when none does. -/
theorem branchOf_start_eq_ok_iff : (branchOf otherwise arms).start s = .ok (.ok body, v) ↔
    (∃ before condition after w, arms = before ++ (condition, body) :: after ∧
      PassesOver before s w ∧
      (Context.holds condition).start w = .ok (.ok true, v)) ∨
      PassesOver arms s v ∧ body = otherwise := by
  constructor
  · intro h
    induction arms generalizing s with
    | nil =>
      cases h
      exact .inr ⟨.nil _, rfl⟩
    | cons arm arms ih =>
      obtain ⟨condition, branch⟩ := arm
      obtain ⟨e, -, he⟩ | ⟨holds, w, hw, hrest⟩ := Run.start_bind_eq_ok.1 h
      · cases he
      cases holds with
      | true =>
        cases hrest
        exact .inl ⟨[], condition, arms, s, rfl, .nil s, hw⟩
      | false =>
        rcases ih hrest with ⟨before, chosen, after, w', rfl, hover, hholds⟩ | ⟨hover, rfl⟩
        · exact .inl ⟨(condition, branch) :: before, chosen, after, w', rfl, .cons hw hover, hholds⟩
        · exact .inr ⟨.cons hw hover, rfl⟩
  · rintro (⟨before, condition, after, w, rfl, hover, hholds⟩ | ⟨hover, rfl⟩)
    · -- one condition after another fails, so that the rest of the arms decides
      induction hover with
      | nil s =>
        rw [List.nil_append, branchOf, Run.start_bind_of_ok hholds]
        rfl
      | cons hfalse _ ih =>
        rw [List.cons_append, branchOf, Run.start_bind_of_ok hfalse]
        exact ih hholds
    · induction hover with
      | nil s => rfl
      | cons hfalse _ ih =>
        rw [branchOf, Run.start_bind_of_ok hfalse]
        exact ih

/-! ## The laws -/

/-- **Blocks and chains of conditions.** A block is the statements in it; the rest of a chain is a
chain in its ELSE part; a condition with one branch is a chain without further arms. A chain chooses
one branch and performs it, and what it executes is what that branch executes. The branch is that of
the first condition that holds, or the ELSE part if all conditions are evaluated and none holds:
whatever stands behind the condition that holds, neither the branch nor the context in which it
begins depends on it. -/
theorem structural_laws (passes limit : Nat) :
    (∀ before body after : List Statement,
      performAll passes limit (before ++ [.block body] ++ after) =
      performAll passes limit (before ++ body ++ after)) ∧
    (∀ p t q u elseIfs otherwise,
      perform passes limit (.ifChain p t ((q, u) :: elseIfs) otherwise) =
      perform passes limit (.ifChain p t [] [.ifChain q u elseIfs otherwise])) ∧
    (∀ p t, perform passes limit (.ifThen p t) = perform passes limit (.ifChain p t [] [])) ∧
    (∀ p t elseIfs otherwise,
      perform passes limit (.ifChain p t elseIfs otherwise) =
        branchOf otherwise ((p, t) :: elseIfs) >>= performAll passes limit ∧
      moments passes limit (.ifChain p t elseIfs otherwise) =
        (branchOf otherwise ((p, t) :: elseIfs)).follow (momentsAll passes limit)) ∧
    ∀ otherwise arms s branch v, (branchOf otherwise arms).start s = .ok (.ok branch, v) ↔
      (∃ before condition after w, arms = before ++ (condition, branch) :: after ∧
        PassesOver before s w ∧
        (Context.holds condition).start w = .ok (.ok true, v)) ∨
        PassesOver arms s v ∧ branch = otherwise := by
  refine ⟨performAll_block passes limit, perform_ifChain_cons passes limit,
    perform_ifThen passes limit,
    fun p t elseIfs otherwise => ⟨?_, ?_⟩,
      fun otherwise arms s branch v => branchOf_start_eq_ok_iff⟩
  · rw [perform, ← performArms_eq_bind, performArms]
  · rw [moments, ← momentsArms_eq_follow, momentsArms]

end DataStep.Statement
