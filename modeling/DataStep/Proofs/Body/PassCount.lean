import DataStep.Proofs.Body.CountedLoop
import DataStep.Proofs.Moments
import DataStep.Proofs.Number.Integer

/-!
# The passes of a counted loop over integers

A counted loop evaluates its start, its end and its increment once each (`evaluateBounds`); from
there on it is the loop over the three numbers (`countedDo_start_of_bounds`). `passCount` is the
number of integers from the start to the end in steps of the increment, and `Statement.passesBegun`
tells the contexts in which the passes begin.

Main statement: a loop over integers up to `2 ^ 52`, whose body always completes and leaves the
counter alone, makes as many passes as there are such integers, sees one of them after the other,
and ends with the next one (`Statement.countedDo_counts`). No sum on the way is greater than
`2 ^ 53`, so none of them is rounded.
-/

set_option autoImplicit false

namespace DataStep

open Run (Trace follow repeated silent)

/-! ## Counting by steps -/

section Steps

variable {step last first i : Int} {k : Nat}

/-- An integer has not passed the last one in the direction of the steps. -/
def Within (step last i : Int) : Prop := if 0 < step then i ≤ last else last ≤ i

instance (step last i : Int) : Decidable (Within step last i) :=
  inferInstanceAs (Decidable (if 0 < step then i ≤ last else last ≤ i))

/-- How many integers there are from the first one to the last one in equal steps: none if the first
one is already beyond the last one. -/
def passCount (first last step : Int) : Nat :=
  if Within step last first then (⌊((last - first : Int) : ℚ) / step⌋ + 1).toNat else 0

theorem within_of_pos (hstep : 0 < step) : Within step last i ↔ i ≤ last := by
  rw [Within, if_pos hstep]

theorem within_of_neg (hstep : step < 0) : Within step last i ↔ last ≤ i := by
  rw [Within, if_neg hstep.not_gt]

theorem add_succ_mul (first step : Int) (k : Nat) :
    first + ((k + 1 : Nat) : Int) * step = first + k * step + step := by
  push_cast
  ring

/-- Going on by steps does not come back into the range. -/
theorem Within.of_add (hstep : step ≠ 0) (h : Within step last (first + k * step)) :
    Within step last first := by
  have hk : (0 : Int) ≤ k := Int.natCast_nonneg k
  rcases hstep.lt_or_gt with hneg | hpos
  · rw [within_of_neg hneg] at h ⊢
    exact h.trans (add_le_of_nonpos_right (mul_nonpos_of_nonneg_of_nonpos hk hneg.le))
  · rw [within_of_pos hpos] at h ⊢
    exact (le_add_of_nonneg_right (mul_nonneg hk hpos.le)).trans h

/-- **The integers in range are those counted.** -/
theorem lt_passCount_iff (hstep : step ≠ 0) :
    k < passCount first last step ↔ Within step last (first + k * step) := by
  by_cases hfirst : Within step last first
  · have hfloor : k < passCount first last step ↔
        ((k : Int) : ℚ) ≤ ((last - first : Int) : ℚ) / step := by
      rw [passCount, if_pos hfirst, ← Int.le_floor]
      omega
    rw [hfloor]
    -- multiplied by the step, which turns the inequality round if it is negative
    rcases hstep.lt_or_gt with hneg | hpos
    · rw [within_of_neg hneg,
        le_div_iff_of_neg (by exact_mod_cast hneg), ← Int.cast_mul, Int.cast_le]
      omega
    · rw [within_of_pos hpos, le_div_iff₀ (by exact_mod_cast hpos), ← Int.cast_mul, Int.cast_le]
      omega
  · rw [passCount, if_neg hfirst]
    exact iff_of_false (Nat.not_lt_zero k) fun h => hfirst (h.of_add hstep)

/-- What is in range lies between the first integer and the last one. -/
theorem natAbs_le_of_within {bound : Nat} (hstep : step ≠ 0) (hfirst : first.natAbs ≤ bound)
    (hlast : last.natAbs ≤ bound) (h : Within step last (first + k * step)) :
    (first + k * step).natAbs ≤ bound := by
  have hk : (0 : Int) ≤ k := Int.natCast_nonneg k
  rcases hstep.lt_or_gt with hneg | hpos
  · rw [within_of_neg hneg] at h
    have hdown := mul_nonpos_of_nonneg_of_nonpos hk hneg.le
    omega
  · rw [within_of_pos hpos] at h
    have hup := mul_nonneg hk hpos.le
    omega

/-- Up to one step beyond the range no integer is greater than the bounds together. -/
theorem natAbs_le_of_le_passCount {bound : Nat} (hstep : step ≠ 0) (hfirst : first.natAbs ≤ bound)
    (hlast : last.natAbs ≤ bound) (hbound : step.natAbs ≤ bound)
    (hk : k ≤ passCount first last step) :
    (first + k * step).natAbs ≤ 2 * bound := by
  cases k with
  | zero =>
    rw [Nat.cast_zero, zero_mul, add_zero]
    omega
  | succ k =>
    -- the integer before it is still in range, and one step leads from there
    have hbefore := natAbs_le_of_within hstep hfirst hlast ((lt_passCount_iff hstep).1 hk)
    rw [add_succ_mul]
    omega

end Steps

/-! ## Counters over integers -/

namespace Number

variable {first last step x : Number} {a b c i : Int} {k : Nat}

theorem IsInt.inRange_iff (hstep : step.IsInt c) (hlast : last.IsInt b) (hx : x.IsInt i) :
    inRange step x last = true ↔ Within c b i := by
  rw [inRange, Within]
  split
  · rename_i hpos
    rw [if_pos (hstep.below_zero_iff.1 hpos), hx.atMost_iff hlast]
  · rename_i hpos
    rw [if_neg fun h => hpos (hstep.below_zero_iff.2 h), hlast.atMost_iff hx]

/-- Increments are not rounded as long as they lead to integers up to `2 ^ 53`. -/
theorem IsInt.advanced (hfirst : first.IsInt a) (hstep : step.IsInt c)
    (h : ∀ j ≤ k, (a + j * c).natAbs ≤ 2 ^ 53) : (advanced step first k).IsInt (a + k * c) := by
  induction k with
  | zero =>
    rw [advanced_zero, Nat.cast_zero, zero_mul, add_zero]
    exact hfirst
  | succ k ih =>
    have hbound := h (k + 1) (Nat.le_refl _)
    rw [add_succ_mul] at hbound ⊢
    rw [advanced_succ]
    exact (ih fun j hj => h j (Nat.le_succ_of_le hj)).add hstep hbound

end Number

/-! ## Bounds -/

/-- Evaluates start, end and increment of a counted loop, each once and in this order; the increment
is one unless it is given. -/
def evaluateBounds (start stop : Expr) (increment : Option Expr) :
    ContextM (Option Number × Option Number × Option Number) := do
  let first ← Context.evaluate start
  let last ← Context.evaluate stop
  let step ← match increment with
    | some e => Context.evaluate e
    | none => pure (.number (.ofNat 1))
  pure (first.toNumber?, last.toNumber?, step.toNumber?)

section Bounds

variable {start stop : Expr} {increment : Option Expr} {s u : Context} {first last step : Number}

/-- A loop begins with the numbers that its bounds come to. -/
theorem startCounted_start_of_bounds
    (h : (evaluateBounds start stop increment).start s =
      .ok (.ok (some first, some last, some step), u))
    (hstep : step.isZero = false) (counter : String) :
    (startCounted counter start stop increment).start s =
      .ok (.ok (some last, step), u.mapRow fun row => row.insert counter (.number first)) := by
  -- the loop evaluates the same expressions in the same order, so it finds the same results
  rw [evaluateBounds] at h
  obtain ⟨e, -, he⟩ | ⟨v, s₁, hv, hlater⟩ := Run.start_bind_eq_ok.1 h
  · cases he
  obtain ⟨e, -, he⟩ | ⟨w, s₂, hw, hrest⟩ := Run.start_bind_eq_ok.1 hlater
  · cases he
  rw [startCounted, Run.start_bind_of_ok hv, Run.start_bind_of_ok hw]
  cases increment with
  | none =>
    simp only [pure_bind, Run.start_pure, Except.ok.injEq, Prod.mk.injEq] at hrest
    obtain ⟨⟨hfirst, hlast, hone⟩, rfl⟩ := hrest
    cases hone
    dsimp only
    rw [pure_bind, hstep, Value.toNumeric, hfirst, hlast]
    rfl
  | some e =>
    obtain ⟨e', -, he⟩ | ⟨q, s₃, hq, hend⟩ := Run.start_bind_eq_ok.1 hrest
    · cases he
    simp only [Run.start_pure, Except.ok.injEq, Prod.mk.injEq] at hend
    obtain ⟨⟨hfirst, hlast, hgiven⟩, rfl⟩ := hend
    dsimp only
    rw [Run.start_bind_of_ok hq, pure_bind, hgiven, Option.getD_some, hstep,
      Value.toNumeric, hfirst, hlast]
    rfl

/-- Numbers as bounds come to themselves. -/
theorem evaluateBounds_numbers (first last step : Number) (s : Context) :
    (evaluateBounds (.number first) (.number last) (some (.number step))).start s =
      .ok (.ok (some first, some last, some step), s) := rfl

/-- **The bounds of a loop are evaluated once**: after that it is the loop over the
numbers that they came to. -/
theorem Statement.countedDo_start_of_bounds
    (h : (evaluateBounds start stop increment).start s =
      .ok (.ok (some first, some last, some step), u))
    (hstep : step.isZero = false) (passes limit : Nat) (counter : String) (body : List Statement) :
    (perform passes limit (.countedDo counter start stop increment body)).start s =
      (perform passes limit
        (.countedDo counter (.number first) (.number last) (some (.number step)) body)).start
          u := by
  rw [perform, perform, countedLoop, countedLoop,
    Run.start_bind_of_ok (startCounted_start_of_bounds h hstep counter),
    Run.start_bind_of_ok
      (startCounted_start_of_bounds (evaluateBounds_numbers first last step u) hstep counter)]

end Bounds

/-! ## The contexts in which passes begin -/

namespace Run

variable {ε σ ι κ α : Type}

/-- What is told in more detail of a repetition is told so of each of its rounds. -/
theorem repeated_flatMap (step : Run ε σ (Option α)) (trace : Trace σ ι)
    (f : ι → List κ) (n : Nat) (s : σ) :
    repeated step (fun t => (trace t).flatMap f) n s = (repeated step trace n s).flatMap f := by
  induction n generalizing s with
  | zero => rfl
  | succ n ih =>
    change (trace s).flatMap f ++ step.follow _ s = (trace s ++ step.follow _ s).flatMap f
    rw [List.flatMap_append]
    refine congrArg ((trace s).flatMap f ++ ·) ?_
    unfold follow
    split
    · rename_i again t ht
      cases again with
      | some _ => rfl
      | none => exact ih t
    · rfl

end Run

/-- The contexts in which the passes of a counted loop begin, in order. -/
def Statement.passesBegun (passes limit : Nat) (counter : String) (start stop : Expr)
    (increment : Option Expr) (body : List Statement) : Trace Context Context :=
  (startCounted counter start stop increment).follow fun
    | (none, _) => silent
    | (some last, step) =>
      repeated (countedPass counter last step (Statement.performAll passes limit body))
        (countedTrace counter last step fun ctx => [ctx]) passes

theorem countedTrace_flatMap {ι : Type} (counter : String)
    (last step : Number) (body : Trace Context ι) (ctx : Context) :
    (countedTrace counter last step (fun ctx => [ctx]) ctx).flatMap body =
      countedTrace counter last step body ctx := by
  by_cases h : CounterInRange counter last step ctx
  · rw [countedTrace_of_inRange h, countedTrace_of_inRange h, List.flatMap_singleton]
  · rw [countedTrace_of_not_inRange h, countedTrace_of_not_inRange h, List.flatMap_nil]

/-- **What a counted loop executes is what its body executes in the passes.** -/
theorem Statement.moments_countedDo (passes limit : Nat) (counter : String) (start stop : Expr)
    (increment : Option Expr) (body : List Statement) (ctx : Context) :
    (Statement.countedDo counter start stop increment body).moments passes limit ctx =
      (passesBegun passes limit counter start stop increment body ctx).flatMap
        (momentsAll passes limit body) := by
  rw [moments, passesBegun]
  unfold follow
  split
  · rename_i bounds t ht
    obtain ⟨_ | last, step⟩ := bounds
    · rfl
    · dsimp only
      rw [← Run.repeated_flatMap]
      exact congrArg (fun trace => repeated _ trace passes t)
        (funext fun ctx => (countedTrace_flatMap counter last step _ ctx).symm)
  · rfl

/-! ## Loops over integers -/

namespace CountedLoop

variable {loop : CountedLoop} {start stop : Expr} {increment : Option Expr}
    {s t u : Context} {first x : Number}
  {a b c i : Int} {k : Nat}

/-- A body completes in one way. -/
theorem Completes.unique (ht : loop.Completes s t) (hu : loop.Completes s u) : t = u := by
  obtain ⟨passes, hstart⟩ := ht
  rcases hu.start_eq passes with hout | hcompletes
  · rw [hstart] at hout
    cases hout
  · rw [hstart] at hcompletes
    cases hcompletes
    rfl

/-- The counter is a number. -/
def Shows (loop : CountedLoop) (s : Context) (x : Number) : Prop :=
  Row.value s.row loop.counter = .number x

theorem Shows.at (h : loop.Shows s x) : loop.At s x := congrArg Value.toNumber? h

/-- The context with the counter set to a number. -/
def set (loop : CountedLoop) (x : Number) : Context → Context :=
  Context.mapRow fun row => row.insert loop.counter (.number x)

theorem shows_set (loop : CountedLoop) (x : Number) (s : Context) :
    loop.Shows (loop.set x s) x := by
  change Row.value (s.row.insert loop.counter (.number x)) loop.counter = _
  rw [Row.value, OrderedMap.get?_insert, if_pos rfl]
  rfl

theorem Shows.advance (h : loop.Shows s x)
    (hkeeps : t.row.get? loop.counter = s.row.get? loop.counter) :
    loop.Shows (loop.advance t) (x.add loop.increment) := by
  have hsame : Row.value t.row loop.counter = .number x := by
    rw [Row.value, hkeeps]
    exact h
  change Row.value (t.row.insert loop.counter _) loop.counter = _
  rw [hsame, Row.value, OrderedMap.get?_insert, if_pos rfl]
  rfl

/-- **A steady loop shows one number after the other.** -/
theorem Reaches.shows (h : loop.Reaches k s t) (hsteady : loop.Steady s) (hshows : loop.Shows s x) :
    loop.Shows t (Number.advanced loop.increment x k) := by
  induction h generalizing x with
  | start s => exact hshows
  | pass hrange hbody hrest ih =>
    -- the body completes with the counter as it was, and it completes in one way only
    obtain ⟨t', hbody', hkeeps⟩ := hsteady 0 _ (.start _) hrange
    cases hbody.unique hbody'
    exact ih (hsteady.advance hrange hbody) (hshows.advance hkeeps)

/-- What is told of the passes that have been made comes before what is told of the others. -/
theorem Reaches.exists_begun (h : loop.Reaches k s u) : ∃ begun : List Context, begun.length = k ∧
    (∀ j ctx, begun[j]? = some ctx → loop.Reaches j s ctx) ∧
    ∃ enough, ∀ passes, enough ≤ passes → ∀ n,
      repeated (loop.pass passes)
        (countedTrace loop.counter loop.last loop.increment fun ctx => [ctx]) (k + n) s =
        begun ++ repeated (loop.pass passes)
          (countedTrace loop.counter loop.last loop.increment fun ctx => [ctx]) n u := by
  induction h with
  | start s =>
    refine ⟨[], rfl, fun j ctx hj => ?_, 0, fun passes _ n => ?_⟩
    · cases hj
    · rw [Nat.zero_add, List.nil_append]
  | @pass k s t u hrange hbody _ ih =>
    obtain ⟨begun, hlength, hreaches, enough, htold⟩ := ih
    obtain ⟨needed, hneeded⟩ := hbody
    refine ⟨s :: begun, congrArg Nat.succ hlength, fun j ctx hj => ?_,
      max enough needed, fun passes hle n => ?_⟩
    · cases j with
      | zero =>
        cases hj
        exact .start s
      | succ j => exact .pass hrange ⟨needed, hneeded⟩ (hreaches j ctx hj)
    · -- from the limit on under which the body completed, it completes under every limit
      have happroaches :=
        Statement.performAll_approaches loop.limit
          ((le_max_right enough needed).trans hle) loop.body
      have hpass := pass_start_of_completes hrange (happroaches.start_eq_of_ok hneeded)
      rw [Nat.add_right_comm,
        List.cons_append, ← htold passes ((le_max_left enough needed).trans hle) n]
      change countedTrace _ _ _ _ s ++ (loop.pass passes).follow _ s = _
      rw [countedTrace_of_inRange hrange, Run.follow_of_ok hpass]
      rfl

/-- Out of range nothing is left to tell. -/
theorem repeated_of_not_inRange {ι : Type} (hover : ¬ loop.InRange s)
    (trace : Trace Context ι) (passes n : Nat) :
    repeated (loop.pass passes)
      (countedTrace loop.counter loop.last loop.increment trace) n s = [] := by
  cases n with
  | zero => rfl
  | succ n =>
    change countedTrace _ _ _ _ s ++ (loop.pass passes).follow _ s = _
    rw [countedTrace_of_not_inRange hover, pass,
      Run.follow_of_ok (countedPass_start_of_not_inRange hover _)]
    rfl

/-- A statement begins the loop over integers up to `2 ^ 52`: its bounds, each evaluated once, come
to the start and to the end and the increment of the loop. -/
structure Counts (loop : CountedLoop) (start stop : Expr) (increment : Option Expr) (s u : Context)
    (first : Number) (a b c : Int) : Prop where
  evaluated : (evaluateBounds start stop increment).start s =
    .ok (.ok (some first, some loop.last, some loop.increment), u)
  first_value : first.IsInt a
  last_value : loop.last.IsInt b
  increment_value : loop.increment.IsInt c
  increment_ne_zero : c ≠ 0
  first_le : a.natAbs ≤ 2 ^ 52
  last_le : b.natAbs ≤ 2 ^ 52
  increment_le : c.natAbs ≤ 2 ^ 52

namespace Counts

variable (h : loop.Counts start stop increment s u first a b c)

include h

theorem increment_isZero : loop.increment.isZero = false := by
  rw [← Bool.not_eq_true, h.increment_value.isZero_iff]
  exact h.increment_ne_zero

/-- The numbers that the counter comes to, up to the first one out of range. -/
theorem advanced_isInt (hk : k ≤ passCount a b c) :
    (Number.advanced loop.increment first k).IsInt (a + k * c) :=
  h.first_value.advanced h.increment_value fun _ hj =>
    natAbs_le_of_le_passCount h.increment_ne_zero h.first_le h.last_le h.increment_le (hj.trans hk)

/-- They are in range but for the last of them. -/
theorem inRange_advanced_iff (hk : k ≤ passCount a b c) :
    inRange loop.increment (Number.advanced loop.increment first k) loop.last = true ↔
      k < passCount a b c := by
  rw [h.increment_value.inRange_iff h.last_value (h.advanced_isInt hk),
    lt_passCount_iff h.increment_ne_zero]

end Counts

end CountedLoop

namespace Statement

variable {loop : CountedLoop} {start stop : Expr} {increment : Option Expr}
    {s u : Context} {first : Number}
  {a b c : Int}

/-- **A counted loop over integers up to `2 ^ 52`, whose body always completes and leaves the
counter alone, makes one pass for each integer from the start to the end in steps of the
increment.** The pass of number `k` sees `a + k * c`, and the counter ends as the first of these
integers that is out of range. What the statement executes is what its body executes in these
passes. The bounds are evaluated once: for the rest the statement is the loop over the numbers that
they came to, whatever its body does to their variables. -/
theorem countedDo_counts (h : loop.Counts start stop increment s u first a b c)
    (hsteady : loop.Steady (loop.set first u)) :
    (∃ begun : List Context, ∃ t : Context,
      begun.length = passCount a b c ∧
      (∀ (k : Nat) (ctx : Context), begun[k]? = some ctx →
        ∃ x, loop.Shows ctx x ∧ x.IsInt (a + k * c)) ∧
      (∃ x, loop.Shows t x ∧ x.IsInt (a + passCount a b c * c)) ∧
      ∃ enough, ∀ passes, enough ≤ passes →
        (perform passes loop.limit
          (.countedDo loop.counter start stop increment loop.body)).start s = .ok (.ok .next, t) ∧
        passesBegun passes loop.limit loop.counter start stop increment loop.body s = begun ∧
        moments passes loop.limit (.countedDo loop.counter start stop increment loop.body) s =
          begun.flatMap (momentsAll passes loop.limit loop.body)) ∧
      ∀ passes, (perform passes loop.limit
        (.countedDo loop.counter start stop increment loop.body)).start s =
        (perform passes loop.limit (.countedDo loop.counter (.number first) (.number loop.last)
          (some (.number loop.increment)) loop.body)).start u := by
  refine ⟨?_, fun passes => countedDo_start_of_bounds h.evaluated h.increment_isZero passes _ _ _⟩
  -- the counter is in range before each pass that is counted, and not after the last of them
  have hshows := loop.shows_set first u
  obtain ⟨t, hreaches, ht⟩ :=
    hsteady.exists_reaches hshows.at fun j hj => (h.inRange_advanced_iff hj.le).2 hj
  have hover : ¬ loop.InRange t := by
    rw [ht.inRange_iff, h.inRange_advanced_iff (Nat.le_refl _)]
    exact Nat.lt_irrefl _
  obtain ⟨begun, hlength, hbegun, enough, htold⟩ := hreaches.exists_begun
  obtain ⟨needed, hend⟩ := hreaches.iterate_start hover
  have hstarted := startCounted_start_of_bounds h.evaluated h.increment_isZero loop.counter
  refine ⟨begun, t, hlength, fun k ctx hk => ?_,
    ⟨_, hreaches.shows hsteady hshows, h.advanced_isInt (Nat.le_refl _)⟩,
    max (max enough needed) (passCount a b c), fun passes hle => ?_⟩
  · have hlt : k < passCount a b c := hlength ▸ (List.getElem?_eq_some_iff.1 hk).1
    exact ⟨_, (hbegun k ctx hk).shows hsteady hshows, h.advanced_isInt hlt.le⟩
  · -- the limit of passes leaves room for all of them
    have hpasses :
        passesBegun passes loop.limit loop.counter start stop increment loop.body s = begun := by
      obtain ⟨n, rfl⟩ := Nat.exists_eq_add_of_le ((le_max_right _ _).trans hle)
      have hrest := htold _ (((le_max_left _ _).trans (le_max_left _ _)).trans hle) n
      rw [CountedLoop.repeated_of_not_inRange hover, List.append_nil] at hrest
      rw [passesBegun, Run.follow_of_ok hstarted]
      exact hrest
    refine ⟨?_, hpasses, by rw [moments_countedDo, hpasses]⟩
    rw [perform, countedLoop, Run.start_bind_of_ok hstarted]
    exact hend passes (((le_max_right _ _).trans (le_max_left _ _)).trans hle)

/-! ## A loop whose body changes its bounds -/

/-- The loop of `i` from five down to one in steps of two. Its body sets `n`, from
which the end was read. -/
def descendingLoop : CountedLoop :=
  ⟨"i", .ofInt 1, .ofInt (-2), 1000, [.assign (.variable "n") (.number (.ofInt 9))]⟩

/-- The context before the loop, in which `n` is one. -/
def beforeDescending : Context :=
  (Context.initial 0).mapRow fun row => row.insert "n" (.number (.ofInt 1))

theorem descendingLoop_counts : descendingLoop.Counts (.number (.ofInt 5)) (.variable "n")
    (some (.number (.ofInt (-2)))) beforeDescending beforeDescending (.ofInt 5) 5 1 (-2) where
  evaluated := rfl
  first_value := Number.isInt_ofInt (by decide)
  last_value := Number.isInt_ofInt (by decide)
  increment_value := Number.isInt_ofInt (by decide)
  increment_ne_zero := by decide
  first_le := by decide
  last_le := by decide
  increment_le := by decide

theorem descendingLoop_steady (s : Context) : descendingLoop.Steady s := by
  intro k t _ _
  refine ⟨t.mapRow fun row => row.insert "n" (.number (.ofInt 9)), ⟨0, rfl⟩, ?_⟩
  change (t.row.insert "n" (.number (.ofInt 9))).get? "i" = t.row.get? "i"
  rw [OrderedMap.get?_insert, if_neg (by decide)]

/-- The loop makes three passes and ends at minus one, although `n` is nine
after the first of them. -/
theorem countedDo_counts_descending : ∃ begun : List Context, ∃ t : Context, begun.length = 3 ∧
    (∃ x, descendingLoop.Shows t x ∧ x.IsInt (-1)) ∧
    ∃ enough, ∀ passes, enough ≤ passes →
      (perform passes 1000 (.countedDo "i" (.number (.ofInt 5)) (.variable "n")
        (some (.number (.ofInt (-2)))) descendingLoop.body)).start beforeDescending =
          .ok (.ok .next, t) ∧
      passesBegun passes 1000 "i" (.number (.ofInt 5)) (.variable "n")
        (some (.number (.ofInt (-2))))
        descendingLoop.body beforeDescending = begun := by
  have hcount : passCount 5 1 (-2) = 3 := by decide +kernel
  obtain ⟨⟨begun, t, hlength, -, hend, enough, hruns⟩, -⟩ :=
    countedDo_counts descendingLoop_counts (descendingLoop_steady _)
  rw [hcount] at hlength hend
  exact ⟨begun, t, hlength, hend, enough,
    fun passes hle => ⟨(hruns passes hle).1, (hruns passes hle).2.1⟩⟩

end Statement

end DataStep
