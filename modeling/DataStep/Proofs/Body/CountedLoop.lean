import DataStep.Proofs.Body.MorePasses
import DataStep.Proofs.Number.Order
import DataStep.Proofs.Rounds

/-!
# The end of a counted loop

A counted loop goes on while its counter is in range, and nothing bounds its passes. Its counter
never goes back (`Number.progress_le_add`), but a number far from zero swallows an increment
that is smaller than the spacing of the numbers there, and then the counter stays in range for
ever (`CountedLoop.Stalls`).

Main statement: a loop over finite numbers whose body always completes and leaves the counter alone
ends if its counter does not stall, and runs under no number of passes to an end if it does
(`Statement.countedDo_ends_or_stalls`). There is such a loop, with an increment of one
(`Statement.exists_endless_countedDo`).
-/

set_option autoImplicit false

namespace DataStep

/-! ## Counters -/

namespace Number

variable {first last step x : Number} {k : Nat}

/-- The number after some increments. -/
def advanced (step first : Number) (k : Nat) : Number := (fun x => x.add step)^[k] first

theorem advanced_zero (step first : Number) : advanced step first 0 = first := rfl

theorem advanced_succ (step first : Number) (k : Nat) :
    advanced step first (k + 1) = (advanced step first k).add step :=
  Function.iterate_succ_apply' _ k first

theorem advanced_add (step first : Number) (k : Nat) :
    advanced step (first.add step) k = advanced step first (k + 1) := rfl

/-- How far a number has come in the direction of an increment. -/
def progress (step x : Number) : Int :=
  if below (.zero false) step then x.orderKey else -x.orderKey

/-- **An increment never goes back.** -/
theorem progress_le_add (hx : x.isFinite = true) (hstep : step.isFinite = true)
    (hzero : step.isZero = false) :
    progress step x ≤ progress step (x.add step) := by
  rw [progress, progress]
  split
  · rename_i hup
    exact orderKey_le_add hx hstep ((below_zero_iff hstep).1 hup)
  · rename_i hdown
    have hne : step.toRat ≠ 0 := by
      rw [Ne, toRat_eq_zero_iff hstep]
      exact beq_eq_false_iff_ne.1 hzero
    have hneg : step.toRat < 0 := by
      rw [below_zero_iff hstep, not_lt] at hdown
      exact lt_of_le_of_ne hdown hne
    exact neg_le_neg (orderKey_add_le hx hstep hneg)

/-- An increment that is not lost goes on. -/
theorem progress_lt_add (hx : x.isFinite = true) (hstep : step.isFinite = true)
    (hzero : step.isZero = false)
    (hmoves : x.add step ≠ x) : progress step x < progress step (x.add step) := by
  refine lt_of_le_of_ne (progress_le_add hx hstep hzero) fun heq => hmoves (orderKey_inj ?_)
  rw [progress, progress] at heq
  split at heq
  · exact heq.symm
  · exact (neg_inj.1 heq).symm

/-- A number in range has come no further than the end of the range, but for the two zeros. -/
theorem progress_le_of_inRange (h : inRange step x last = true) :
    progress step x ≤ progress step last ∨ x.isZero = true ∧ last.isZero = true := by
  rw [inRange] at h
  rw [progress, progress]
  split at h
  · rename_i hup
    rw [if_pos hup, if_pos hup]
    exact orderKey_le_of_atMost h
  · rename_i hdown
    rw [if_neg hdown, if_neg hdown]
    rcases orderKey_le_of_atMost h with hle | ⟨hlast, hx⟩
    · exact .inl (neg_le_neg hle)
    · exact .inr ⟨hx, hlast⟩

/-- A zero has come as far as the other one or one further. -/
theorem progress_le_of_isZero (hx : x.isZero = true) (hlast : last.isZero = true) :
    progress step x ≤ progress step last + 1 := by
  rw [progress, progress, orderKey, orderKey, beq_iff_eq.1 hx, beq_iff_eq.1 hlast]
  split <;> split <;> split <;> omega

theorem progress_le_succ_of_inRange (h : inRange step x last = true) :
    progress step x ≤ progress step last + 1 := by
  rcases progress_le_of_inRange h with hle | ⟨hx, hlast⟩
  · omega
  · exact progress_le_of_isZero hx hlast

/-- What lies between finite numbers is finite. -/
theorem isFinite_of_inRange (hfirst : first.isFinite = true) (hlast : last.isFinite = true)
    (hle : progress step first ≤ progress step x) (h : inRange step x last = true) :
    x.isFinite = true := by
  rcases progress_le_of_inRange h with hle' | ⟨hx, -⟩
  · rw [isFinite_iff_orderKey] at hfirst hlast ⊢
    rw [progress, progress] at hle hle'
    by_cases hup : below (.zero false) step = true
    · rw [if_pos hup, if_pos hup] at hle hle'
      omega
    · rw [if_neg hup, if_neg hup] at hle hle'
      omega
  · exact (absValue_of_isZero hx).1

/-- A counter stalls: it stays in range and comes to a number that swallows the increment. -/
def Stalls (step last first : Number) : Prop :=
  ∃ k, (∀ j ≤ k, inRange step (advanced step first j) last = true) ∧
    (advanced step first k).add step = advanced step first k

/-- A counter that stalls is in range, and so it is after the next increment. -/
theorem Stalls.next (h : Stalls step last first) :
    inRange step first last = true ∧ Stalls step last (first.add step) := by
  obtain ⟨k, hrange, hfixed⟩ := h
  refine ⟨hrange 0 (Nat.zero_le k), ?_⟩
  cases k with
  | zero =>
    rw [advanced_zero] at hfixed
    refine ⟨0, fun j hj => ?_, ?_⟩
    · rw [Nat.le_zero.1 hj, advanced_zero, hfixed]
      exact hrange 0 (Nat.le_refl 0)
    · rw [advanced_zero, hfixed, hfixed]
  | succ k =>
    refine ⟨k, fun j hj => ?_, ?_⟩
    · rw [advanced_add]
      exact hrange (j + 1) (Nat.succ_le_succ hj)
    · rw [advanced_add]
      exact hfixed

/-- While the increments are not lost, each of them goes on by at least one number. -/
theorem progress_advanced (hfirst : first.isFinite = true) (hlast : last.isFinite = true)
    (hstep : step.isFinite = true) (hzero : step.isZero = false)
    (h : ∀ j < k, inRange step (advanced step first j) last = true ∧
      (advanced step first j).add step ≠ advanced step first j) :
    progress step first + k ≤ progress step (advanced step first k) := by
  induction k with
  | zero => exact (Int.add_zero _).le
  | succ k ih =>
    have hprogress := ih fun j hj => h j (Nat.lt_succ_of_lt hj)
    obtain ⟨hrange, hmoves⟩ := h k (Nat.lt_succ_self k)
    have hfinite : (advanced step first k).isFinite = true :=
      isFinite_of_inRange hfirst hlast (by omega) hrange
    have hlt := progress_lt_add hfinite hstep hzero hmoves
    rw [advanced_succ]
    push_cast
    omega

/-- **A counter that does not stall leaves the range**: there are only so many
numbers up to its end. -/
theorem exists_not_inRange (hfirst : first.isFinite = true) (hlast : last.isFinite = true)
    (hstep : step.isFinite = true) (hzero : step.isZero = false) (h : ¬ Stalls step last first) :
    ∃ k, (∀ j < k, inRange step (advanced step first j) last = true) ∧
      inRange step (advanced step first k) last = false := by
  have hleaves : ∃ k, inRange step (advanced step first k) last = false := by
    by_contra hstays
    have hrange : ∀ j, inRange step (advanced step first j) last = true := fun j => by
      rw [← Bool.not_eq_false]
      exact fun hj => hstays ⟨j, hj⟩
    have hmoves : ∀ j, (advanced step first j).add step ≠ advanced step first j :=
      fun j hfixed => h ⟨j, fun i _ => hrange i, hfixed⟩
    -- after as many increments as there are numbers up to the end, the counter is beyond it
    have hfar :=
      progress_advanced (k := (progress step last + 2 - progress step first).toNat) hfirst hlast
      hstep hzero fun j _ => ⟨hrange j, hmoves j⟩
    have hnear := progress_le_succ_of_inRange
      (hrange (progress step last + 2 - progress step first).toNat)
    omega
  refine ⟨Nat.find hleaves, fun j hj => ?_, Nat.find_spec hleaves⟩
  rw [← Bool.not_eq_false]
  exact Nat.find_min hleaves hj

end Number

/-! ## Loops -/

/-- A counted loop that has begun: the name of its counter, its end and its increment, the limit of
the conditional loops in its body, and the body. -/
structure CountedLoop where
  counter : String
  last : Number
  increment : Number
  limit : Nat
  body : List Statement

namespace CountedLoop

variable {loop : CountedLoop} {s t u : Context} {x : Number} {k : Nat}

/-- One pass of the loop. -/
def pass (loop : CountedLoop) (passes : Nat) : ContextM (Option Flow) :=
  countedPass loop.counter loop.last loop.increment
    (Statement.performAll passes loop.limit loop.body)

/-- The counter counts as a number. -/
def At (loop : CountedLoop) (s : Context) (x : Number) : Prop :=
  (Row.value s.row loop.counter).toNumber? = some x

/-- The counter is in range. -/
abbrev InRange (loop : CountedLoop) (s : Context) : Prop :=
  CounterInRange loop.counter loop.last loop.increment s

/-- The context with the counter incremented. -/
def advance (loop : CountedLoop) : Context → Context :=
  Context.mapRow fun row =>
    row.insert loop.counter
      (.ofNumber? ((Row.value row loop.counter).toNumber?.map fun n => n.add loop.increment))

/-- The body completes. -/
def Completes (loop : CountedLoop) (s t : Context) : Prop :=
  ∃ passes, (Statement.performAll passes loop.limit loop.body).start s = .ok (.ok .next, t)

/-- The contexts in which the loop looks at its counter, by the number of passes before. -/
inductive Reaches (loop : CountedLoop) : Nat → Context → Context → Prop
  | start (s : Context) : Reaches loop 0 s s
  | pass {k : Nat} {s t u : Context} (hrange : loop.InRange s) (hbody : loop.Completes s t)
      (hrest : Reaches loop k (loop.advance t) u) : Reaches loop (k + 1) s u

/-- In each of its passes the body completes and leaves the counter as it was. -/
def Steady (loop : CountedLoop) (s : Context) : Prop :=
  ∀ k t, loop.Reaches k s t → loop.InRange t →
    ∃ u, loop.Completes t u ∧ u.row.get? loop.counter = t.row.get? loop.counter

/-- The counter of the loop stalls. -/
def Stalls (loop : CountedLoop) (first : Number) : Prop :=
  Number.Stalls loop.increment loop.last first

/-- A statement begins the loop: its expressions come to a start and an end that are finite and to
an increment that is finite and not zero, and the counter is set to the start. -/
structure Begins (loop : CountedLoop) (start stop : Expr) (increment : Option Expr) (s u : Context)
    (first : Number) : Prop where
  started : (startCounted loop.counter start stop increment).start s =
    .ok (.ok (some loop.last, loop.increment), u)
  counter : loop.At u first
  first_finite : first.isFinite = true
  last_finite : loop.last.isFinite = true
  increment_finite : loop.increment.isFinite = true
  increment_not_zero : loop.increment.isZero = false

theorem At.inRange_iff (h : loop.At s x) :
    loop.InRange s ↔ inRange loop.increment x loop.last = true := by
  constructor
  · rintro ⟨current, hcurrent, hrange⟩
    rw [At, hcurrent, Option.some.injEq] at h
    exact h ▸ hrange
  · exact fun hrange => ⟨x, h, hrange⟩

/-- A body that leaves the counter alone leaves it to the increment. -/
theorem At.advance (h : loop.At s x) (hkeeps : t.row.get? loop.counter = s.row.get? loop.counter) :
    loop.At (loop.advance t) (x.add loop.increment) := by
  have hsame : (Row.value t.row loop.counter).toNumber? = some x := by
    rw [Row.value, hkeeps]
    exact h
  change (Row.value (t.row.insert loop.counter _) loop.counter).toNumber? = _
  rw [hsame, Row.value, OrderedMap.get?_insert, if_pos rfl]
  rfl

/-- A loop remains steady. -/
theorem Steady.advance (h : loop.Steady s) (hrange : loop.InRange s) (hbody : loop.Completes s t) :
    loop.Steady (loop.advance t) :=
  fun k _ hreaches => h (k + 1) _ (.pass hrange hbody hreaches)

/-! ## Passes -/

/-- What a body comes to does not depend on the bound on the passes of its loops,
unless they are used up. -/
theorem Completes.start_eq (h : loop.Completes s t) (passes : Nat) :
    (Statement.performAll passes loop.limit loop.body).start s = .error .outOfPasses ∨
      (Statement.performAll passes loop.limit loop.body).start s = .ok (.ok .next, t) := by
  obtain ⟨enough, henough⟩ := h
  rcases Nat.le_total passes enough with hle | hle
  · rw [← henough]
    exact Statement.performAll_approaches loop.limit hle loop.body s
  · exact .inr ((Statement.performAll_approaches loop.limit hle loop.body).start_eq_of_ok henough)

/-- A pass whose body completes increments the counter. -/
theorem pass_start_of_completes {passes : Nat} (hrange : loop.InRange s)
    (hbody : (Statement.performAll passes loop.limit loop.body).start s = .ok (.ok .next, t)) :
    (loop.pass passes).start s = .ok (.ok none, loop.advance t) := by
  rw [pass, countedPass_start_of_inRange hrange, Run.start_bind_of_ok hbody]
  rfl

/-- The passes that a loop makes it makes under every bound that is great enough for them. -/
theorem Reaches.afterRounds (h : loop.Reaches k s u) :
    ∃ enough, ∀ passes, enough ≤ passes → Run.afterRounds (loop.pass passes) k s = some u := by
  induction h with
  | start s => exact ⟨0, fun _ _ => rfl⟩
  | pass hrange hbody _ ih =>
    obtain ⟨n, hn⟩ := hbody
    obtain ⟨m, hm⟩ := ih
    refine ⟨max n m, fun passes hle => ?_⟩
    have happroaches :=
      Statement.performAll_approaches loop.limit ((le_max_left n m).trans hle) loop.body
    have hpass := pass_start_of_completes hrange (happroaches.start_eq_of_ok hn)
    exact Run.afterRounds_succ_eq_some_iff.2 ⟨_, hpass, hm passes ((le_max_right n m).trans hle)⟩

/-- A steady loop makes a pass for every number in range that its counter comes to. -/
theorem Steady.exists_reaches {first : Number} (hsteady : loop.Steady s) (hfirst : loop.At s first)
    (h : ∀ j < k, inRange loop.increment
      (Number.advanced loop.increment first j) loop.last = true) :
    ∃ t, loop.Reaches k s t ∧ loop.At t (Number.advanced loop.increment first k) := by
  induction k generalizing s first with
  | zero => exact ⟨s, .start s, hfirst⟩
  | succ k ih =>
    have hrange := hfirst.inRange_iff.2 (h 0 (Nat.zero_lt_succ k))
    obtain ⟨t, hbody, hkeeps⟩ := hsteady 0 s (.start s) hrange
    obtain ⟨u, hreaches, hu⟩ := ih (hsteady.advance hrange hbody) (hfirst.advance hkeeps)
      fun j hj => h (j + 1) (Nat.succ_lt_succ hj)
    exact ⟨u, .pass hrange hbody hreaches, hu⟩

/-! ## Ends -/

/-- A loop that comes to a context out of range ends there, under all bounds
that are great enough. -/
theorem Reaches.iterate_start (h : loop.Reaches k s t) (hover : ¬ loop.InRange t) :
    ∃ enough, ∀ passes, enough ≤ passes →
      (Run.iterate (loop.pass passes) passes).start s = .ok (.ok .next, t) := by
  obtain ⟨enough, hrounds⟩ := h.afterRounds
  refine ⟨max enough (k + 1), fun passes hle => ?_⟩
  exact Run.iterate_start_eq_ok_iff.2 ⟨k, (le_max_right enough (k + 1)).trans hle, t,
    hrounds passes ((le_max_left enough (k + 1)).trans hle),
    countedPass_start_of_not_inRange hover _⟩

/-- **A loop whose counter leaves the range ends**, under all bounds that are great enough. -/
theorem exists_end {first : Number} (hsteady : loop.Steady s) (hfirst : loop.At s first)
    (hrange : ∀ j < k, inRange loop.increment
      (Number.advanced loop.increment first j) loop.last = true)
    (hleaves : inRange loop.increment (Number.advanced loop.increment first k) loop.last = false) :
    ∃ t enough, ∀ passes, enough ≤ passes →
      (Run.iterate (loop.pass passes) passes).start s = .ok (.ok .next, t) := by
  obtain ⟨t, hreaches, ht⟩ := hsteady.exists_reaches hfirst hrange
  have hover : ¬ loop.InRange t := by
    rw [ht.inRange_iff, hleaves]
    exact Bool.false_ne_true
  exact ⟨t, hreaches.iterate_start hover⟩

/-- **A loop whose counter stalls runs under no bound to an end.** That the counter stalls is kept
by every pass, so each pass uses up the bound or is followed by another one. -/
theorem iterate_start_of_stalls {first : Number} (hsteady : loop.Steady s)
    (hfirst : loop.At s first) (h : loop.Stalls first) (passes n : Nat) :
    (Run.iterate (loop.pass passes) n).start s = .error .outOfPasses := by
  induction n generalizing s first with
  | zero => rfl
  | succ n ih =>
    obtain ⟨hin, hnext⟩ := h.next
    have hrange := hfirst.inRange_iff.2 hin
    obtain ⟨t, hbody, hkeeps⟩ := hsteady 0 s (.start s) hrange
    rw [Run.iterate_succ]
    rcases hbody.start_eq passes with hout | hcompletes
    · rw [Run.start_bind_eq_error, pass,
        countedPass_start_of_inRange hrange, Run.start_bind_eq_error]
      exact .inl (.inl hout)
    · rw [Run.start_bind_of_ok (pass_start_of_completes hrange hcompletes)]
      exact ih (hsteady.advance hrange hbody) (hfirst.advance hkeeps) hnext

end CountedLoop

/-! ## The end of a counted loop -/

namespace Statement

variable {loop : CountedLoop} {start stop : Expr} {increment : Option Expr}
    {s u : Context} {first : Number}

/-- What the statement of a counted loop comes to once the loop has begun. -/
theorem countedDo_start_of_begins (h : loop.Begins start stop increment s u first) (passes : Nat) :
    (perform passes loop.limit (.countedDo loop.counter start stop increment loop.body)).start s =
      (Run.iterate (loop.pass passes) passes).start u := by
  rw [perform, countedLoop, Run.start_bind_of_ok h.started]
  rfl

/-- **A counted loop over finite numbers, whose body always completes and leaves the counter alone,
ends if its counter does not stall.** If it does, no number of passes takes the loop to an end. -/
theorem countedDo_ends_or_stalls (hbegins : loop.Begins start stop increment s u first)
    (hsteady : loop.Steady u) :
    (¬ loop.Stalls first → ∃ t enough, ∀ passes, enough ≤ passes →
        (perform passes loop.limit
          (.countedDo loop.counter start stop increment loop.body)).start s = .ok (.ok .next, t)) ∧
      (loop.Stalls first → ∀ passes,
        (perform passes loop.limit
          (.countedDo loop.counter start stop increment loop.body)).start s =
            .error .outOfPasses) := by
  constructor
  · intro hmoves
    obtain ⟨k, hrange, hleaves⟩ :=
      Number.exists_not_inRange hbegins.first_finite hbegins.last_finite
      hbegins.increment_finite hbegins.increment_not_zero hmoves
    obtain ⟨t, enough, hend⟩ := loop.exists_end hsteady hbegins.counter hrange hleaves
    refine ⟨t, enough, fun passes hle => ?_⟩
    rw [countedDo_start_of_begins hbegins]
    exact hend passes hle
  · intro hstalls passes
    rw [countedDo_start_of_begins hbegins]
    exact loop.iterate_start_of_stalls hsteady hbegins.counter hstalls passes passes

/-! ## Loops without a body -/

/-- The loop of `i` up to a natural number, with no statement in its body. -/
def emptyLoop (stop : Nat) : CountedLoop := ⟨"i", .ofNat stop, .ofNat 1, 1000, []⟩

/-- The context in which the loop looks at its counter for the first time. -/
def emptyLoopBegun (start : Nat) : Context :=
  (Context.initial 0).mapRow fun row => row.insert "i" (.number (.ofNat start))

theorem emptyLoop_begins {start stop : Nat} (hstart : (Number.ofNat start).isFinite = true)
    (hstop : (Number.ofNat stop).isFinite = true) :
    (emptyLoop stop).Begins (.number (.ofNat start))
      (.number (.ofNat stop)) none (Context.initial 0)
      (emptyLoopBegun start) (.ofNat start) where
  started := by
    have hone : (Number.ofNat 1).isZero = false := by decide +kernel
    have hliteral : ∀ n : Nat, (Context.evaluate (.number (.ofNat n))).start (Context.initial 0) =
        .ok (.ok (.number (.ofNat n)), Context.initial 0) := fun n => rfl
    rw [startCounted, Run.start_bind_of_ok (hliteral start), Run.start_bind_of_ok (hliteral stop)]
    dsimp only
    rw [pure_bind, hone]
    rfl
  counter := rfl
  first_finite := hstart
  last_finite := hstop
  increment_finite := by
    change (Number.ofNat 1).isFinite = true
    decide +kernel
  increment_not_zero := by
    change (Number.ofNat 1).isZero = false
    decide +kernel

theorem emptyLoop_steady (stop : Nat) (s : Context) : (emptyLoop stop).Steady s :=
  fun _ t _ _ => ⟨t, ⟨0, rfl⟩, rfl⟩

/-- Control: the loop from one to one ends. -/
theorem countedDo_ends_after_one_pass : ∃ t enough, ∀ passes, enough ≤ passes →
    (perform passes 1000 (.countedDo "i" (.number (.ofNat 1)) (.number (.ofNat 1)) none [])).start
      (Context.initial 0) = .ok (.ok .next, t) := by
  have hfinite : (Number.ofNat 1).isFinite = true := by decide +kernel
  have hbegins := emptyLoop_begins hfinite hfinite
  refine (countedDo_ends_or_stalls hbegins (emptyLoop_steady 1 _)).1 ?_
  rintro ⟨k, hrange, hfixed⟩
  cases k with
  | zero =>
    revert hfixed
    decide +kernel
  | succ k =>
    -- after one increment the counter is out of range
    exact absurd (hrange 1 (Nat.succ_le_succ (Nat.zero_le k))) (by decide +kernel)

/-- **There is a loop over finite numbers that never ends**, although its body completes and leaves
the counter alone: from `2 ^ 53` to `2 ^ 53`, where an increment of one is lost in rounding. -/
theorem exists_endless_countedDo :
    (emptyLoop (2 ^ 53)).Begins (.number (.ofNat (2 ^ 53))) (.number (.ofNat (2 ^ 53))) none
        (Context.initial 0) (emptyLoopBegun (2 ^ 53)) (.ofNat (2 ^ 53)) ∧
      (emptyLoop (2 ^ 53)).Steady (emptyLoopBegun (2 ^ 53)) ∧
      ¬ ∃ passes r t, (perform passes 1000 (.countedDo "i" (.number (.ofNat (2 ^ 53)))
        (.number (.ofNat (2 ^ 53))) none [])).start (Context.initial 0) = .ok (r, t) := by
  have hfinite : (Number.ofNat (2 ^ 53)).isFinite = true := by decide +kernel
  have hbegins := emptyLoop_begins hfinite hfinite
  have hsteady := emptyLoop_steady (2 ^ 53) (emptyLoopBegun (2 ^ 53))
  have hstalls : (emptyLoop (2 ^ 53)).Stalls (.ofNat (2 ^ 53)) := by
    refine ⟨0, fun j hj => ?_, by decide +kernel⟩
    rw [Nat.le_zero.1 hj]
    decide +kernel
  refine ⟨hbegins, hsteady, ?_⟩
  rintro ⟨passes, r, t, hend⟩
  have hnever :
      (perform passes 1000
        (.countedDo "i" (.number (.ofNat (2 ^ 53))) (.number (.ofNat (2 ^ 53))) none [])).start
          (Context.initial 0) = .error .outOfPasses :=
    (countedDo_start_of_begins hbegins passes).trans
      ((emptyLoop (2 ^ 53)).iterate_start_of_stalls hsteady hbegins.counter hstalls passes passes)
  rw [hnever] at hend
  cases hend

end Statement

end DataStep
