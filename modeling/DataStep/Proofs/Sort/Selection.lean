import DataStep.Procedure
import DataStep.Proofs.Loop

/-!
# The rows that a filter selects

A filter is evaluated on one row after another, each being the row in the making meanwhile. What it
says of a row depends on the row, the arrays and the day alone. Main statement: a selection that
succeeds takes exactly the rows on which the value of the filter selects, and changes no more of the
context than the row in the making and the log (`selection_of_selectRows`); a filter with a value on
every row gives a selection (`exists_selectRows`).
-/

set_option autoImplicit false

namespace DataStep

namespace Context

variable {ctx ctx' : Context} {e : Expr} {v : Value}

/-- What expressions see while a row is the row in the making. -/
def rowScope (ctx : Context) (row : Row) : Scope := ⟨row, ctx.arrays, ctx.currentDay⟩

/-- An expression is evaluated on the scope and the log. -/
theorem evaluate_start_eq_ok_iff : (evaluate e).start ctx = .ok (.ok v, ctx') ↔
    ∃ log, (e.eval ctx.scope).start ctx.log = .ok (.ok v, log) ∧ ctx' = { ctx with log } := by
  rw [evaluate, evaluation, Run.start_of, Run.start_within]
  constructor
  · intro h
    cases heval : (e.eval ctx.scope).start ctx.log with
    | error halt => rw [heval] at h; cases h
    | ok result =>
      rw [heval] at h
      obtain ⟨_ | v, log⟩ := result <;> cases h
      exact ⟨log, rfl, rfl⟩
  · rintro ⟨log, heval, rfl⟩
    rw [heval]
    rfl

end Context

namespace Session

variable {filter : Expr} {rows selected : List Row} {row : Row}
    {ctx ctx' : Context} {b : Bool} {v : Value}

/-- Whether the value of a filter on a row selects it. -/
def isSelected (filter : Expr) (ctx : Context) (row : Row) : Bool :=
  (filter.value? (ctx.rowScope row)).any selects

theorem isSelected_of_value? (h : filter.value? (ctx.rowScope row) = some v) :
    isSelected filter ctx row = selects v := by
  rw [isSelected, h, Option.any_some]

/-- A value selects if it is a number other than zero or a text that is not empty. -/
theorem selects_iff : selects v = true ↔
    (∃ n : Number, v = .number n ∧ n.isZero = false) ∨ ∃ s, v = .text s ∧ s ≠ "" := by
  cases v with
  | number n => simp [selects]
  | text s => simp [selects]
  | missing => simp [selects]

/-- A selection changed no more of a context than the row in the making and,
by warnings, the log. -/
def Visited (ctx ctx' : Context) : Prop :=
  ∃ row log, ctx' = { ctx with row, log } ∧ Log.Warned ctx.log log

namespace Visited

protected theorem refl (ctx : Context) : Visited ctx ctx :=
  ⟨ctx.row, ctx.log, rfl, Log.Extends.refl ctx.log⟩

protected theorem trans {ctx'' : Context} (h : Visited ctx ctx') (h' : Visited ctx' ctx'') :
    Visited ctx ctx'' := by
  obtain ⟨row, log, rfl, hwarned⟩ := h
  obtain ⟨row', log', rfl, hwarned'⟩ := h'
  exact ⟨row', log', rfl, hwarned.trans hwarned'⟩

theorem rowScope_eq (h : Visited ctx ctx') (row : Row) : ctx'.rowScope row = ctx.rowScope row := by
  obtain ⟨row', log, rfl, -⟩ := h
  rfl

theorem isSelected_eq (h : Visited ctx ctx') : isSelected filter ctx' = isSelected filter ctx := by
  funext row
  rw [isSelected, isSelected, h.rowScope_eq]

end Visited

/-! ## One row -/

/-- A filter that has a value on a row selects the row or not. -/
theorem selectsRow_start_of_eval {log : Log}
    (h : (filter.eval (ctx.rowScope row)).start ctx.log = .ok (.ok v, log)) :
    (selectsRow filter row).start ctx =
      .ok (.ok (selects v), { ctx with row := if selects v then .empty else row, log }) := by
  have hevaluate : (Context.evaluate filter).start (ctx.mapRow fun _ => row) =
      .ok (.ok v, { ctx with row, log }) := Context.evaluate_start_eq_ok_iff.2 ⟨log, h, rfl⟩
  rw [selectsRow, Run.start_bind_of_ok (Run.start_modify _ ctx), Run.start_bind_of_ok hevaluate]
  cases selects v <;> rfl

theorem exists_value?_of_selectsRow (h : (selectsRow filter row).start ctx = .ok (.ok b, ctx')) :
    ∃ v, filter.value? (ctx.rowScope row) = some v ∧ b = selects v ∧ Visited ctx ctx' := by
  have hrun := h
  rw [selectsRow, Run.start_bind_of_ok (Run.start_modify _ ctx)] at h
  rcases Run.start_bind_eq_ok.1 h with ⟨e, -, he⟩ | ⟨v, mid, hevaluate, -⟩
  · cases he
  · obtain ⟨log, heval, -⟩ := Context.evaluate_start_eq_ok_iff.1 hevaluate
    have heval : (filter.eval (ctx.rowScope row)).start ctx.log = .ok (.ok v, log) := heval
    rw [selectsRow_start_of_eval heval] at hrun
    cases hrun
    exact ⟨v, (Expr.value?_eq_some_iff ctx.log).2 ⟨log, heval⟩, rfl, _, log, rfl,
      filter.eval_warns _ heval⟩

theorem exists_selectsRow (h : filter.value? (ctx.rowScope row) = some v) :
    ∃ ctx', (selectsRow filter row).start ctx = .ok (.ok (selects v), ctx') := by
  obtain ⟨log, heval⟩ := (Expr.value?_eq_some_iff ctx.log).1 h
  exact ⟨_, selectsRow_start_of_eval heval⟩

/-! ## All rows -/

/-- What a selection takes and leaves. -/
structure Selection (filter : Expr) (rows : List Row) (ctx : Context) (selected : List Row)
    (ctx' : Context) : Prop where
  hasValue : ∀ row ∈ rows, (filter.value? (ctx.rowScope row)).isSome
  selected_eq : selected = rows.filter (isSelected filter ctx)
  visited : Visited ctx ctx'

/-- **A selection takes the rows on which the value of the filter selects.** -/
theorem selection_of_selectRows
    (h : (selectRows filter rows).start ctx = .ok (.ok selected, ctx')) :
    Selection filter rows ctx selected ctx' := by
  induction rows generalizing ctx selected with
  | nil =>
    cases h
    exact ⟨fun row hrow => (nomatch hrow), rfl, .refl _⟩
  | cons row rows ih =>
    rcases Run.start_bind_eq_ok.1 h with ⟨e, -, he⟩ | ⟨b, mid, hrow, hrest⟩
    · cases he
    · rcases Run.start_bind_eq_ok.1 hrest with ⟨e, -, he⟩ | ⟨others, last, hothers, hlast⟩
      · cases he
      · cases hlast
        obtain ⟨v, hvalue, rfl, hvisited⟩ := exists_value?_of_selectsRow hrow
        have hrows := ih hothers
        refine ⟨?_, ?_, hvisited.trans hrows.visited⟩
        · rw [List.forall_mem_cons, hvalue]
          refine ⟨rfl, fun other hother => ?_⟩
          rw [← hvisited.rowScope_eq]
          exact hrows.hasValue other hother
        · rw [List.filter_cons, isSelected_of_value? hvalue,
            hrows.selected_eq, hvisited.isSelected_eq]

/-- **A filter with a value on every row gives a selection.** -/
theorem exists_selectRows (h : ∀ row ∈ rows, (filter.value? (ctx.rowScope row)).isSome) :
    ∃ selected ctx', (selectRows filter rows).start ctx = .ok (.ok selected, ctx') := by
  induction rows generalizing ctx with
  | nil => exact ⟨[], ctx, rfl⟩
  | cons row rows ih =>
    rw [List.forall_mem_cons] at h
    obtain ⟨v, hvalue⟩ := Option.isSome_iff_exists.1 h.1
    obtain ⟨mid, hrow⟩ := exists_selectsRow hvalue
    obtain ⟨-, -, -, hvisited⟩ := exists_value?_of_selectsRow hrow
    have hlater : ∀ other ∈ rows, (filter.value? (mid.rowScope other)).isSome :=
      fun other hother => by
      rw [hvisited.rowScope_eq]
      exact h.2 other hother
    obtain ⟨others, last, hothers⟩ := ih hlater
    refine ⟨if selects v then row :: others else others, last, ?_⟩
    rw [selectRows, Run.start_bind_of_ok hrow, Run.start_bind_of_ok hothers]
    rfl

end Session

end DataStep
