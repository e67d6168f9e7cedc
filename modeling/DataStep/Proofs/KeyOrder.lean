import DataStep.Row

/-!
# The order of keys

`Number.compare`, `Value.compare` and `Row.compareBy` are total preorders: each is oriented (turning
the arguments round turns the answer round) and transitive, and so is every lexicographic
combination of values. Two rows compare as equal exactly when they have the same value of every BY
variable (`Row.compareBy_eq_iff`), where an absent column counts as missing.
-/

set_option autoImplicit false

namespace DataStep

/-! ## Numbers and values -/

theorem Number.compare_swap (x y : Number) : x.compare y = (y.compare x).swap :=
  Std.OrientedOrd.eq_swap

theorem Number.compare_isLE_trans {x y z : Number} (hxy : (x.compare y).isLE)
    (hyz : (y.compare z).isLE) : (x.compare z).isLE :=
  Std.TransOrd.isLE_trans hxy hyz

instance : Std.TransCmp Number.compare where
  eq_swap := Number.compare_swap _ _
  isLE_trans := Number.compare_isLE_trans

instance : Std.LawfulEqCmp Number.compare where
  eq_of_compare h := Number.orderKey_inj (Std.LawfulEqOrd.eq_of_compare h)

theorem Value.compare_swap (a b : Value) : a.compare b = (b.compare a).swap := by
  cases a with
  | number m =>
    cases b with
    | number n => exact Number.compare_swap m n
    | text t => rfl
    | missing => rfl
  | text s =>
    cases b with
    | number n => rfl
    | text t => exact Std.OrientedOrd.eq_swap
    | missing => rfl
  | missing => cases b <;> rfl

theorem Value.compare_isLE_trans {a b c : Value} (hab : (a.compare b).isLE)
    (hbc : (b.compare c).isLE) : (a.compare c).isLE := by
  -- only three values of one kind need an argument, other kinds are decided by their ranks
  cases a <;> cases b <;> cases c <;> simp only [Value.compare] at hab hbc ⊢
  case number.number.number => exact Number.compare_isLE_trans hab hbc
  case text.text.text => exact Std.TransOrd.isLE_trans hab hbc
  all_goals first | rfl | contradiction

instance : Std.TransCmp Value.compare where
  eq_swap := Value.compare_swap _ _
  isLE_trans := Value.compare_isLE_trans

theorem Value.eq_of_compare {a b : Value} (h : a.compare b = .eq) : a = b := by
  cases a <;> cases b <;> simp only [Value.compare, reduceCtorEq] at h
  case number.number => exact congrArg _ (Std.LawfulEqCmp.eq_of_compare h)
  case text.text => exact congrArg _ (Std.LawfulEqCmp.eq_of_compare h)
  case missing.missing => rfl

instance : Std.LawfulEqCmp Value.compare where
  eq_of_compare := Value.eq_of_compare

theorem Value.compare_eq_iff {a b : Value} : a.compare b = .eq ↔ a = b :=
  ⟨Value.eq_of_compare, fun h => h ▸ Std.ReflCmp.compare_self⟩

/-! ## Rows -/

namespace Row

variable {vars : List String}

theorem compareBy_swap (vars : List String) (a b : Row) :
    compareBy vars a b = (compareBy vars b a).swap := by
  induction vars with
  | nil => rfl
  | cons v rest ih => rw [compareBy, compareBy, Ordering.swap_then, ih, Value.compare_swap]

theorem compareBy_isLE_trans {a b c : Row} (hab : (compareBy vars a b).isLE)
    (hbc : (compareBy vars b c).isLE) : (compareBy vars a c).isLE := by
  induction vars with
  | nil => rfl
  | cons v rest ih =>
    rw [compareBy, Ordering.isLE_then_iff_or] at hab hbc ⊢
    rcases hab with hab | ⟨hab, hab'⟩ <;> rcases hbc with hbc | ⟨hbc, hbc'⟩
    · exact .inl (Std.TransCmp.lt_trans hab hbc)
    · exact .inl (Std.TransCmp.lt_of_lt_of_eq hab hbc)
    · exact .inl (Std.TransCmp.lt_of_eq_of_lt hab hbc)
    · exact .inr ⟨Std.TransCmp.eq_trans hab hbc, ih hab' hbc'⟩

instance : Std.TransCmp (compareBy vars) where
  eq_swap := compareBy_swap vars _ _
  isLE_trans := compareBy_isLE_trans

theorem compareBy_isLE_of_not_isLT {a b : Row} (h : ¬ (compareBy vars b a).isLT) :
    (compareBy vars a b).isLE := by
  rw [compareBy_swap]
  cases hba : compareBy vars b a with
  | lt => exact absurd (by rw [hba]; rfl) h
  | eq => rfl
  | gt => rfl

/-- Rows have equal keys exactly when they agree on every BY variable. -/
theorem compareBy_eq_iff {a b : Row} :
    compareBy vars a b = .eq ↔ ∀ v ∈ vars, value a v = value b v := by
  induction vars with
  | nil => simp [compareBy]
  | cons v rest ih =>
    rw [compareBy, Ordering.then_eq_eq, ih, List.forall_mem_cons, Value.compare_eq_iff]

/-- The rows of a list ascend in their keys. -/
def Ascending (vars : List String) (rows : List Row) : Prop :=
  rows.Pairwise fun a b => (compareBy vars a b).isLE

instance (vars : List String) (rows : List Row) : Decidable (Ascending vars rows) :=
  inferInstanceAs (Decidable (rows.Pairwise fun a b => (compareBy vars a b).isLE))

end Row

end DataStep
