import DataStep.Proofs.KeyOrder
import DataStep.Proofs.Number.Comparison

/-!
# The order of sorted rows

Rows are sorted by a total preorder (`TotalPreorder`) that takes two rows for equal exactly when
they hold identical values in every BY variable, where an absent column counts as missing
(`Row.compareBy_totalPreorder`). On single values it is a total order: missing, then the numbers,
then the texts. Numbers come by their kind, the negative not-a-numbers first and the positive ones
last (`Number.rank`), finite ones by their values, and the negative zero before the other.
-/

set_option autoImplicit false

namespace DataStep

/-- A comparison is a total preorder: reflexive, turned round with its arguments, and transitive. -/
structure TotalPreorder {α : Type} (cmp : α → α → Ordering) : Prop where
  self : ∀ a, cmp a a = .eq
  swap : ∀ a b, cmp b a = (cmp a b).swap
  isLE_trans : ∀ a b c, (cmp a b).isLE → (cmp b c).isLE → (cmp a c).isLE
  trans : ∀ a b c o, cmp a b = o → cmp b c = o → cmp a c = o

theorem totalPreorder_of_transCmp {α : Type} (cmp : α → α → Ordering) [Std.TransCmp cmp] :
    TotalPreorder cmp where
  self _ := Std.ReflCmp.compare_self
  swap _ _ := Std.OrientedCmp.eq_swap
  isLE_trans _ _ _ := Std.TransCmp.isLE_trans
  trans a b c o hab hbc := by
    cases o with
    | lt => exact Std.TransCmp.lt_trans hab hbc
    | eq => exact Std.TransCmp.eq_trans hab hbc
    | gt => exact Std.TransCmp.gt_trans hab hbc

/-! ## Numbers -/

namespace Number

variable {x y : Number}

/-- The kind of a datum in the total order: not-a-numbers are the outermost, then the infinities. -/
def rank (x : Number) : Int :=
  let distance := if x.isNaN then 2 else if x.isInfinite then 1 else 0
  if x.negative then -distance else distance

/-- Data of different kinds are ordered by their kinds. -/
theorem compare_of_rank_lt (h : x.rank < y.rank) : x.compare y = .lt := by
  rw [compare, compare_lt_iff_lt]
  simp only [rank, isNaN, isInfinite, decide_eq_true_eq, beq_iff_eq] at h
  rw [orderKey, orderKey]
  split_ifs at h ⊢ <;> omega

/-- Finite numbers are ordered by their values. -/
theorem compare_of_toRat_lt (hx : x.isFinite = true) (hy : y.isFinite = true)
    (h : x.toRat < y.toRat) :
    x.compare y = .lt := by
  rw [compare, compare_lt_iff_lt]
  exact orderKey_lt_of_numericKey_lt (numericKey_lt_of_toRat_lt hx hy h)

/-- Data of the same bits are the same. -/
theorem toBits_inj : x.toBits = y.toBits ↔ x = y :=
  ⟨fun h => by rw [← ofBits_toBits x, h, ofBits_toBits], congrArg toBits⟩

end Number

/-! ## Values and rows -/

/-- Two values are identical: both are missing, or they are numbers of the same
bits, or the same text. -/
def Value.Identical : Value → Value → Prop
  | missing, missing => True
  | number x, number y => x.toBits = y.toBits
  | text s, text t => s = t
  | _, _ => False

theorem Value.identical_iff {a b : Value} : a.Identical b ↔ a = b := by
  cases a <;> cases b <;> simp [Identical, Number.toBits_inj]

/-- **Rows are sorted by a total preorder.** For every BY list the comparison of rows is a total
preorder, in which two rows are equal exactly when they hold identical values in every BY
variable. On single values it is a total order, with missing below all numbers and these below
all texts; numbers are ordered by their kinds, finite ones by their values, and the negative
zero is below the other. -/
theorem Row.compareBy_totalPreorder (vars : List String) :
    (TotalPreorder (compareBy vars) ∧
      ∀ a b, compareBy vars a b = .eq ↔ ∀ v ∈ vars, (value a v).Identical (value b v)) ∧
    (TotalPreorder Value.compare ∧ ∀ a b : Value, a.compare b = .eq ↔ a.Identical b) ∧
    (∀ x s, Value.missing.compare (.number x) = .lt ∧ Value.missing.compare (.text s) = .lt ∧
      (Value.number x).compare (.text s) = .lt) ∧
    (∀ x y : Number, x.rank < y.rank → (Value.number x).compare (.number y) = .lt) ∧
    (∀ x y : Number, x.isFinite = true → y.isFinite = true → x.toRat < y.toRat →
      (Value.number x).compare (.number y) = .lt) ∧
    (Value.number (.zero true)).compare (.number (.zero false)) = .lt := by
  refine ⟨⟨totalPreorder_of_transCmp _, fun a b => ?_⟩,
    ⟨totalPreorder_of_transCmp _, fun a b => ?_⟩,
    fun x s => ⟨rfl, rfl, rfl⟩, fun x y => Number.compare_of_rank_lt,
    fun x y => Number.compare_of_toRat_lt, by decide⟩
  · rw [compareBy_eq_iff]
    exact forall₂_congr fun v _ => Value.identical_iff.symm
  · rw [Value.compare_eq_iff, Value.identical_iff]

end DataStep
