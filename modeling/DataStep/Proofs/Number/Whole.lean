import DataStep.Proofs.Number.Exact

/-!
# Numbers that are whole

A number counts as an integer if it is numerically equal to the number of the integer, so that zero
counts in both signs (`Number.Counts`). For integers of up to 53 bits this says what the number is
but for the sign of a zero, so its whole part is the integer (`Counts.toInt_eq`), and rounding it
down changes nothing (`Counts.floor`).
-/

set_option autoImplicit false

namespace DataStep.Number

variable {x : Number} {n : Nat} {i : Int}

/-! ## Whole values -/

theorem ratio_of_absValue (h : x.absValue = n) : x.ratio.1 = n * x.ratio.2 := by
  have hpos : (x.ratio.2 : ℚ) ≠ 0 := by exact_mod_cast x.ratio_snd_pos.ne'
  rw [absValue, div_eq_iff hpos] at h
  exact_mod_cast h

/-- The whole part of a number with a whole absolute value. -/
theorem toInt_of_absValue (hfinite : x.isFinite = true) (h : x.absValue = n) :
    x.toInt = if x.negative then -(n : Int) else n := by
  rw [toInt, if_pos hfinite, ratio_of_absValue h, Nat.mul_div_cancel _ x.ratio_snd_pos]

/-- Such a number is rounded down to itself. -/
theorem floor_of_absValue (hfinite : x.isFinite = true) (h : x.absValue = n) :
    x.floor = whole x.negative n := by
  have hup : (n * x.ratio.2 + x.ratio.2 - 1) / x.ratio.2 = n := by
    have hpos := x.ratio_snd_pos
    rw [Nat.add_sub_assoc hpos, Nat.mul_comm, Nat.mul_add_div hpos,
      Nat.div_eq_of_lt (by omega), Nat.add_zero]
  rw [floor, roundBy, if_pos hfinite, ratio_of_absValue h, hup,
    Nat.mul_div_cancel _ x.ratio_snd_pos, ite_self]

/-! ## Numbers that count as integers -/

/-- A number is numerically equal to an integer. -/
def Counts (x : Number) (i : Int) : Prop := x.equals (ofInt i) = true

instance (x : Number) (i : Int) : Decidable (x.Counts i) := inferInstanceAs (Decidable (_ = true))

theorem absValue_of_isZero (h : x.isZero = true) : x.isFinite = true ∧ x.absValue = 0 := by
  have hmagnitude : x.magnitude = 0 := beq_iff_eq.1 h
  refine ⟨isFinite_iff.2 ?_, absValue_of_magnitude hmagnitude⟩
  rw [hmagnitude]
  norm_num

namespace Counts

/-- **A number that counts as an integer of up to 53 bits is finite and has its absolute value and,
unless it is zero, its sign.** -/
theorem value (h : x.Counts i) (hi : i.natAbs < 2 ^ 53) :
    x.isFinite = true ∧ x.absValue = i.natAbs ∧ (i ≠ 0 → x.negative = decide (i < 0)) := by
  have hvalue : (ofInt i).absValue = i.natAbs := absValue_whole hi
  have horder : x.partialCompare (ofInt i) = some .eq := beq_iff_eq.1 h
  rw [partialCompare] at horder
  split at horder
  · cases horder
  · split at horder
    · -- both are zeros
      rename_i hzeros
      obtain ⟨hx, hzero⟩ := (Bool.and_eq_true _ _).mp hzeros
      obtain ⟨hfinite, habs⟩ := absValue_of_isZero hx
      have hnat : i.natAbs = 0 := by
        rw [(absValue_of_isZero hzero).2] at hvalue
        exact_mod_cast hvalue.symm
      rw [hnat]
      exact ⟨hfinite, habs.trans Nat.cast_zero.symm,
        fun hne => absurd (Int.natAbs_eq_zero.1 hnat) hne⟩
    · have hsame : x = ofInt i := orderKey_inj (compare_eq_iff_eq.1 (Option.some.inj horder))
      subst hsame
      exact ⟨isFinite_whole (by norm_num) hi, hvalue, fun _ => rfl⟩

/-- The whole part of a number that counts as an integer is the integer. -/
theorem toInt_eq (h : x.Counts i) (hi : i.natAbs < 2 ^ 53) : x.toInt = i := by
  obtain ⟨hfinite, hvalue, hsign⟩ := h.value hi
  rw [toInt_of_absValue hfinite hvalue]
  rcases eq_or_ne i 0 with rfl | hne
  · split <;> rfl
  · rw [hsign hne]
    by_cases hneg : i < 0
    · rw [if_pos (decide_eq_true hneg)]
      omega
    · rw [if_neg (by simpa using hneg)]
      omega

/-- A number that counts as an integer does so, too, when it is rounded down. -/
theorem floor (h : x.Counts i) (hi : i.natAbs < 2 ^ 53) :
    x.floor.isFinite = true ∧ x.floor.toInt = i := by
  obtain ⟨hfinite, hvalue, hsign⟩ := h.value hi
  have hround : x.floor = whole x.negative i.natAbs := floor_of_absValue hfinite hvalue
  have hfloor : x.floor.isFinite = true := hround ▸ isFinite_whole (by norm_num) hi
  refine ⟨hfloor, ?_⟩
  -- rounding keeps the sign, and with it the whole part
  have hnegative : x.floor.negative = x.negative := hround ▸ rfl
  have habs : x.floor.absValue = i.natAbs := hround ▸ absValue_whole hi
  rw [toInt_of_absValue hfloor habs, hnegative, ← toInt_of_absValue hfinite hvalue]
  exact h.toInt_eq hi

end Counts

/-- The number of an integer counts as the integer. -/
theorem counts_ofInt (i : Int) : (ofInt i).Counts i := by
  have hself : (ofInt i).compare (ofInt i) = .eq := compare_eq_iff_eq.2 rfl
  have hnan : (ofInt i).isNaN = false := isNaN_ofRatio _ _ _
  rw [Counts, equals, partialCompare, hnan, hself]
  cases (ofInt i).isZero <;> rfl

end DataStep.Number
