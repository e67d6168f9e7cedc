import DataStep.Proofs.Evaluation
import DataStep.Proofs.Number.Integer

/-!
# Parts of a text

What `substr` answers, in terms of the places of a text. A position and a length count by
their whole parts (`Value.WholePart`), a length may be left out or be no number (`Limits`),
and the part that they select is given by its first and its last place (`selected`), with no
word on how it is cut out.

Main statement: on every text `substr` answers the part selected, so that a text is put
together again from its parts before and behind any place, and a part of a part is a part of
the text (`substr_slices`).
-/

set_option autoImplicit false

namespace DataStep

/-- A value counts as a finite number that has an integer for its whole part. -/
def Value.WholePart (v : Value) (i : Int) : Prop :=
  ∃ x, v.toNumber? = some x ∧ x.isFinite = true ∧ x.wholePart = i

namespace Value

variable {v : Value} {i : Int}

/-- An integer up to `2 ^ 53` is the whole part of its number. -/
theorem wholePart_ofInt (hi : i.natAbs ≤ 2 ^ 53) : (Value.number (.ofInt i)).WholePart i :=
  ⟨.ofInt i, rfl, (Number.isInt_ofInt hi).1, (Number.isInt_ofInt hi).wholePart_eq⟩

/-- Whole parts can be computed, by the conversion to an integer. -/
theorem wholePart_iff :
    v.WholePart i ↔ (v.toNumber?.any fun x => x.isFinite && decide (x.toInt = i)) = true := by
  simp only [Option.any_eq_true, Bool.and_eq_true, decide_eq_true_eq]
  refine exists_congr fun x => and_congr_right fun _ => and_congr_right fun hfinite => ?_
  rw [Number.toInt_eq_wholePart hfinite]

instance (v : Value) (i : Int) : Decidable (v.WholePart i) := decidable_of_iff _ wholePart_iff.symm

end Value

namespace Builtin

variable {cs : List Char} {x : Number} {position : Value} {length : Option Value} {s : String}
  {first last p l : Int} {limit : Option Int}

/-! ## Places -/

/-- The characters at the places from the first to the last one given. Places count from one. -/
def between (first last : Int) (cs : List Char) : List Char :=
  ((cs.zipIdx 1).filter fun e => decide (first ≤ e.2 ∧ e.2 ≤ last)).map (·.1)

/-- The places of a list may begin anywhere. -/
theorem filter_zipIdx (first last : Int) (cs : List Char) (start : Nat) :
    ((cs.zipIdx start).filter fun e => decide (first ≤ e.2 ∧ e.2 ≤ last)).map (·.1) =
      (cs.take (last + 1 - start).toNat).drop (first - start).toNat := by
  induction cs generalizing start with
  | nil => simp
  | cons c cs ih =>
    rw [List.zipIdx_cons]
    rcases Int.lt_or_le last start with hpast | hlast
    · -- behind the last place nothing is left to take
      have hnone : (last + 1 - start).toNat = 0 := by omega
      have hnext : (last + 1 - (start + 1 : Nat)).toNat = 0 := by omega
      rw [List.filter_cons_of_neg (by simp [hpast]), ih, hnone, hnext]
      simp
    · obtain ⟨m, htake, hnext⟩ : ∃ m, (last + 1 - start).toNat = m + 1 ∧
          (last + 1 - (start + 1 : Nat)).toNat = m :=
        ⟨(last - start).toNat, by omega, by omega⟩
      rw [htake, List.take_succ_cons]
      rcases Int.lt_or_le start first with hbefore | hfirst
      · -- in front of the first place a character is dropped
        obtain ⟨k, hdrop, hdropped⟩ : ∃ k, (first - start).toNat = k + 1 ∧
            (first - (start + 1 : Nat)).toNat = k :=
          ⟨(first - start - 1).toNat, by omega, by omega⟩
        rw [List.filter_cons_of_neg (by simp [hbefore]), ih, hnext, hdropped,
          hdrop, List.drop_succ_cons]
      · -- from there on no other one is
        have hdrop : (first - start).toNat = 0 := by omega
        have hdropped : (first - (start + 1 : Nat)).toNat = 0 := by omega
        rw [List.filter_cons_of_pos (by simp [hfirst, hlast]), List.map_cons,
          ih, hnext, hdropped, hdrop, List.drop_zero, List.drop_zero]

theorem between_eq (first last : Int) (cs : List Char) :
    between first last cs = (cs.take last.toNat).drop (first - 1).toNat := by
  have hlast : last + 1 - (1 : Nat) = last := by omega
  rw [between, filter_zipIdx, hlast, Nat.cast_one]

/-! ## Selections -/

/-- The last place of a selection of up to so many characters, or else of all to the end. -/
def lastPlace (n : Nat) (p : Int) : Option Int → Int
  | none => n
  | some l => min (p + l - 1) n

/-- The part of a text from a place on, up to a length or to the end. It is empty at a place outside
the text and for a length below one. -/
def selected (cs : List Char) (p : Int) (limit : Option Int) : List Char :=
  if p < 1 ∨ cs.length < p ∨ limit.any (· < 1) then
    [] else between p (lastPlace cs.length p limit) cs

theorem selected_none (hp : 1 ≤ p) : selected cs p none = cs.drop (p - 1).toNat := by
  rw [selected, Option.any_none]
  split
  case isTrue hout =>
    have hbehind : cs.length < p := by simpa [hp.not_gt] using hout
    rw [List.drop_eq_nil_of_le (by omega)]
  case isFalse => rw [between_eq, lastPlace, Int.toNat_natCast, List.take_length]

theorem selected_some (hp : 1 ≤ p) :
    selected cs p (some l) = (cs.drop (p - 1).toNat).take l.toNat := by
  rw [selected, Option.any_some]
  simp only [decide_eq_true_eq]
  split
  case isTrue hout =>
    rcases hout with hbefore | hbehind | hnone
    · omega
    · rw [List.drop_eq_nil_of_le (by omega), List.take_nil]
    · rw [Int.toNat_of_nonpos (by omega), List.take_zero]
  case isFalse hin =>
    rw [between_eq, lastPlace, List.drop_take, List.take_eq_take_iff, List.length_drop]
    omega

/-- What a length argument says. The selection goes to the end without one and with
one that is no number. -/
inductive Limits : Option Value → Option Int → Prop
  | omitted : Limits none none
  | missing {v : Value} (h : v.toNumber? = none) : Limits (some v) none
  | whole {v : Value} {l : Int} (h : v.WholePart l) : Limits (some v) (some l)

/-- A negative number has no positive whole part. -/
theorem toInt_of_negative (h : x.negative = true) : x.toInt ≤ 0 := by
  rw [Number.toInt, h]
  split
  · exact Int.neg_nonpos_of_nonneg (Int.natCast_nonneg _)
  · exact le_rfl

theorem sliceLength_eq (h : Limits length limit) (left : Nat) :
    sliceLength left length = limit.elim left fun l => min l.toNat left := by
  cases h with
  | omitted => rfl
  | missing h => simp [sliceLength, h]
  | whole h =>
    obtain ⟨x, hx, hfinite, rfl⟩ := h
    have hinteger := Number.toInt_eq_wholePart hfinite
    rw [sliceLength, hx]
    cases hnegative : x.negative with
    | false => simp [hnegative, hinteger, Number.isNaN_of_isFinite hfinite,
        Number.isInfinite_of_isFinite hfinite]
    | true =>
      -- a zero with a sign included
      have hnone : x.wholePart.toNat = 0 := by
        have hle := toInt_of_negative hnegative
        omega
      simp [hnegative, hnone]

/-- **A slice is the part that the whole parts of its position and its length select.** -/
theorem slice_eq (cs : List Char) (hfinite : x.isFinite = true) (hp : x.wholePart = p)
    (hlimit : Limits length limit) : slice cs x length = .ok (selected cs p limit) := by
  rw [slice, if_neg (by simp [Number.isNaN_of_isFinite hfinite])]
  dsimp only
  rw [Number.isInfinite_of_isFinite hfinite, Number.toInt_eq_wholePart hfinite, hp]
  split
  case isTrue hout =>
    have hplace : p < 1 ∨ cs.length < p := by simpa using hout
    rw [selected, if_pos (by tauto)]
  case isFalse hin =>
    have hplace : 1 ≤ p ∧ p ≤ cs.length := by simpa using hin
    have hskip : p.toNat - 1 = (p - 1).toNat := by omega
    rw [sliceLength_eq hlimit, hskip]
    cases limit with
    | none => rw [selected_none hplace.1, Option.elim_none, List.take_length]
    | some l =>
      rw [selected_some hplace.1, Option.elim_some, ← List.take_take, List.take_length]

/-! ## Calls -/

theorem answers_substr (hp : position.WholePart p) (hlimit : Limits length limit) :
    Answers "substr" ([.text s, position] ++ length.toList)
      (.text (String.ofList (selected s.toList p limit))) := by
  obtain ⟨x, hx, hfinite, hwhole⟩ := hp
  have hname : ofName? "substr" = some substr := by decide +kernel
  have hslice := slice_eq s.toList hfinite hwhole hlimit
  intro currentDay log
  have happly : substr.apply currentDay ([.text s, position] ++ length.toList) =
      substring (.text s) position length := by
    cases length <;> rfl
  have htext : (liftM (substr.textArgument (.text s)) : EvalM String).start log =
      .ok (.ok s, log) := rfl
  rw [call, hname]
  dsimp only
  rw [happly, substring, Run.start_bind_of_ok htext, hx]
  dsimp only
  rw [hslice]
  rfl

/-- **What `substr` answers for the parts of a text.** -/
structure Slices (s : String) : Prop where
  answers : ∀ position length p limit, position.WholePart p → Limits length limit →
    Answers "substr" ([.text s, position] ++ length.toList)
      (.text (String.ofList (selected s.toList p limit)))
  /-- The parts before and behind a place make up the text. -/
  splits : ∀ (start count next : Value) k, 0 ≤ k → start.WholePart 1 → count.WholePart k →
    next.WholePart (k + 1) → ∃ before behind,
      Answers "substr" [.text s, start, count] (.text before) ∧
      Answers "substr" [.text s, next] (.text behind) ∧ before ++ behind = s
  /-- A part of a part is a part of the text. -/
  nests : ∀ (outer inner direct : Value) p q, 1 ≤ p → 1 ≤ q →
    outer.WholePart p → inner.WholePart q →
    direct.WholePart (p + q - 1) → ∃ rest part, Answers "substr" [.text s, outer] (.text rest) ∧
      Answers "substr" [.text rest, inner] (.text part) ∧
      Answers "substr" [.text s, direct] (.text part)

/-- **On every text `substr` answers the part that the whole parts of its position
and its length select.** -/
theorem substr_slices (s : String) : Slices s where
  answers _ _ _ _ hp hlimit := answers_substr hp hlimit
  splits start count next k hk hstart hcount hnext := by
    have hbefore := answers_substr (s := s) hstart (.whole hcount)
    have hbehind := answers_substr (s := s) hnext .omitted
    refine ⟨_, _, hbefore, hbehind, ?_⟩
    rw [← String.ofList_append, selected_some le_rfl, selected_none (by omega)]
    simp
  nests outer inner direct p q hp hq houter hinner hdirect := by
    have hrest := answers_substr (s := s) houter .omitted
    have hpart := answers_substr (s := String.ofList (selected s.toList p none)) hinner .omitted
    have hdirectly := answers_substr (s := s) hdirect .omitted
    refine ⟨_, _, hrest, hpart, ?_⟩
    have hplaces : (p - 1).toNat + (q - 1).toNat = (p + q - 1 - 1).toNat := by omega
    rw [String.toList_ofList, selected_none hp, selected_none hq, List.drop_drop, hplaces,
      ← selected_none (by omega)]
    exact hdirectly

/-- Control: characters of several bytes, a position with a fraction, a length that is missing, and
one that reaches behind the end. -/
theorem substr_slices_fraction :
    Answers "substr" [.text "aé😀z", .text "2.9", .missing] (.text "é😀z") ∧
      Answers "substr" [.text "aé😀z", .text "2.9", .number (.ofInt 7)] (.text "é😀z") ∧
      ∃ before behind, Answers "substr" [.text "aé😀z", .text "1.5", .text "2.9"] (.text before) ∧
        Answers "substr" [.text "aé😀z", .number (.ofInt 3)] (.text behind) ∧
        before ++ behind = "aé😀z" := by
  have htext := substr_slices "aé😀z"
  have hposition : (Value.text "2.9").WholePart 2 := by decide +kernel
  have hlength : (Value.number (.ofInt 7)).WholePart 7 := Value.wholePart_ofInt (by decide)
  have hselected : String.ofList (selected "aé😀z".toList 2 none) = "é😀z" := by decide +kernel
  have hlimited : String.ofList (selected "aé😀z".toList 2 (some 7)) = "é😀z" := by decide +kernel
  have hmissing := htext.answers _ (some .missing) _ _ hposition (.missing rfl)
  have hlong := htext.answers _ _ _ _ hposition (.whole hlength)
  rw [hselected] at hmissing
  rw [hlimited] at hlong
  exact ⟨hmissing, hlong, htext.splits _ _ _ 2 (by decide) (by decide +kernel) hposition
    (Value.wholePart_ofInt (by decide))⟩

end Builtin

end DataStep
