import Pydart.ParquetFilter

/-! # Where the two comparisons part

Statistics are compared after widening to `f64` and with NaN unordered, a row is
compared after casting the literal and in the total order. For a row that matches
its filter and lies within its group's statistics, the hazards below are exactly
the cases in which the statistics rule the group out all the same.
-/

namespace Pydart

open Ieee Ieee.Format Binary

/-! ## The comparison of statistics -/

namespace ScalarValue

theorem le_float64 {a b : Binary binary64} :
    (float64 a).le (float64 b) = false ↔ Lt b a := by
  rw [← partialCmp_eq_gt_iff]
  simp [le, compare]

theorem lt_float64 {a b : Binary binary64} :
    (float64 a).lt (float64 b) = false ↔ Le b a := by
  have hcases : a.partialCmp b = some .lt ∨ a.partialCmp b = none ∨
      a.partialCmp b = some .eq ∨ a.partialCmp b = some .gt := by
    cases a.partialCmp b with
    | none => simp
    | some o => cases o <;> simp
  have hle : Le b a ↔ a.partialCmp b = some .eq ∨ a.partialCmp b = some .gt := by
    rw [partialCmp_eq_eq_iff, partialCmp_eq_gt_iff, Le, Same, Lt]
    constructor
    · rintro ⟨hb, ha, hkey⟩
      rcases lt_or_eq_of_le hkey with hlt | heq
      · exact Or.inr ⟨hb, ha, hlt⟩
      · exact Or.inl ⟨ha, hb, heq.symm⟩
    · rintro (⟨ha, hb, hkey⟩ | ⟨hb, ha, hkey⟩)
      · exact ⟨hb, ha, le_of_eq hkey.symm⟩
      · exact ⟨hb, ha, le_of_lt hkey⟩
  rw [hle]
  simp only [lt, compare]
  rcases hcases with h | h | h | h <;> simp [h]

theorem eq_float64 {a b : Binary binary64} :
    (float64 a).eq (float64 b) = true ↔ Same a b := by
  rw [← partialCmp_eq_eq_iff]
  simp [eq, compare]

end ScalarValue

/-- When a group with float bounds is skipped. -/
theorem couldMatchRange_float64 (op : Op) (w lo hi : Binary binary64) :
    couldMatchRange op (.float64 w) (some (.float64 lo)) (some (.float64 hi)) = false ↔
      match op with
      | .eq => Lt w lo ∨ Lt hi w
      | .ne => Same lo hi ∧ Same lo w
      | .lt => Le w lo
      | .le => Lt w lo
      | .gt => Le hi w
      | .ge => Lt hi w := by
  cases op with
  | eq =>
      simp only [couldMatchRange, Bool.and_eq_false_iff, ScalarValue.le_float64]
  | ne =>
      simp only [couldMatchRange, Bool.not_eq_eq_eq_not, Bool.not_false, Bool.and_eq_true,
        ScalarValue.eq_float64]
  | lt => exact ScalarValue.lt_float64
  | le => exact ScalarValue.le_float64
  | gt => exact ScalarValue.lt_float64
  | ge => exact ScalarValue.le_float64

theorem couldMatchRange_int64_float64 (op : Op) (v : Int64) (lo hi : Binary binary64) :
    couldMatchRange op (.int64 v) (some (.float64 lo)) (some (.float64 hi)) =
      couldMatchRange op (.float64 (asFloat64 v)) (some (.float64 lo)) (some (.float64 hi)) := by
  cases op <;> rfl

/-- Integer bounds are widened before they are compared with a float literal;
between themselves they are compared exactly. -/
theorem couldMatchRange_float64_int64 {op : Op} {w : Binary binary64} {lo hi : Int64} :
    couldMatchRange op (.float64 w) (some (.int64 lo)) (some (.int64 hi)) = false ↔
      match op with
      | .eq => Lt w (asFloat64 lo) ∨ Lt (asFloat64 hi) w
      | .ne => lo.toInt = hi.toInt ∧ Same (asFloat64 lo) w
      | .lt => Le w (asFloat64 lo)
      | .le => Lt w (asFloat64 lo)
      | .gt => Le (asFloat64 hi) w
      | .ge => Lt (asFloat64 hi) w := by
  cases op with
  | ne =>
      have hlo : (ScalarValue.int64 lo).eq (.int64 hi) = true ↔ lo.toInt = hi.toInt := by
        simp [ScalarValue.eq, ScalarValue.compare]
      simp only [couldMatchRange, Bool.not_eq_eq_eq_not, Bool.not_false, Bool.and_eq_true, hlo]
      rw [← ScalarValue.eq_float64]
      rfl
  | eq => exact couldMatchRange_float64 .eq w (asFloat64 lo) (asFloat64 hi)
  | lt => exact couldMatchRange_float64 .lt w (asFloat64 lo) (asFloat64 hi)
  | le => exact couldMatchRange_float64 .le w (asFloat64 lo) (asFloat64 hi)
  | gt => exact couldMatchRange_float64 .gt w (asFloat64 lo) (asFloat64 hi)
  | ge => exact couldMatchRange_float64 .ge w (asFloat64 lo) (asFloat64 hi)

/-! ## Float columns

The literal is seen twice: `w` widened, by the statistics, and `l` in the type of
the column, by the rows.
-/

/-- The rows match a NaN by its sign, the statistics do not know of it. -/
def NanHazard (op : Op) (w x lo hi : Binary binary64) : Prop :=
  x.isNaN = true ∧
    match op with
    | .eq => False
    | .ne => Same lo hi ∧ Same lo w
    | .lt => x.negative = true ∧ Le w lo
    | .le => x.negative = true ∧ Lt w lo
    | .gt => x.negative = false ∧ Le hi w
    | .ge => x.negative = false ∧ Lt hi w

/-- The rows tell the two zeros apart, the statistics do not. -/
def ZeroHazard (op : Op) (w x lo hi : Binary binary64) : Prop :=
  x.key = 0 ∧ w.key = 0 ∧ x.negative ≠ w.negative ∧
    match op with
    | .ne => lo.key = 0 ∧ hi.key = 0
    | .lt => x.negative = true ∧ lo.key = 0
    | .gt => x.negative = false ∧ hi.key = 0
    | _ => False

/-- The row is the literal as the column's type rounds it, the unrounded literal
lies outside the statistics. -/
def NarrowHazard (op : Op) (w l x lo hi : Binary binary64) : Prop :=
  x.key = l.key ∧
    match op with
    | .eq => Lt w lo ∨ Lt hi w
    | .le => Lt w lo
    | .ge => Lt hi w
    | _ => False

def FloatHazard (op : Op) (w l x lo hi : Binary binary64) : Prop :=
  NanHazard op w x lo hi ∨ ZeroHazard op w x lo hi ∨ NarrowHazard op w l x lo hi

/-- Rounding the literal to the column's type keeps it on its side of `x`. -/
structure Coarsens (w l x : Binary binary64) : Prop where
  isNaN : l.isNaN = w.isNaN
  negative : l.negative = w.negative
  le : w.key ≤ x.key → l.key ≤ x.key
  ge : x.key ≤ w.key → x.key ≤ l.key

theorem Coarsens.refl (w x : Binary binary64) : Coarsens w w x := ⟨rfl, rfl, id, id⟩

theorem couldMatchRange_nan {op : Op} {w l x lo hi : Binary binary64} (hx : x.isNaN = true)
    (hl : l.isNaN = false) (htrue : op.test (x.totalCmp l) = true) :
    couldMatchRange op (.float64 w) (some (.float64 lo)) (some (.float64 hi)) = false ↔
      NanHazard op w x lo hi := by
  rw [couldMatchRange_float64]
  unfold NanHazard
  rw [totalCmp_nan hx hl] at htrue
  cases hsign : x.negative <;> cases op <;> simp_all [Op.test]

theorem couldMatchRange_number {op : Op} {w l x lo hi : Binary binary64}
    (hw : w.isNaN = false) (hcoarse : Coarsens w l x) (hlo : Le lo x) (hhi : Le x hi)
    (htrue : op.test (x.totalCmp l) = true) :
    couldMatchRange op (.float64 w) (some (.float64 lo)) (some (.float64 hi)) = false ↔
      ZeroHazard op w x lo hi ∨ NarrowHazard op w l x lo hi := by
  obtain ⟨hnlo, -, hlo⟩ := hlo
  obtain ⟨-, hnhi, hhi⟩ := hhi
  have hxl := totalKey_lt_iff x l
  have hlx := totalKey_lt_iff l x
  have hsx := key_sign x
  have hsl := key_sign l
  have hsw := key_sign w
  have hneg := hcoarse.negative
  have hle := hcoarse.le
  have hge := hcoarse.ge
  rw [couldMatchRange_float64]
  rw [totalCmp, Op.test_compare] at htrue
  simp only [ZeroHazard, NarrowHazard, Le, Lt, Same, hnlo, hnhi, hw, true_and]
  cases op with
  | eq =>
      have heq : x.key = l.key := by rw [totalKey_injective htrue]
      simp [heq]
  | ne =>
      have hne : x ≠ l := fun h => htrue (by rw [h])
      have hzero : x.key = l.key → x.key = 0 ∧ x.negative ≠ l.negative := by
        intro heq
        refine ⟨?_, fun hs => hne (eq_of_key_eq heq hs)⟩
        rcases key_eq_iff.mp heq with h | ⟨hx0, -⟩
        · exact absurd h hne
        · exact key_eq_zero_iff.mpr hx0
      constructor
      · rintro ⟨h₁, h₂⟩
        obtain ⟨h0, hs⟩ := hzero (by omega)
        rw [hneg] at hs
        exact Or.inl ⟨h0, by omega, hs, by omega, by omega⟩
      · rintro (⟨-, hw0, -, h₁, h₂⟩ | ⟨-, h⟩)
        · omega
        · exact h.elim
  | lt =>
      constructor
      · intro h
        rcases hxl.mp htrue with hlt | ⟨heq, hxs, hls⟩
        · omega
        · have := hsx.1 hxs
          have := hsl.2 hls
          have := hsw.2 (hneg ▸ hls)
          exact Or.inl ⟨by omega, by omega, by rw [hxs, ← hneg, hls]; decide, hxs, by omega⟩
      · rintro (⟨-, hw0, -, -, h⟩ | ⟨-, h⟩)
        · omega
        · exact h.elim
  | le =>
      have hkey : x.key ≤ l.key := key_le_of_totalKey_le htrue
      constructor
      · intro h
        exact Or.inr ⟨by omega, h⟩
      · rintro (⟨-, -, -, h⟩ | ⟨-, h⟩)
        · exact h.elim
        · exact h
  | gt =>
      constructor
      · intro h
        rcases hlx.mp htrue with hlt | ⟨heq, hls, hxs⟩
        · omega
        · have := hsx.2 hxs
          have := hsl.1 hls
          have := hsw.1 (hneg ▸ hls)
          exact Or.inl ⟨by omega, by omega, by rw [hxs, ← hneg, hls]; decide, hxs, by omega⟩
      · rintro (⟨-, hw0, -, -, h⟩ | ⟨-, h⟩)
        · omega
        · exact h.elim
  | ge =>
      have hkey : l.key ≤ x.key := key_le_of_totalKey_le htrue
      constructor
      · intro h
        exact Or.inr ⟨by omega, h⟩
      · rintro (⟨-, -, -, h⟩ | ⟨-, h⟩)
        · exact h.elim
        · exact h

theorem couldMatchRange_nan_literal (op : Op) {w : Binary binary64} (hw : w.isNaN = true)
    (lo hi : Binary binary64) :
    couldMatchRange op (.float64 w) (some (.float64 lo)) (some (.float64 hi)) = true := by
  rw [← Bool.not_eq_false, couldMatchRange_float64]
  cases op <;> simp [Le, Lt, Same, hw]

theorem not_floatHazard_nan_literal {op : Op} {w l x lo hi : Binary binary64}
    (hw : w.isNaN = true) : ¬ FloatHazard op w l x lo hi := by
  have hkey : w.key ≠ 0 := by
    have := isNaN_iff.mp hw
    have := binary64.infinity_pos
    omega
  rintro (⟨-, h⟩ | ⟨-, h, -⟩ | ⟨-, h⟩)
  · cases op <;> simp [Le, Lt, Same, hw] at h
  · exact hkey h
  · cases op <;> simp [Lt, hw] at h

/-- For a row that matches and lies within the bounds, a float group is skipped
exactly under a hazard. -/
theorem couldMatchRange_floatHazard {op : Op} {w l x lo hi : Binary binary64}
    (hnan : l.isNaN = w.isNaN) (hcoarse : x.isNaN = false → w.isNaN = false → Coarsens w l x)
    (hbound : x.isNaN = false → Le lo x ∧ Le x hi) (htrue : op.test (x.totalCmp l) = true) :
    couldMatchRange op (.float64 w) (some (.float64 lo)) (some (.float64 hi)) = false ↔
      FloatHazard op w l x lo hi := by
  cases hw : w.isNaN with
  | true =>
      rw [couldMatchRange_nan_literal op hw]
      simp [not_floatHazard_nan_literal hw]
  | false =>
      rw [hw] at hnan
      cases hx : x.isNaN with
      | true =>
          rw [couldMatchRange_nan hx hnan htrue, FloatHazard]
          have hkey : x.key ≠ 0 ∧ x.key ≠ l.key := by
            have := isNaN_iff.mp hx
            have := isNaN_eq_false_iff.mp hnan
            have := binary64.infinity_pos
            omega
          simp [ZeroHazard, NarrowHazard, hkey]
      | false =>
          obtain ⟨hlo, hhi⟩ := hbound hx
          rw [couldMatchRange_number hw (hcoarse hx hw) hlo hhi htrue, FloatHazard]
          unfold NanHazard
          simp [hx]

/-! ## Integer columns against a float literal -/

/-- Whole literals: the rows compare integers, the statistics round them first.
Fractional literals: the rows see the literal truncated. -/
def IntHazard (op : Op) (v : Binary binary64) (x lo hi : Int) : Prop :=
  if (v.truncate : ℚ) = v.toRat then
    match op with
    | .ne => x ≠ v.truncate ∧ lo = hi ∧ (ofInt binary64 lo).key = v.key
    | .lt => x < v.truncate ∧ (ofInt binary64 lo).key = v.key
    | .gt => v.truncate < x ∧ (ofInt binary64 hi).key = v.key
    | _ => False
  else
    x = v.truncate ∧
      ((v.negative = false ∧ x = hi ∧ (op = .eq ∨ op = .ge)) ∨
        (v.negative = true ∧ x = lo ∧ (op = .eq ∨ op = .le)))

/-- A fractional datum splits the integers just above or below its truncation. -/
theorem lt_toRat_iff_of_fractional {v : Binary binary64} (hv : (v.truncate : ℚ) ≠ v.toRat)
    (a : Int) :
    ((a : ℚ) < v.toRat ↔ if v.negative then a < v.truncate else a ≤ v.truncate) ∧
      (v.toRat < (a : ℚ) ↔ if v.negative then v.truncate ≤ a else v.truncate < a) := by
  have hcast : ∀ b : Int, (b : ℚ) < v.toRat ∨ v.toRat < (b : ℚ) ∨ (b : ℚ) = v.toRat :=
    fun b => by rcases lt_trichotomy (b : ℚ) v.toRat with h | h | h <;> simp [h]
  cases hneg : v.negative with
  | false =>
      obtain ⟨hlo, hhi⟩ := truncate_bounds_of_not_negative hneg
      have hlo' : (v.truncate : ℚ) < v.toRat := lt_of_le_of_ne hlo hv
      simp only [Bool.false_eq_true, if_false]
      constructor
      · constructor
        · intro h
          have : (a : ℚ) < (v.truncate + 1 : Int) := by
            push_cast
            exact lt_trans h hhi
          have : a < v.truncate + 1 := by exact_mod_cast this
          omega
        · intro h
          exact lt_of_le_of_lt (by exact_mod_cast h) hlo'
      · constructor
        · intro h
          exact_mod_cast lt_trans hlo' h
        · intro h
          have : (v.truncate : ℚ) + 1 ≤ a := by exact_mod_cast h
          exact lt_of_lt_of_le hhi this
  | true =>
      obtain ⟨hlo, hhi⟩ := truncate_bounds_of_negative hneg
      have hhi' : v.toRat < (v.truncate : ℚ) := lt_of_le_of_ne hhi (Ne.symm hv)
      simp only [if_true]
      constructor
      · constructor
        · intro h
          exact_mod_cast lt_trans h hhi'
        · intro h
          have : (a : ℚ) ≤ v.truncate - 1 := by
            have : a ≤ v.truncate - 1 := by omega
            exact_mod_cast this
          exact lt_of_le_of_lt this hlo
      · constructor
        · intro h
          have : ((v.truncate - 1 : Int) : ℚ) < a := by
            push_cast
            exact lt_trans hlo h
          have : v.truncate - 1 < a := by exact_mod_cast this
          omega
        · intro h
          exact lt_of_lt_of_le hhi' (by exact_mod_cast h)

theorem couldMatchRange_whole {op : Op} {v : Binary binary64} (hfin : v.isFinite = true)
    (hv : (v.truncate : ℚ) = v.toRat) {x : Int} {lo hi : Int64} (hlo : lo.toInt ≤ x)
    (hhi : x ≤ hi.toInt) (htrue : op.Holds x v.truncate) :
    couldMatchRange op (.float64 v) (some (.int64 lo)) (some (.int64 hi)) = false ↔
      IntHazard op v x lo.toInt hi.toInt := by
  have hnan := isNaN_eq_false_of_isFinite hfin
  have hbelow : ∀ a : Int64, a.toInt ≤ v.truncate → (asFloat64 a).key ≤ v.key := by
    intro a ha
    apply ofInt_key_le_of_le hfin
    rw [← hv]
    exact_mod_cast ha
  have habove : ∀ a : Int64, v.truncate ≤ a.toInt → v.key ≤ (asFloat64 a).key := by
    intro a ha
    apply le_ofInt_key_of_le hfin
    rw [← hv]
    exact_mod_cast ha
  have hwide : ∀ a : Int64, (asFloat64 a).isNaN = false := fun a => ofInt_not_nan _ _
  have hkey : ∀ a : Int64, (ofInt binary64 a.toInt).key = (asFloat64 a).key := fun _ => rfl
  rw [couldMatchRange_float64_int64]
  unfold IntHazard
  rw [if_pos hv, hkey, hkey]
  have hblo := hbelow lo
  have halo := habove lo
  have hbhi := hbelow hi
  have hahi := habove hi
  simp only [Le, Lt, Same, hnan, hwide, true_and]
  cases op with
  | eq =>
      have hx : x = v.truncate := htrue
      simp only [iff_false, not_or]
      omega
  | ne =>
      have hx : x ≠ v.truncate := htrue
      simp only [hx, ne_eq, not_false_eq_true, true_and]
  | lt =>
      have hx : x < v.truncate := htrue
      simp only [hx, true_and]
      omega
  | le =>
      have hx : x ≤ v.truncate := htrue
      simp only [iff_false]
      omega
  | gt =>
      have hx : v.truncate < x := htrue
      simp only [hx, true_and]
      omega
  | ge =>
      have hx : v.truncate ≤ x := htrue
      simp only [iff_false]
      omega

theorem couldMatchRange_fractional {op : Op} {v : Binary binary64} (hfin : v.isFinite = true)
    (hv : (v.truncate : ℚ) ≠ v.toRat) {x : Int} {lo hi : Int64} (hlo : lo.toInt ≤ x)
    (hhi : x ≤ hi.toInt) (htrue : op.Holds x v.truncate) :
    couldMatchRange op (.float64 v) (some (.int64 lo)) (some (.int64 hi)) = false ↔
      IntHazard op v x lo.toInt hi.toInt := by
  have hnan := isNaN_eq_false_of_isFinite hfin
  have hwide : ∀ a : Int64, (asFloat64 a).isNaN = false := fun a => ofInt_not_nan _ _
  have hsplit : ∀ a : Int64,
      ((asFloat64 a).key < v.key ↔
        if v.negative then a.toInt < v.truncate else a.toInt ≤ v.truncate) ∧
      (v.key < (asFloat64 a).key ↔
        if v.negative then v.truncate ≤ a.toInt else v.truncate < a.toInt) := by
    intro a
    obtain ⟨h₁, h₂⟩ := ofInt_key_lt_of_fractional hfin hv (a := a.toInt)
    obtain ⟨h₃, h₄⟩ := lt_toRat_iff_of_fractional hv a.toInt
    exact ⟨h₁.trans h₃, h₂.trans h₄⟩
  obtain ⟨hlo₁, hlo₂⟩ := hsplit lo
  obtain ⟨hhi₁, hhi₂⟩ := hsplit hi
  rw [couldMatchRange_float64_int64]
  unfold IntHazard
  rw [if_neg hv]
  simp only [Le, Lt, Same, hnan, hwide, true_and]
  cases hneg : v.negative <;> cases op <;>
    simp only [hneg, Bool.false_eq_true, if_false, if_true, Op.Holds, reduceCtorEq, false_and,
      true_and, and_true, and_false, or_false, false_or, or_self, iff_false] at * <;> omega

/-- For a row that matches the truncated literal and lies within the bounds, an
integer group is skipped exactly under a hazard. -/
theorem couldMatchRange_intHazard {op : Op} {v : Binary binary64} (hfin : v.isFinite = true)
    {x : Int} {lo hi : Int64} (hlo : lo.toInt ≤ x) (hhi : x ≤ hi.toInt)
    (htrue : op.Holds x v.truncate) :
    couldMatchRange op (.float64 v) (some (.int64 lo)) (some (.int64 hi)) = false ↔
      IntHazard op v x lo.toInt hi.toInt := by
  by_cases hv : (v.truncate : ℚ) = v.toRat
  · exact couldMatchRange_whole hfin hv hlo hhi htrue
  · exact couldMatchRange_fractional hfin hv hlo hhi htrue

/-- Integers on both sides are compared exactly, so no matching row is lost. -/
theorem couldMatchRange_int64 {op : Op} {v lo hi : Int64} {x : Int} (hlo : lo.toInt ≤ x)
    (hhi : x ≤ hi.toInt) (htrue : op.Holds x v.toInt) :
    couldMatchRange op (.int64 v) (some (.int64 lo)) (some (.int64 hi)) = true := by
  cases op <;>
    simp only [Op.Holds, couldMatchRange, ScalarValue.le, ScalarValue.lt, ScalarValue.eq,
      ScalarValue.compare] at * <;>
    simp [compare_gt_iff_gt, compare_lt_iff_lt] <;> omega

theorem couldMatchRange_bool (op : Op) {v lo hi x : Bool} (hlo : lo ≤ x) (hhi : x ≤ hi)
    (htrue : op.Holds x v) :
    couldMatchRange op (.bool v) (some (.bool lo)) (some (.bool hi)) = true := by
  revert hlo hhi htrue
  cases op <;> revert v lo hi x <;> decide

end Pydart
