import Pydart.Parquet.Integers

/-! # Literals of the other numeric kind

The row predicate converts the literal, not the column: a float literal is
truncated for an integer column and an integer literal is rounded for a float
column. The verdict is the comparison of the exact values except where stated.
-/

namespace Pydart

open Ieee Ieee.Format Binary

/-- Where a finite float literal is compared exactly with an integer `n`: in range,
unless it is fractional and `n` is its truncation; out of range, for the operators
that hold of no value of the column. -/
def IntegerColumnExact (t : DataType) (op : Op) (v : Binary binary64) (n : Int) : Prop :=
  if t.fits v.truncate then
    (v.truncate : ℚ) = v.toRat ∨ n ≠ v.truncate ∨
      (if v.negative then op = .lt ∨ op = .ge else op = .le ∨ op = .gt)
  else if v.negative then op = .eq ∨ op = .lt ∨ op = .le
  else op = .eq ∨ op = .gt ∨ op = .ge

/-- Where an integer literal is compared exactly with a float `x`: unless `x` is
the rounded literal and either the rounding moved it or `x` is negative zero. -/
def FloatColumnExact (op : Op) (v : Int64) (x : Binary binary64) : Prop :=
  x.key ≠ (asFloat64 v).key ∨ (x = asFloat64 v ∧ x.toRat = (v.toInt : ℚ)) ∨
    (if (v.toInt : ℚ) < x.toRat then op = .lt ∨ op = .ge else op = .le ∨ op = .gt)

/-! ## Integer columns -/

theorem fits_iff_of_zero {t : DataType} (ht : t.isInteger = true) {m n : Int}
    (hm : t.fits m = false) (hn : t.fits n = true) : (0 ≤ m → n < m) ∧ (m ≤ 0 → m < n) := by
  obtain ⟨lo, hi, -, -, hfits⟩ := integerBounds_spec ht
  have hzero : t.fits 0 = true := by
    cases t <;> first | decide | cases ht
  have h0 := (hfits 0).mp hzero
  have hm' : ¬ (lo ≤ m ∧ m ≤ hi) := by
    rw [← hfits, hm]
    decide
  have hn' := (hfits n).mp hn
  omega

theorem truncate_sign (v : Binary binary64) :
    (v.negative = false → 0 ≤ v.truncate ∧ (v.truncate : ℚ) ≤ v.toRat) ∧
      (v.negative = true → v.truncate ≤ 0 ∧ v.toRat ≤ v.truncate) := by
  constructor
  · intro hneg
    refine ⟨?_, (truncate_bounds_of_not_negative hneg).1⟩
    simp only [truncate, hneg, Bool.false_eq_true, if_false]
    exact Int.natCast_nonneg _
  · intro hneg
    refine ⟨?_, (truncate_bounds_of_negative hneg).2⟩
    simp only [truncate, hneg, if_true]
    exact Int.neg_nonpos_of_nonneg (Int.natCast_nonneg _)

theorem holds_truncate_iff {v : Binary binary64} (hv : (v.truncate : ℚ) ≠ v.toRat) {n : Int}
    (op : Op) :
    (op.Holds n v.truncate ↔ op.Holds (n : ℚ) v.toRat) ↔
      n ≠ v.truncate ∨ (if v.negative then op = .lt ∨ op = .ge else op = .le ∨ op = .gt) := by
  obtain ⟨hlt, hgt⟩ := lt_toRat_iff_of_fractional hv n
  have hne : (n : ℚ) ≠ v.toRat := by
    intro heq
    have := truncate_eq_iff v n heq
    rw [this] at hv
    exact hv heq
  have hle : (n : ℚ) ≤ v.toRat ↔ (n : ℚ) < v.toRat :=
    ⟨fun h => lt_of_le_of_ne h hne, le_of_lt⟩
  have hge : v.toRat ≤ (n : ℚ) ↔ v.toRat < (n : ℚ) :=
    ⟨fun h => lt_of_le_of_ne h hne.symm, le_of_lt⟩
  cases hneg : v.negative <;> cases op <;>
    simp only [Op.Holds, hne, hle, hge, hlt, hgt, hneg, Bool.false_eq_true, if_false, if_true,
      reduceCtorEq, or_self, or_false, or_true, ne_eq, not_false_eq_true, iff_false,
      iff_true] <;>
    omega

section

variable {K : ArrowKernels}

theorem rowPredicate_float64_integer {t : DataType} (ht : t.isInteger = true) (op : Op)
    (v : Binary binary64) :
    ∃ verdict, rowPredicate K t op (.float64 v) = some verdict ∧ ∀ n,
      (verdict (some (.int n)) = some true ↔
        (v.isFinite = true ∧ t.fits v.truncate = true) ∧ op.Holds n v.truncate) := by
  have hl : LiteralSlot K t (.float64 v) _ := literalSlot_float64_integer ht v
  obtain ⟨verdict, hverdict⟩ := Option.isSome_iff_exists.mp
    (rowPredicate_isSome_of_literal op hl (K.comparable_basic (isBasic_of_isInteger ht)))
  refine ⟨verdict, hverdict, fun n => ?_⟩
  have hguard : outOfRangeMatch t op (.float64 v) = none := rfl
  rw [rowPredicate_eq_true hverdict, hguard]
  simp only [reduceCtorEq, true_and, false_or]
  constructor
  · rintro ⟨l, hl', htest⟩
    have heq := hl'.unique hl
    split at heq
    · rename_i hfin
      rw [Bool.and_eq_true] at hfin
      cases heq
      rw [DataType.storage_of_isInteger ht, K.order_int ht] at htest
      exact ⟨hfin, Op.test_compare.mp htest⟩
    · cases heq
  · rintro ⟨⟨hfin, hfits⟩, hholds⟩
    rw [if_pos (by rw [hfin, hfits]; rfl)] at hl
    refine ⟨_, hl, ?_⟩
    rw [DataType.storage_of_isInteger ht, K.order_int ht]
    exact Op.test_compare.mpr hholds

/-- The verdict of a float literal on an integer is exact precisely where stated. -/
theorem integerColumn_exact_iff {t : DataType} (ht : t.isInteger = true) {op : Op}
    {v : Binary binary64} (hv : v.isFinite = true) {verdict : Slot → Option Bool}
    (h : rowPredicate K t op (.float64 v) = some verdict) {n : Int} (hn : t.fits n = true) :
    (verdict (some (.int n)) = some true ↔ op.Holds (n : ℚ) v.toRat) ↔
      IntegerColumnExact t op v n := by
  obtain ⟨verdict', h', hverdict⟩ := rowPredicate_float64_integer (K := K) ht op v
  rw [h] at h'
  cases h'
  rw [hverdict, hv]
  unfold IntegerColumnExact
  cases hfits : t.fits v.truncate with
  | true =>
      simp only [true_and, if_true]
      by_cases hwhole : (v.truncate : ℚ) = v.toRat
      · have hcast : op.Holds n v.truncate ↔ op.Holds (n : ℚ) v.toRat := by
          rw [← hwhole]
          cases op <;> simp [Op.Holds]
        simp [hcast, hwhole]
      · rw [holds_truncate_iff hwhole]
        simp [hwhole]
  | false =>
      obtain ⟨hpos, hneg⟩ := fits_iff_of_zero ht hfits hn
      obtain ⟨hsignp, hsignn⟩ := truncate_sign v
      simp only [Bool.false_eq_true, and_false, false_and, if_false, false_iff]
      cases hsign : v.negative with
      | false =>
          obtain ⟨h0, hle⟩ := hsignp hsign
          have hlt : (n : ℚ) < v.toRat := lt_of_lt_of_le (by exact_mod_cast hpos h0) hle
          rw [Op.holds_of_lt hlt]
          cases op <;> simp
      | true =>
          obtain ⟨h0, hle⟩ := hsignn hsign
          have hlt : v.toRat < (n : ℚ) := lt_of_le_of_lt hle (by exact_mod_cast hneg h0)
          rw [Op.holds_of_gt hlt]
          cases op <;> simp

/-! ## Float columns -/

theorem rowPredicate_int64_float64 (op : Op) (v : Int64) :
    ∃ verdict, rowPredicate K .float64 op (.int64 v) = some verdict ∧ ∀ x,
      (verdict (some (.float64 x)) = some true ↔
        op.Holds x.totalKey (asFloat64 v).totalKey) := by
  have hl : LiteralSlot K .float64 (.int64 v) _ := literalSlot_int64_float64 v
  obtain ⟨verdict, hverdict, htrue⟩ := rowPredicate_of_literal op hl (K.comparable_basic rfl) rfl
  refine ⟨verdict, hverdict, fun x => ?_⟩
  have horder : K.order DataType.float64.storage (.float64 x) (.float64 (asFloat64 v)) =
      x.totalCmp (asFloat64 v) := K.order_float64 _ _
  rw [htrue, horder]
  exact Op.test_compare

theorem toInt_eq_zero_of_key {v : Int64} (h : (asFloat64 v).key = 0) : v.toInt = 0 := by
  have hone : 0 < (ofInt binary64 1).key := by decide +kernel
  have hminus : (ofInt binary64 (-1)).key < 0 := by decide +kernel
  by_contra hne
  rcases lt_or_gt_of_ne hne with hlt | hgt
  · have : (asFloat64 v).key ≤ (ofInt binary64 (-1)).key := ofInt_key_mono binary64 (by omega)
    omega
  · have : (ofInt binary64 1).key ≤ (asFloat64 v).key := ofInt_key_mono binary64 (by omega)
    omega

/-- A finite datum against an integer, and against the integer rounded. -/
theorem key_asFloat64 {x : Binary binary64} (hx : x.isFinite = true) (v : Int64) :
    (x.toRat < (v.toInt : ℚ) → x.key ≤ (asFloat64 v).key) ∧
      ((v.toInt : ℚ) < x.toRat → (asFloat64 v).key ≤ x.key) ∧
      (x.toRat = (v.toInt : ℚ) → x.key = (asFloat64 v).key) :=
  ⟨fun h => le_ofInt_key_of_le hx h.le, fun h => ofInt_key_le_of_le hx h.le,
    fun h => le_antisymm (le_ofInt_key_of_le hx h.le) (ofInt_key_le_of_le hx h.ge)⟩

theorem floatColumn_exact_iff {op : Op} {v : Int64} {x : Binary binary64}
    (hx : x.isFinite = true) :
    (op.Holds x.totalKey (asFloat64 v).totalKey ↔ op.Holds x.toRat (v.toInt : ℚ)) ↔
      FloatColumnExact op v x := by
  obtain ⟨hbelow, habove, hequal⟩ := key_asFloat64 hx v
  -- data of one key are one datum, unless they are the two zeros
  have hsame : x.key = (asFloat64 v).key →
      x = asFloat64 v ∨ (x.toRat = (v.toInt : ℚ) ∧ x.totalKey < (asFloat64 v).totalKey) := by
    intro hkey
    rcases key_eq_iff.mp hkey with heq | ⟨hx0, hl0⟩
    · exact Or.inl heq
    · have hv := toInt_eq_zero_of_key (key_eq_zero_iff.mpr hl0)
      have hl : (asFloat64 v).negative = false := by simp [asFloat64, ofInt, ofRatio, hv]
      cases hneg : x.negative with
      | false => exact Or.inl (eq_of_key_eq hkey (hneg.trans hl.symm))
      | true =>
          refine Or.inr ⟨?_, (totalKey_lt_iff x _).mpr (Or.inr ⟨hkey, hneg, hl⟩)⟩
          rw [toRat_eq_signed_ratio, hx0, Format.units_zero, hv, Nat.cast_zero, zero_div, neg_zero,
            ite_self, Int.cast_zero]
  unfold FloatColumnExact
  rcases lt_trichotomy x.toRat (v.toInt : ℚ) with hlt | heq | hgt
  · rw [Op.holds_of_lt hlt]
    rcases lt_or_eq_of_le (hbelow hlt) with hkey | hkey
    · rw [Op.holds_of_lt ((totalKey_lt_iff x _).mpr (Or.inl hkey))]
      simp [hkey.ne]
    · rcases hsame hkey with rfl | ⟨h, -⟩
      · rw [Op.holds_of_eq rfl]
        simp only [hlt.ne, not_lt_of_gt hlt, if_false]
        cases op <;> simp
      · exact absurd h hlt.ne
  · rw [Op.holds_of_eq heq]
    rcases hsame (hequal heq) with hxl | ⟨-, htotal⟩
    · rw [Op.holds_of_eq (by rw [hxl])]
      simp [hxl, ← heq]
    · have hne : x ≠ asFloat64 v := by
        rintro rfl
        exact lt_irrefl _ htotal
      rw [Op.holds_of_lt htotal, heq]
      simp only [hequal heq, hne, lt_irrefl, if_false]
      cases op <;> simp
  · rw [Op.holds_of_gt hgt]
    rcases lt_or_eq_of_le (habove hgt) with hkey | hkey
    · rw [Op.holds_of_gt ((totalKey_lt_iff _ x).mpr (Or.inl hkey))]
      simp [hkey.ne']
    · rcases hsame hkey.symm with rfl | ⟨h, -⟩
      · rw [Op.holds_of_eq rfl]
        simp only [hgt.ne', hgt, if_true]
        cases op <;> simp
      · exact absurd h hgt.ne'

/-! ## The predicate on a batch -/

/-- Literals of the other numeric kind are compared exactly precisely where stated. -/
theorem evaluatePredicate_mixed_exact_iff {batch : RecordBatch} {column : ArrowArray}
    (hcolumn : batch.column 0 = some column) (op : Op) :
    (column.dataType.isInteger = true → ∀ v : Binary binary64, v.isFinite = true →
      ∃ flags, evaluatePredicate K batch op (.float64 v) = .ok flags ∧
        ∀ (i : Nat) (n : Int), column.slots[i]? = some (some (.int n)) →
          ((flags[i]? = some (some true) ↔ op.Holds (n : ℚ) v.toRat) ↔
            IntegerColumnExact column.dataType op v n)) ∧
      (column.dataType = .float64 → ∀ v : Int64,
        ∃ flags, evaluatePredicate K batch op (.int64 v) = .ok flags ∧
          ∀ (i : Nat) (x : Binary binary64), column.slots[i]? = some (some (.float64 x)) →
            x.isFinite = true →
            ((flags[i]? = some (some true) ↔ op.Holds x.toRat (v.toInt : ℚ)) ↔
              FloatColumnExact op v x)) := by
  constructor
  · intro ht v hv
    obtain ⟨verdict, hverdict, -⟩ := rowPredicate_float64_integer (K := K) ht op v
    refine ⟨_, (evaluatePredicate_eq_ok hcolumn).mpr ⟨verdict, hverdict, rfl⟩, ?_⟩
    intro i n hslot
    have htyped := column.typed _ (List.mem_of_getElem? hslot)
    rw [Value.hasType, DataType.storage_of_isInteger ht] at htyped
    obtain ⟨n', heq, hn⟩ := (Value.hasStorage_int_iff ht).mp htyped
    cases heq
    rw [List.getElem?_map, hslot, Option.map_some, Option.some.injEq]
    exact integerColumn_exact_iff ht hv hverdict hn
  · intro ht v
    obtain ⟨verdict, hverdict, htrue⟩ := rowPredicate_int64_float64 (K := K) op v
    rw [← ht] at hverdict
    refine ⟨_, (evaluatePredicate_eq_ok hcolumn).mpr ⟨verdict, hverdict, rfl⟩, ?_⟩
    intro i x hslot hx
    rw [List.getElem?_map, hslot, Option.map_some, Option.some.injEq, htrue]
    exact floatColumn_exact_iff hx

end

/-! ## Five against five and a half -/

def halfLiteral : Binary binary64 := ofRatio binary64 false 11 2

def fiveField : Field := ⟨"n", .int32, true, false, []⟩

def fiveBatch : RecordBatch := columnBatch fiveField [some (.int 5), none] (by decide)

theorem mixed_predicate_five_gt :
    ∃ flags, evaluatePredicate referenceKernels fiveBatch .gt (.float64 halfLiteral) =
        .ok flags ∧
      (flags[0]? = some (some true) ↔ Op.gt.Holds ((5 : Int) : ℚ) halfLiteral.toRat) := by
  obtain ⟨column, hcolumn⟩ : ∃ column, fiveBatch.column 0 = some column := ⟨_, rfl⟩
  have hinteger := (evaluatePredicate_mixed_exact_iff (K := referenceKernels) hcolumn .gt).1
  have htype : column.dataType = .int32 := by
    cases hcolumn
    rfl
  have hslot : column.slots[0]? = some (some (.int 5)) := by
    cases hcolumn
    rfl
  obtain ⟨flags, hflags, hexact⟩ := hinteger (by rw [htype]; rfl) halfLiteral (by decide +kernel)
  refine ⟨flags, hflags, (hexact 0 5 hslot).mpr ?_⟩
  rw [htype]
  unfold IntegerColumnExact
  decide +kernel

/-- `5 < 5.5`, but the literal is truncated to the value and the row is not kept. -/
theorem mixed_predicate_drops_row :
    evaluatePredicate referenceKernels fiveBatch .lt (.float64 halfLiteral) =
        .ok [some false, none] ∧
      Op.lt.Holds ((5 : Int) : ℚ) halfLiteral.toRat := by
  constructor
  · decide +kernel
  · decide +kernel

end Pydart
