import Pydart.Parquet.Hazard
import Pydart.Parquet.Predicate

/-! # What the literal becomes in the column's type

The guard for out-of-range integers, the cast of each kind of literal to each
kind of column, and from both the rows a filter matches.
-/

namespace Pydart

open Ieee Ieee.Format Binary

/-! ## The out-of-range guard -/

theorem integerBounds_eq_none {t : DataType} (h : t.isInteger = false) : integerBounds t = none := by
  cases t <;> first | rfl | cases h

theorem integerBounds_spec {t : DataType} (h : t.isInteger = true) :
    ∃ lo hi, integerBounds t = some (lo, hi) ∧ lo ≤ hi ∧
      ∀ n, t.fits n = true ↔ lo ≤ n ∧ n ≤ hi := by
  cases t <;> first
    | exact ⟨_, _, rfl, by decide, fun n => by
        simp only [DataType.fits, DataType.integerKind, decide_eq_true_eq]; omega⟩
    | cases h

/-- The guard answers exactly for literals outside the column's range, and then
as the comparison would over the integers. -/
theorem outOfRangeMatch_integer {t : DataType} (h : t.isInteger = true) (op : Op) (v : Int64) :
    (t.fits v.toInt = true ∧ outOfRangeMatch t op (.int64 v) = none) ∨
      (t.fits v.toInt = false ∧ ∃ allRowsMatch, outOfRangeMatch t op (.int64 v) = some allRowsMatch ∧
        ∀ n, t.fits n = true → (allRowsMatch = true ↔ op.Holds n v.toInt)) := by
  obtain ⟨lo, hi, hbounds, hle, hfits⟩ := integerBounds_spec h
  have hv := hfits v.toInt
  by_cases habove : v.toInt > hi
  · refine Or.inr ⟨?_, op == .ne || op == .lt || op == .le, by
      simp only [outOfRangeMatch, hbounds, if_pos habove], ?_⟩
    · rw [← Bool.not_eq_true, hv]
      omega
    · intro n hn
      have := (hfits n).mp hn
      cases op <;> simp only [Op.Holds] <;> simp <;> omega
  · by_cases hbelow : v.toInt < lo
    · refine Or.inr ⟨?_, op == .ne || op == .gt || op == .ge, by
        simp only [outOfRangeMatch, hbounds, if_neg habove, if_pos hbelow], ?_⟩
      · rw [← Bool.not_eq_true, hv]
        omega
      · intro n hn
        have := (hfits n).mp hn
        cases op <;> simp only [Op.Holds] <;> simp <;> omega
    · refine Or.inl ⟨hv.mpr (by omega), ?_⟩
      simp only [outOfRangeMatch, hbounds, if_neg habove, if_neg hbelow]

theorem outOfRangeMatch_not_integer {t : DataType} (h : t.isInteger = false) (op : Op)
    (value : ScalarValue) : outOfRangeMatch t op value = none := by
  cases value <;> simp [outOfRangeMatch, integerBounds_eq_none h]

theorem outOfRangeMatch_eq_some {t : DataType} {op : Op} {value : ScalarValue} {b : Bool}
    (h : outOfRangeMatch t op value = some b) :
    t.isInteger = true ∧ ∃ v, value = .int64 v ∧ t.fits v.toInt = false ∧
      ∀ n, t.fits n = true → (b = true ↔ op.Holds n v.toInt) := by
  cases ht : t.isInteger with
  | false =>
      rw [outOfRangeMatch_not_integer ht] at h
      cases h
  | true =>
      refine ⟨rfl, ?_⟩
      cases value with
      | int64 v =>
          rcases outOfRangeMatch_integer ht op v with ⟨-, hnone⟩ | ⟨hfits, all, hsome, hall⟩
          · rw [hnone] at h
            cases h
          · rw [hsome] at h
            cases h
            exact ⟨v, rfl, hfits, hall⟩
      | _ => cases h

/-! ## The cast literal -/

section

variable {K : ArrowKernels}

theorem scalarValueToArray_isBasic (value : ScalarValue) :
    (scalarValueToArray value).dataType.isBasic = true := by
  cases value <;> rfl

theorem cast_literal_storage {value : ScalarValue} {t : DataType} {casted : ArrowArray}
    (h : K.cast (scalarValueToArray value) t = .ok casted) :
    ∃ plain, K.cast (scalarValueToArray value) t.storage = .ok plain ∧
      plain.slots = casted.slots := by
  induction t generalizing casted with
  | dictionary key t _ ih =>
      obtain ⟨plain, hplain, hslots⟩ := K.cast_dictionary (scalarValueToArray_isBasic value) h
      obtain ⟨deep, hdeep, hdslots⟩ := ih hplain
      exact ⟨deep, hdeep, hdslots.trans hslots⟩
  | _ => exact ⟨casted, h, rfl⟩

/-- The slot a literal becomes in a column of the type, where the cast succeeds. -/
def LiteralSlot (K : ArrowKernels) (t : DataType) (value : ScalarValue) (slot : Slot) : Prop :=
  ∃ casted, K.cast (scalarValueToArray value) t = .ok casted ∧ casted.slots = [slot]

theorem LiteralSlot.toStorage {t : DataType} {value : ScalarValue} {slot : Slot}
    (h : LiteralSlot K t value slot) : LiteralSlot K t.storage value slot := by
  obtain ⟨casted, hcast, hslots⟩ := h
  obtain ⟨plain, hplain, hpslots⟩ := cast_literal_storage hcast
  exact ⟨plain, hplain, hpslots.trans hslots⟩

theorem LiteralSlot.unique {t : DataType} {value : ScalarValue} {a b : Slot}
    (ha : LiteralSlot K t value a) (hb : LiteralSlot K t value b) : a = b := by
  obtain ⟨casted, hcast, hslots⟩ := ha
  obtain ⟨casted', hcast', hslots'⟩ := hb
  rw [hcast] at hcast'
  cases hcast'
  rw [hslots] at hslots'
  exact List.singleton_inj.mp hslots'

theorem literalSlot_of_converts {t : DataType} {value : ScalarValue} (v : Value)
    (convert : Value → Slot) (hv : (scalarValueToArray value).slots = [some v])
    (hconv : Converts K.cast (scalarValueToArray value).dataType t convert) :
    LiteralSlot K t value (convert v) := by
  obtain ⟨casted, hcast, hslots⟩ := hconv (scalarValueToArray value) rfl
  exact ⟨casted, hcast, by rw [hslots, hv]; rfl⟩

theorem literalSlot_int64_integer {t : DataType} (ht : t.isInteger = true) (v : Int64) :
    LiteralSlot K t (.int64 v) (if t.fits v.toInt then some (.int v.toInt) else none) :=
  literalSlot_of_converts (.int v.toInt) (integerToInteger t) rfl (K.cast_int64_integer ht)

theorem literalSlot_int64_float32 (v : Int64) :
    LiteralSlot K .float32 (.int64 v) (some (.float32 (ofInt binary32 v.toInt))) :=
  literalSlot_of_converts (.int v.toInt) integerToFloat32 rfl K.cast_int64_float32

theorem literalSlot_int64_float64 (v : Int64) :
    LiteralSlot K .float64 (.int64 v) (some (.float64 (asFloat64 v))) :=
  literalSlot_of_converts (.int v.toInt) integerToFloat64 rfl K.cast_int64_float64

theorem literalSlot_float64_integer {t : DataType} (ht : t.isInteger = true)
    (w : Binary binary64) :
    LiteralSlot K t (.float64 w)
      (if w.isFinite && t.fits w.truncate then some (.int w.truncate) else none) :=
  literalSlot_of_converts (.float64 w) (float64ToInteger t) rfl (K.cast_float64_integer ht)

theorem literalSlot_float64_float32 (w : Binary binary64) :
    LiteralSlot K .float32 (.float64 w) (some (.float32 (K.float64ToFloat32 w))) :=
  literalSlot_of_converts (.float64 w) (float64ToFloat32Slot K.float64ToFloat32) rfl
    K.cast_float64_float32

theorem literalSlot_float64_float64 (w : Binary binary64) :
    LiteralSlot K .float64 (.float64 w) (some (.float64 w)) :=
  ⟨_, K.cast_same (scalarValueToArray (.float64 w)), rfl⟩

theorem literalSlot_bool_boolean (b : Bool) :
    LiteralSlot K .boolean (.bool b) (some (.boolean b)) :=
  ⟨_, K.cast_same (scalarValueToArray (.bool b)), rfl⟩

/-! ## Matching rows -/

/-- The value `x` of a column of type `t` matches the filter: by the guard, or by
comparison with the cast literal. -/
theorem rowPredicate_eq_true {t : DataType} {op : Op} {value : ScalarValue}
    {verdict : Slot → Option Bool} (h : rowPredicate K t op value = some verdict) (x : Value) :
    verdict (some x) = some true ↔
      outOfRangeMatch t op value = some true ∨
        (outOfRangeMatch t op value = none ∧
          ∃ l, LiteralSlot K t value (some l) ∧ op.test (K.order t.storage x l) = true) := by
  unfold rowPredicate at h
  cases hguard : outOfRangeMatch t op value with
  | some all =>
      rw [hguard] at h
      cases h
      simp
  | none =>
      rw [hguard] at h
      cases hcast : K.cast (scalarValueToArray value) t with
      | error e =>
          simp only [hcast, reduceCtorEq] at h
      | ok casted =>
          simp only [hcast] at h
          obtain ⟨-, hslots⟩ := cast_literal_slots hcast
          split at h
          · cases h
            cases hl : casted.slots.getD 0 none with
            | none =>
                rw [hl] at hslots
                simp only [Kernel.slot, reduceCtorEq, true_and, false_or, false_iff, not_exists,
                  not_and]
                rintro l ⟨casted', hcast', hslots'⟩
                rw [hcast] at hcast'
                cases hcast'
                rw [hslots] at hslots'
                cases hslots'
            | some l =>
                rw [hl] at hslots
                simp only [Kernel.slot, holds_compareKernel, Option.some.injEq, reduceCtorEq,
                  true_and, false_or]
                constructor
                · intro htrue
                  exact ⟨l, ⟨casted, hcast, hslots⟩, htrue⟩
                · rintro ⟨l', hl', htrue⟩
                  have := LiteralSlot.unique ⟨casted, hcast, hslots⟩ hl'
                  cases this
                  exact htrue
          · cases h

theorem rowPredicate_null {t : DataType} {op : Op} {value : ScalarValue}
    {verdict : Slot → Option Bool} (h : rowPredicate K t op value = some verdict) :
    verdict none ≠ some true := by
  unfold rowPredicate at h
  split at h
  · cases h
    simp
  · split at h
    · cases h
    · split at h
      · cases h
        simp [Kernel.slot]
      · cases h

theorem rowPredicate_isSome_of_literal {t : DataType} (op : Op) {value : ScalarValue} {slot : Slot}
    (hl : LiteralSlot K t value slot) (hcomp : K.comparable t = true) :
    (rowPredicate K t op value).isSome = true := by
  obtain ⟨casted, hcast, -⟩ := hl
  unfold rowPredicate
  split
  · rfl
  · simp [hcast, hcomp]

theorem rowPredicate_of_literal {t : DataType} (op : Op) {value : ScalarValue} {l : Value}
    (hl : LiteralSlot K t value (some l)) (hcomp : K.comparable t = true)
    (hguard : outOfRangeMatch t op value = none) :
    ∃ verdict, rowPredicate K t op value = some verdict ∧
      ∀ x, verdict (some x) = some true ↔ op.test (K.order t.storage x l) = true := by
  obtain ⟨verdict, hverdict⟩ :=
    Option.isSome_iff_exists.mp (rowPredicate_isSome_of_literal op hl hcomp)
  refine ⟨verdict, hverdict, fun x => ?_⟩
  rw [rowPredicate_eq_true hverdict, hguard]
  simp only [reduceCtorEq, true_and, false_or]
  constructor
  · rintro ⟨l', hl', htest⟩
    cases Option.some.inj (hl'.unique hl)
    exact htest
  · exact fun htest => ⟨l, hl, htest⟩

theorem rowPredicate_int64_integer {t : DataType} {op : Op} {v : Int64}
    {verdict : Slot → Option Bool} (h : rowPredicate K t op (.int64 v) = some verdict) {n : Int}
    (ht : t.storage.isInteger = true) (hn : t.storage.fits n = true)
    (hmatch : verdict (some (.int n)) = some true) : op.Holds n v.toInt := by
  rcases (rowPredicate_eq_true h (.int n)).mp hmatch with hguard | ⟨-, l, hl, htest⟩
  · obtain ⟨hint, v', hv, -, hall⟩ := outOfRangeMatch_eq_some hguard
    cases hv
    rw [DataType.storage_of_isInteger hint] at hn
    exact (hall n hn).mp rfl
  · have heq := hl.toStorage.unique (literalSlot_int64_integer ht v)
    split at heq
    · cases heq
      rw [K.order_int ht] at htest
      exact Op.test_compare.mp htest
    · cases heq

end
end Pydart
