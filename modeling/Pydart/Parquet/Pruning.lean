import Pydart.Parquet.Resolve

/-! # Skipping row groups

A group is skipped for a row that passes its filter exactly under a hazard, and a
filtered read agrees with the read of every group exactly when no row it should
return stands under one.
-/

namespace Pydart

open Ieee Ieee.Format Binary

/-! ## Statistics that bound their rows -/

namespace Value

/-- The order of the numeric and boolean types; nothing is asked of the others. -/
def Below : Value → Value → Prop
  | int a, int b => a ≤ b
  | float32 a, float32 b => Le a b
  | float64 a, float64 b => Le a b
  | boolean a, boolean b => a ≤ b
  | _, _ => True

instance (a b : Value) : Decidable (Below a b) := by
  unfold Below
  split <;> infer_instance

end Value

/-- Statistics, where present, bound every value that is neither null nor NaN. -/
def StatisticsBound (file : ParquetFile) : Prop :=
  ∀ rowGroup ∈ file.rowGroups, ∀ row ∈ rowGroup.rows, ∀ i < file.schema.length,
    ∀ x ∈ row.slot i, x.isNaN = false →
      (∀ min ∈ (rowGroup.columnStatistics i).min, min.Below x) ∧
        (∀ max ∈ (rowGroup.columnStatistics i).max, x.Below max)

/-! ## Hazards -/

/-- The hazards by kind of literal and of statistics; `x` is the value of a row. -/
def PruneHazard (op : Op) (value : ScalarValue) (x : Value) (lo hi : ScalarValue) : Prop :=
  match value, x, lo, hi with
  | .float64 w, .int n, .int64 lo, .int64 hi => IntHazard op w n lo.toInt hi.toInt
  | .float64 w, .float64 x, .float64 lo, .float64 hi => FloatHazard op w w x lo hi
  | .int64 v, .float64 x, .float64 lo, .float64 hi =>
      FloatHazard op (asFloat64 v) (asFloat64 v) x lo hi
  | .float64 w, .float32 x, .float64 lo, .float64 hi =>
      FloatHazard op w (convert binary64 (convert binary32 w)) (convert binary64 x) lo hi
  | .int64 v, .float32 x, .float64 lo, .float64 hi =>
      FloatHazard op (asFloat64 v) (convert binary64 (ofInt binary32 v.toInt))
        (convert binary64 x) lo hi
  | _, _, _, _ => False

theorem couldMatchRange_incomparable (op : Op) (value lo hi : ScalarValue)
    (hlo : lo.compare value = none) (hhi : value.compare hi = none) :
    couldMatchRange op value (some lo) (some hi) = true := by
  cases op <;> simp [couldMatchRange, ScalarValue.le, ScalarValue.lt, ScalarValue.eq, hlo, hhi]

theorem asFloat64_isFinite (v : Int64) : (asFloat64 v).isFinite = true := by
  have hlo : (ofInt binary64 (-2 ^ 63)).key ≤ (asFloat64 v).key :=
    ofInt_key_mono binary64 v.le_toInt
  have hhi : (asFloat64 v).key ≤ (ofInt binary64 (2 ^ 63)).key :=
    ofInt_key_mono binary64 (le_of_lt v.toInt_lt)
  have hlo' : -(binary64.infinity : Int) < (ofInt binary64 (-2 ^ 63)).key := by decide +kernel
  have hhi' : (ofInt binary64 (2 ^ 63)).key < (binary64.infinity : Int) := by decide +kernel
  have hkey : -(binary64.infinity : Int) < (asFloat64 v).key ∧
      (asFloat64 v).key < (binary64.infinity : Int) := by omega
  rw [isFinite_iff]
  unfold key at hkey
  split at hkey <;> omega

theorem trustedValue_cases {t : DataType} {v : Value} {scalar : ScalarValue}
    (hv : v.hasStorage t = true) (h : trustedValue t v = some scalar) :
    (t.isInteger = true ∧ ∃ n a, v = .int n ∧ scalar = .int64 a ∧ a.toInt = n) ∨
      (t = .float32 ∧ ∃ x, v = .float32 x ∧ scalar = .float64 (convert binary64 x)) ∨
      (t = .float64 ∧ ∃ x, v = .float64 x ∧ scalar = .float64 x) ∨
      (t = .boolean ∧ ∃ b, v = .boolean b ∧ scalar = .bool b) := by
  cases hint : t.isInteger with
  | true =>
      obtain ⟨n, rfl, hfits⟩ := (Value.hasStorage_int_iff hint).mp hv
      have hscalar : scalar = .int64 (Int64.ofInt n) ∧ -2 ^ 63 ≤ n ∧ n < 2 ^ 63 := by
        cases t <;> simp only [DataType.isInteger, DataType.integerKind, Option.isSome_none,
          reduceCtorEq] at hint <;>
          simp only [DataType.fits, DataType.integerKind, decide_eq_true_eq] at hfits <;>
          simp only [trustedValue, Option.some.injEq, Option.ite_none_right_eq_some] at h <;>
          first
          | exact ⟨h.symm, by omega, by omega⟩
          | exact ⟨h.2.symm, by omega, by omega⟩
      obtain ⟨rfl, hlo, hhi⟩ := hscalar
      exact Or.inl ⟨rfl, n, _, rfl, rfl, Int64.toInt_ofInt_of_le hlo hhi⟩
  | false =>
      refine Or.inr ?_
      cases t with
      | float32 =>
          obtain ⟨x, rfl⟩ := Value.hasStorage_float32_iff.mp hv
          cases h
          exact Or.inl ⟨rfl, x, rfl, rfl⟩
      | float64 =>
          obtain ⟨x, rfl⟩ := Value.hasStorage_float64_iff.mp hv
          cases h
          exact Or.inr (Or.inl ⟨rfl, x, rfl, rfl⟩)
      | boolean =>
          obtain ⟨b, rfl⟩ := Value.hasStorage_boolean_iff.mp hv
          cases h
          exact Or.inr (Or.inr ⟨rfl, b, rfl, rfl⟩)
      | _ =>
          first
          | exact absurd hint (by decide)
          | (cases v <;> cases h)

/-! ## One kind of column at a time -/

section

variable {K : ArrowKernels} {t : DataType} {op : Op} {value : ScalarValue}
    {verdict : Slot → Option Bool}

/-- Off the integer types a matching row compares with the cast literal. -/
theorem literal_of_match (hrow : rowPredicate K t op value = some verdict)
    (ht : t.storage.isInteger = false) {x : Value} (hpass : verdict (some x) = some true) :
    ∃ l, LiteralSlot K t.storage value (some l) ∧ op.test (K.order t.storage x l) = true := by
  rcases (rowPredicate_eq_true hrow x).mp hpass with hguard | ⟨-, l, hl, htest⟩
  · obtain ⟨hint, -⟩ := outOfRangeMatch_eq_some hguard
    rw [DataType.storage_of_isInteger hint, hint] at ht
    cases ht
  · exact ⟨l, hl.toStorage, htest⟩

theorem couldMatchRange_integer_column (hrow : rowPredicate K t op value = some verdict)
    (ht : t.storage.isInteger = true) {n : Int} (hn : t.storage.fits n = true)
    (hpass : verdict (some (.int n)) = some true) {lo hi : Int64} (hlo : lo.toInt ≤ n)
    (hhi : n ≤ hi.toInt) :
    couldMatchRange op value (some (.int64 lo)) (some (.int64 hi)) = false ↔
      PruneHazard op value (.int n) (.int64 lo) (.int64 hi) := by
  cases value with
  | int64 v =>
      have hholds := rowPredicate_int64_integer hrow ht hn hpass
      simp [couldMatchRange_int64 hlo hhi hholds, PruneHazard]
  | float64 w =>
      rcases (rowPredicate_eq_true hrow _).mp hpass with hguard | ⟨-, l, hl, htest⟩
      · obtain ⟨-, v, hv, -⟩ := outOfRangeMatch_eq_some hguard
        cases hv
      · have heq := hl.toStorage.unique (literalSlot_float64_integer ht w)
        split at heq
        · rename_i hfin
          rw [Bool.and_eq_true] at hfin
          cases heq
          rw [K.order_int ht] at htest
          exact couldMatchRange_intHazard hfin.1 hlo hhi (Op.test_compare.mp htest)
        · cases heq
  | bool b =>
      rw [couldMatchRange_incomparable op (.bool b) (.int64 lo) (.int64 hi) rfl rfl]
      simp [PruneHazard]
  | utf8 s =>
      rw [couldMatchRange_incomparable op (.utf8 s) (.int64 lo) (.int64 hi) rfl rfl]
      simp [PruneHazard]

theorem couldMatchRange_float64_column (hrow : rowPredicate K t op value = some verdict)
    (ht : t.storage = .float64) {x : Binary binary64}
    (hpass : verdict (some (.float64 x)) = some true) {lo hi : Binary binary64}
    (hbound : x.isNaN = false → Le lo x ∧ Le x hi) :
    couldMatchRange op value (some (.float64 lo)) (some (.float64 hi)) = false ↔
      PruneHazard op value (.float64 x) (.float64 lo) (.float64 hi) := by
  obtain ⟨l, hl, htest⟩ := literal_of_match hrow (by rw [ht]; rfl) hpass
  rw [ht] at hl htest
  have hsame : ∀ w : Binary binary64, l = .float64 w →
      (couldMatchRange op (.float64 w) (some (.float64 lo)) (some (.float64 hi)) = false ↔
        FloatHazard op w w x lo hi) := by
    rintro w rfl
    rw [K.order_float64] at htest
    exact couldMatchRange_floatHazard rfl (fun _ _ => Coarsens.refl w x) hbound htest
  cases value with
  | int64 v =>
      rw [couldMatchRange_int64_float64]
      exact hsame _ (Option.some.inj (hl.unique (literalSlot_int64_float64 v)))
  | float64 w => exact hsame _ (Option.some.inj (hl.unique (literalSlot_float64_float64 w)))
  | bool b =>
      rw [couldMatchRange_incomparable op (.bool b) (.float64 lo) (.float64 hi) rfl rfl]
      simp [PruneHazard]
  | utf8 s =>
      rw [couldMatchRange_incomparable op (.utf8 s) (.float64 lo) (.float64 hi) rfl rfl]
      simp [PruneHazard]

/-- A narrow row against a wide literal, both seen from the wide format. -/
theorem couldMatchRange_narrow {x l : Binary binary32} {w lo hi : Binary binary64}
    (hnan : l.isNaN = w.isNaN) (hneg : l.negative = w.negative)
    (hside : x.isNaN = false → w.isNaN = false →
      (w.key ≤ (convert binary64 x).key → l.key ≤ x.key) ∧
        ((convert binary64 x).key ≤ w.key → x.key ≤ l.key))
    (hbound : x.isNaN = false → Le lo (convert binary64 x) ∧ Le (convert binary64 x) hi)
    (htest : op.test (x.totalCmp l) = true) :
    couldMatchRange op (.float64 w) (some (.float64 lo)) (some (.float64 hi)) = false ↔
      FloatHazard op w (convert binary64 l) (convert binary64 x) lo hi := by
  cases hw : w.isNaN with
  | true =>
      rw [couldMatchRange_nan_literal op hw]
      simp [not_floatHazard_nan_literal hw]
  | false =>
      rw [hw] at hnan
      apply couldMatchRange_floatHazard
      · rw [convert_isNaN, hnan, hw]
      · intro hx _
        rw [convert_isNaN] at hx
        obtain ⟨hle, hge⟩ := hside hx hw
        refine ⟨by rw [convert_isNaN, hnan, hw], by rw [convert_negative, hneg], ?_, ?_⟩
        · exact fun h => convert_key_mono binary64 hnan hx (hle h)
        · exact fun h => convert_key_mono binary64 hx hnan (hge h)
      · rw [convert_isNaN]
        exact hbound
      · rw [totalCmp_convert binary32_embeds_binary64 hnan]
        exact htest

theorem couldMatchRange_float32_column (hrow : rowPredicate K t op value = some verdict)
    (ht : t.storage = .float32) {x : Binary binary32}
    (hpass : verdict (some (.float32 x)) = some true) {lo hi : Binary binary64}
    (hbound : x.isNaN = false → Le lo (convert binary64 x) ∧ Le (convert binary64 x) hi) :
    couldMatchRange op value (some (.float64 lo)) (some (.float64 hi)) = false ↔
      PruneHazard op value (.float32 x) (.float64 lo) (.float64 hi) := by
  obtain ⟨l, hl, htest⟩ := literal_of_match hrow (by rw [ht]; rfl) hpass
  rw [ht] at hl htest
  cases value with
  | int64 v =>
      cases Option.some.inj (hl.unique (literalSlot_int64_float32 v))
      rw [K.order_float32] at htest
      rw [couldMatchRange_int64_float64]
      apply couldMatchRange_narrow
      · rw [asFloat64, ofInt_not_nan, ofInt_not_nan]
      · rfl
      · intro hx _
        exact ofInt_key_le_of_le_wide binary32_embeds_binary64 hx (asFloat64_isFinite v)
      · exact hbound
      · exact htest
  | float64 w =>
      cases Option.some.inj (hl.unique (literalSlot_float64_float32 w))
      rw [K.order_float32] at htest
      cases hw : w.isNaN with
      | true =>
          rw [couldMatchRange_nan_literal op hw]
          simp [PruneHazard, not_floatHazard_nan_literal hw]
      | false =>
          rw [K.float64ToFloat32_of_not_nan hw] at htest
          apply couldMatchRange_narrow
          · exact convert_isNaN binary32 w
          · exact convert_negative binary32 w
          · intro hx _
            exact convert_key_le_iff_of_le binary32_embeds_binary64 hx hw
          · exact hbound
          · exact htest
  | bool b =>
      rw [couldMatchRange_incomparable op (.bool b) (.float64 lo) (.float64 hi) rfl rfl]
      simp [PruneHazard]
  | utf8 s =>
      rw [couldMatchRange_incomparable op (.utf8 s) (.float64 lo) (.float64 hi) rfl rfl]
      simp [PruneHazard]

theorem couldMatchRange_boolean_column (hrow : rowPredicate K t op value = some verdict)
    (ht : t.storage = .boolean) {x : Bool} (hpass : verdict (some (.boolean x)) = some true)
    {lo hi : Bool} (hlo : lo ≤ x) (hhi : x ≤ hi) :
    couldMatchRange op value (some (.bool lo)) (some (.bool hi)) = true := by
  obtain ⟨l, hl, htest⟩ := literal_of_match hrow (by rw [ht]; rfl) hpass
  rw [ht] at hl htest
  cases value with
  | bool b =>
      cases Option.some.inj (hl.unique (literalSlot_bool_boolean b))
      rw [K.order_boolean] at htest
      exact couldMatchRange_bool op hlo hhi (Op.test_compare.mp htest)
  | int64 v => exact couldMatchRange_incomparable op _ (.bool lo) (.bool hi) rfl rfl
  | float64 w => exact couldMatchRange_incomparable op _ (.bool lo) (.bool hi) rfl rfl
  | utf8 s => exact couldMatchRange_incomparable op _ (.bool lo) (.bool hi) rfl rfl

/-- A group whose statistics bound a matching row is skipped exactly under a hazard. -/
theorem couldMatchRange_iff_hazard (hrow : rowPredicate K t op value = some verdict) {x : Value}
    (hx : x.hasType t = true) (hpass : verdict (some x) = some true) {min max : Value}
    (hmin : min.hasType t = true) (hmax : max.hasType t = true)
    (hbound : x.isNaN = false → min.Below x ∧ x.Below max) {lo hi : ScalarValue}
    (hlo : trustedValue t.storage min = some lo) (hhi : trustedValue t.storage max = some hi) :
    couldMatchRange op value (some lo) (some hi) = false ↔ PruneHazard op value x lo hi := by
  rcases trustedValue_cases hmin hlo with ⟨ht, a, lo, rfl, rfl, hla⟩ | ⟨ht, a, rfl, rfl⟩ |
      ⟨ht, a, rfl, rfl⟩ | ⟨ht, a, rfl, rfl⟩ <;>
    rcases trustedValue_cases hmax hhi with ⟨ht', b, hi, rfl, rfl, hhb⟩ | ⟨ht', b, rfl, rfl⟩ |
      ⟨ht', b, rfl, rfl⟩ | ⟨ht', b, rfl, rfl⟩ <;>
    try first
      | (rw [ht] at ht'; cases ht')
      | (rw [ht'] at ht; cases ht)
  · obtain ⟨n, rfl, hfits⟩ := (Value.hasStorage_int_iff ht).mp hx
    obtain ⟨hmin, hmax⟩ := hbound rfl
    subst hla hhb
    exact couldMatchRange_integer_column hrow ht hfits hpass hmin hmax
  · rw [Value.hasType, ht] at hx
    obtain ⟨y, rfl⟩ := Value.hasStorage_float32_iff.mp hx
    apply couldMatchRange_float32_column hrow ht hpass
    intro hnan
    obtain ⟨hmin, hmax⟩ := hbound hnan
    exact ⟨le_convert hmin, le_convert hmax⟩
  · rw [Value.hasType, ht] at hx
    obtain ⟨y, rfl⟩ := Value.hasStorage_float64_iff.mp hx
    exact couldMatchRange_float64_column hrow ht hpass hbound
  · rw [Value.hasType, ht] at hx
    obtain ⟨y, rfl⟩ := Value.hasStorage_boolean_iff.mp hx
    obtain ⟨hmin, hmax⟩ := hbound rfl
    rw [couldMatchRange_boolean_column hrow ht hpass hmin hmax]
    cases value <;> simp [PruneHazard]

end

/-! ## Groups of a file -/

section

variable (C : Crates) (file : ParquetFile)

/-- The statistics of the row's group and its value in the filter's column stand
under a hazard. -/
def HazardousRow (filter : FilterExpr) (located : LocatedRow file.schema) : Prop :=
  ∃ i x mins maxes lo hi,
    indexOf file.schema filter.column = .ok i ∧ located.row.slot i = some x ∧
    rowGroupBounds C file filter = .ok (mins, maxes) ∧
    scalarFromArray mins located.group = some lo ∧
    scalarFromArray maxes located.group = some hi ∧
    PruneHazard filter.op filter.value x lo hi

/-- Skipping is harmless for the filters: their statistics can be looked up and no
row they all pass stands under a hazard of one of them. -/
def SkippingSafe (filters : List FilterExpr) : Prop :=
  (∀ filter ∈ filters, ∃ bounds, rowGroupBounds C file filter = .ok bounds) ∧
    ∀ located ∈ file.allRows, filters.all (passes C · located.row) = true →
      ∀ filter ∈ filters, ¬ HazardousRow C file filter located

variable {C} {file}

theorem mem_groupRows {g : Nat} {located : LocatedRow file.schema}
    (h : located ∈ file.groupRows g) :
    located.group = g ∧ ∃ rowGroup, file.rowGroups[g]? = some rowGroup ∧
      located.row ∈ rowGroup.rows := by
  unfold ParquetFile.groupRows at h
  split at h
  · cases h
  · rename_i rowGroup hg
    obtain ⟨i, hi, rfl⟩ := List.mem_mapIdx.mp h
    exact ⟨rfl, rowGroup, hg, List.getElem_mem hi⟩

theorem mem_allRows {located : LocatedRow file.schema} :
    located ∈ file.allRows ↔ located ∈ file.groupRows located.group := by
  rw [ParquetFile.allRows, ParquetFile.locatedRows, List.mem_flatMap]
  constructor
  · rintro ⟨g, -, hmem⟩
    rwa [(mem_groupRows hmem).1]
  · intro hmem
    obtain ⟨-, rowGroup, hg, -⟩ := mem_groupRows hmem
    refine ⟨_, ?_, hmem⟩
    rw [List.mem_range]
    exact (List.getElem?_eq_some_iff.mp hg).1

theorem scalarFromArray_eq_some {array : ArrowArray} {i : Nat} {scalar : ScalarValue} :
    scalarFromArray array i = some scalar ↔
      ∃ v, array.slots[i]? = some (some v) ∧ trustedValue array.dataType v = some scalar := by
  unfold scalarFromArray ArrowArray.isNull
  rw [List.getD_eq_getElem?_getD]
  cases hslot : array.slots[i]? with
  | none => simp
  | some slot => cases slot <;> simp

/-- Where both bounds of a group are trusted, they are its statistics of the column. -/
theorem rowGroupBounds_eq_ok {filter : FilterExpr} {i g : Nat} {field : Field}
    {mins maxes : ArrowArray} {lo hi : ScalarValue} {rowGroup : RowGroup file.schema}
    (hi' : indexOf file.schema filter.column = .ok i) (hf : file.schema[i]? = some field)
    (hbounds : rowGroupBounds C file filter = .ok (mins, maxes))
    (hg : file.rowGroups[g]? = some rowGroup) (hlo : scalarFromArray mins g = some lo)
    (hhi : scalarFromArray maxes g = some hi) :
    ∃ min max, (rowGroup.columnStatistics i).min = some min ∧
      (rowGroup.columnStatistics i).max = some max ∧
      min.hasType field.dataType = true ∧ max.hasType field.dataType = true ∧
      trustedValue field.dataType.storage min = some lo ∧
      trustedValue field.dataType.storage max = some hi := by
  unfold rowGroupBounds at hbounds
  rw [C.statisticsConverter_ok hi', Except.bind_eq_ok] at hbounds
  obtain ⟨j, hj, hbounds⟩ := hbounds
  cases hj
  obtain ⟨mins', hmins, hbounds⟩ := Except.bind_eq_ok.mp hbounds
  obtain ⟨maxes', hmaxes, hbounds⟩ := Except.bind_eq_ok.mp hbounds
  cases hbounds
  obtain ⟨hminslots, hmintype⟩ := C.rowGroupMins_ok hmins
  obtain ⟨hmaxslots, hmaxtype⟩ := C.rowGroupMaxes_ok hmaxes
  obtain ⟨min, hmin, hmintrust⟩ := scalarFromArray_eq_some.mp hlo
  obtain ⟨max, hmax, hmaxtrust⟩ := scalarFromArray_eq_some.mp hhi
  rw [hminslots, List.getElem?_map, hg, Option.map_some, Option.some.injEq] at hmin
  rw [hmaxslots, List.getElem?_map, hg, Option.map_some, Option.some.injEq] at hmax
  rw [hmintype field hf] at hmintrust
  rw [hmaxtype field hf] at hmaxtrust
  have htyped := columnStatistics_typed rowGroup hf
  exact ⟨min, max, hmin, hmax, htyped.1 min hmin, htyped.2 max hmax,
    hmintrust, hmaxtrust⟩

/-- For a row whose value matches the filter, the group is skipped exactly under a
hazard. -/
theorem keepsRowGroup_eq_false_iff_of_match (hstat : StatisticsBound file) {filter : FilterExpr}
    {located : LocatedRow file.schema} (hmem : located ∈ file.allRows) {i : Nat} {field : Field}
    {verdict : Slot → Option Bool} {x : Value} (hi' : indexOf file.schema filter.column = .ok i)
    (hf : file.schema[i]? = some field)
    (hverdict : rowPredicate C.toArrowKernels field.dataType filter.op filter.value = some verdict)
    (hx : located.row.slot i = some x) (htrue : verdict (some x) = some true) :
    keepsRowGroup C file filter located.group = false ↔ HazardousRow C file filter located := by
  obtain ⟨-, rowGroup, hg, hrow⟩ := mem_groupRows (mem_allRows.mp hmem)
  have hxtype := located.row.slot_hasType hf hx
  have hbound := hstat rowGroup (List.mem_of_getElem? hg) located.row hrow i
    (List.getElem?_eq_some_iff.mp hf).1 x hx
  have hcore : ∀ {mins maxes lo hi}, rowGroupBounds C file filter = .ok (mins, maxes) →
      scalarFromArray mins located.group = some lo →
      scalarFromArray maxes located.group = some hi →
      (couldMatchRange filter.op filter.value (some lo) (some hi) = false ↔
        PruneHazard filter.op filter.value x lo hi) := by
    intro mins maxes lo hi hbounds hlo hhi
    obtain ⟨min, max, hmin, hmax, hmintype, hmaxtype, hmintrust, hmaxtrust⟩ :=
      rowGroupBounds_eq_ok hi' hf hbounds hg hlo hhi
    exact couldMatchRange_iff_hazard hverdict hxtype htrue hmintype hmaxtype
      (fun hnan => ⟨(hbound hnan).1 min hmin, (hbound hnan).2 max hmax⟩) hmintrust hmaxtrust
  unfold keepsRowGroup
  constructor
  · intro hskip
    cases hbounds : rowGroupBounds C file filter with
    | error e =>
        rw [hbounds] at hskip
        cases hskip
    | ok bounds =>
        obtain ⟨mins, maxes⟩ := bounds
        rw [hbounds] at hskip
        simp only at hskip
        cases hlo : scalarFromArray mins located.group with
        | none =>
            rw [hlo] at hskip
            cases hskip
        | some lo =>
            cases hhi : scalarFromArray maxes located.group with
            | none =>
                rw [hlo, hhi] at hskip
                cases hskip
            | some hi =>
                rw [hlo, hhi] at hskip
                exact ⟨i, x, mins, maxes, lo, hi, hi', hx, hbounds, hlo, hhi,
                  (hcore hbounds hlo hhi).mp hskip⟩
  · rintro ⟨i', x', mins, maxes, lo, hi, hi'', hx', hbounds, hlo, hhi, hhazard⟩
    rw [hi'] at hi''
    cases hi''
    rw [hx] at hx'
    cases hx'
    rw [hbounds]
    simp only [hlo, hhi]
    exact (hcore hbounds hlo hhi).mpr hhazard

/-- For a row that passes its filter, the group is skipped exactly under a hazard. -/
theorem keepsRowGroup_eq_false_iff (hstat : StatisticsBound file) {filter : FilterExpr}
    {located : LocatedRow file.schema} (hmem : located ∈ file.allRows)
    (hpass : passes C filter located.row = true) :
    keepsRowGroup C file filter located.group = false ↔ HazardousRow C file filter located := by
  obtain ⟨-, i, field, verdict, x, hi', hf, hverdict, hx, htrue⟩ := passes_eq_true.mp hpass
  exact keepsRowGroup_eq_false_iff_of_match hstat hmem hi' hf hverdict hx htrue

end
end Pydart
