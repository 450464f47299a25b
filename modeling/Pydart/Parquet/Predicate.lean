import Pydart.Parquet.Io

/-! # What the row predicate and the row filter compute

`evaluate_predicate` acts slot by slot, with a verdict that depends on the column
only through its type. The row filter therefore keeps the rows every filter
passes, wherever the reader cuts its batches.
-/

namespace Pydart

section

variable (K : ArrowKernels)

/-- The verdict on one slot, where the evaluation succeeds at all. -/
def rowPredicate (dataType : DataType) (op : Op) (value : ScalarValue) :
    Option (Slot → Option Bool) :=
  match outOfRangeMatch dataType op value with
  | some allRowsMatch => some fun slot => some (slot.isSome && allRowsMatch)
  | none =>
      match K.cast (scalarValueToArray value) dataType with
      | .error _ => none
      | .ok casted =>
          if K.comparable dataType then
            some fun slot => (compareKernel op).slot (K.order dataType.storage) slot
              (casted.slots.getD 0 none)
          else none

theorem holds_compareKernel (op : Op) (o : Ordering) : (compareKernel op).holds o = op.test o := by
  cases op <;> rfl

theorem scalarValueToArray_slots_length (value : ScalarValue) :
    (scalarValueToArray value).slots.length = 1 := by
  cases value <;> rfl

theorem map_isNull (column : ArrowArray) (allRowsMatch : Bool) :
    ((List.range column.length).map fun i => some (!column.isNull i && allRowsMatch)) =
      column.slots.map fun slot => some (slot.isSome && allRowsMatch) := by
  apply List.ext_getElem
  · simp [ArrowArray.length]
  · intro i h₁ h₂
    have hi : i < column.slots.length := by simpa using h₂
    simp [ArrowArray.isNull, List.getD_eq_getElem?_getD, List.getElem?_eq_getElem hi]

variable {K}

theorem cast_literal_slots {value : ScalarValue} {dataType : DataType} {casted : ArrowArray}
    (h : K.cast (scalarValueToArray value) dataType = .ok casted) :
    casted.dataType = dataType ∧ casted.slots = [casted.slots.getD 0 none] := by
  obtain ⟨htype, hlen⟩ := K.cast_shape h
  rw [scalarValueToArray_slots_length] at hlen
  refine ⟨htype, ?_⟩
  obtain ⟨slot, hslot⟩ := List.length_eq_one_iff.mp hlen
  rw [hslot]
  rfl

theorem evaluatePredicate_eq_ok {batch : RecordBatch} {column : ArrowArray}
    (hcolumn : batch.column 0 = some column) {op : Op} {value : ScalarValue}
    {result : BooleanArray} :
    evaluatePredicate K batch op value = .ok result ↔
      ∃ verdict, rowPredicate K column.dataType op value = some verdict ∧
        column.slots.map verdict = result := by
  unfold evaluatePredicate rowPredicate
  simp only [hcolumn]
  cases hguard : outOfRangeMatch column.dataType op value with
  | some allRowsMatch =>
      simp only [Option.some.injEq, exists_eq_left', map_isNull]
      constructor
      · intro h
        cases h
        rfl
      · intro h
        rw [h]
        rfl
  | none =>
      cases hcast : K.cast (scalarValueToArray value) column.dataType with
      | error e =>
          simp only [Except.bind_eq_ok, liftArrow_eq_ok, reduceCtorEq, false_and, exists_false]
      | ok casted =>
          obtain ⟨htype, hslots⟩ := cast_literal_slots hcast
          simp only [Except.bind_eq_ok, liftArrow_eq_ok, Except.ok.injEq, exists_eq_left']
          cases hcomp : K.comparable column.dataType with
          | true =>
              rw [K.compare_ok htype.symm hcomp hslots]
              simp
          | false =>
              have herror : ∃ e, K.compare (compareKernel op) column casted = .error e :=
                K.compare_error htype.symm hcomp
              obtain ⟨e, he⟩ := herror
              rw [he]
              simp

theorem evaluatePredicate_no_column {batch : RecordBatch} (hcolumn : batch.column 0 = none)
    (op : Op) (value : ScalarValue) :
    evaluatePredicate K batch op value = .error .panicked := by
  unfold evaluatePredicate
  rw [hcolumn]
  rfl

end

/-! ## Filters on rows -/

section

variable (C : Crates) {schema : Schema}

/-- A filter as a test on rows: none where its evaluation fails or panics. -/
def filterPredicate (schema : Schema) (filter : FilterExpr) : Option (Row schema → Bool) :=
  match C.projectionMask schema [filter.column] with
  | [] => none
  | i :: _ =>
      match schema[i]? with
      | none => none
      | some field =>
          (rowPredicate C.toArrowKernels field.dataType filter.op filter.value).map
            fun verdict row => verdict (row.slot i) == some true

def passes (filter : FilterExpr) (row : Row schema) : Bool :=
  match filterPredicate C schema filter with
  | none => false
  | some test => test row

def toPredicate (schema : Schema) (filter : FilterExpr) : ArrowPredicate where
  projection := C.projectionMask schema [filter.column]
  evaluate batch := evaluatePredicate C.toArrowKernels batch filter.op filter.value

theorem buildRowFilter_eq (filters : List FilterExpr) :
    buildRowFilter C schema filters = filters.map (toPredicate C schema) := rfl

/-- Every predicate that gets rows to look at evaluates successfully on them. -/
def FiltersRun : List FilterExpr → List (Row schema) → Prop
  | [], _ => True
  | filter :: filters, rows =>
      (rows ≠ [] → (filterPredicate C schema filter).isSome = true) ∧
        FiltersRun filters (rows.filter (passes C filter))

variable {C}

theorem keepTrue_map {α : Type} (flag : α → Option Bool) (entries : List α) :
    keepTrue (entries.map flag) entries = entries.filter (fun entry => flag entry == some true) := by
  induction entries with
  | nil => rfl
  | cons entry entries ih =>
      rw [List.map_cons, keepTrue, List.filter_cons, ih]
      by_cases h : flag entry = some true
      · simp [h]
      · simp [h]

theorem pick_cons_of_lt {α : Type} {entries : List α} {i : Nat} {rest : List Nat} {a : α}
    (h : entries[i]? = some a) : pick entries (i :: rest) = a :: pick entries rest := by
  simp [pick, h]

theorem projectedBatch_column {i : Nat} {field : Field} (hfield : schema[i]? = some field)
    (rest : List Nat) (rows : List (LocatedRow schema)) :
    ∃ column, (projectedBatch (i :: rest) rows).column 0 = some column ∧
      column.dataType = field.dataType ∧ column.slots = rows.map (·.row.slot i) := by
  have hi : i < schema.length := (List.getElem?_eq_some_iff.mp hfield).1
  have hpick : (projectedBatch (i :: rest) rows).schema[0]? = some field := by
    simp only [projectedBatch, RecordBatch.ofRows, pick_cons_of_lt hfield,
      List.getElem?_cons_zero]
  obtain ⟨column, hcolumn, htype, hslots⟩ := RecordBatch.column_eq_some hpick
  refine ⟨column, hcolumn, htype, ?_⟩
  rw [hslots]
  simp only [projectedBatch, RecordBatch.ofRows, List.map_map]
  apply List.map_congr_left
  intro located _
  simp only [Function.comp, Row.pick, pick_cons_of_lt (located.row.slots_getElem? hi)]
  rfl

theorem runPredicate_toPredicate {filter : FilterExpr} {rows kept : List (LocatedRow schema)} :
    runPredicate (toPredicate C schema filter) rows = .ok kept ↔
      (filterPredicate C schema filter).isSome = true ∧
        kept = rows.filter (fun located => passes C filter located.row) := by
  unfold runPredicate toPredicate passes filterPredicate
  rw [Except.bind_eq_ok]
  cases hmask : C.projectionMask schema [filter.column] with
  | nil =>
      have hnone : (projectedBatch ([] : List Nat) rows).column 0 = none :=
        RecordBatch.column_eq_none rfl
      simp [evaluatePredicate_no_column hnone]
  | cons i rest =>
      have hi : i < schema.length := by
        have hmem : i ∈ C.projectionMask schema [filter.column] := by rw [hmask]; simp
        rw [C.projectionMask_eq, maskedColumns, List.mem_filter, List.mem_range] at hmem
        exact hmem.1
      have hfield : schema[i]? = some schema[i] := List.getElem?_eq_getElem hi
      obtain ⟨column, hcolumn, htype, hslots⟩ := projectedBatch_column hfield rest rows
      simp only [evaluatePredicate_eq_ok hcolumn, htype, hslots, hfield]
      cases hverdict : rowPredicate C.toArrowKernels schema[i].dataType filter.op filter.value with
      | none => simp
      | some verdict =>
          simp only [Option.some.injEq, exists_eq_left', List.map_map, Option.map_some,
            Option.isSome_some, true_and]
          rw [List.length_map, if_pos rfl, keepTrue_map]
          constructor
          · intro h
            cases h
            rfl
          · intro h
            rw [h]
            rfl

/-! ## Batches of a stage -/

theorem splitSizes_flatten {α : Type} {sizes : List Nat} {entries : List α}
    (h : sizes.sum = entries.length) : (splitSizes sizes entries).flatten = entries := by
  induction sizes generalizing entries with
  | nil =>
      rw [List.sum_nil] at h
      rw [List.eq_nil_of_length_eq_zero h.symm]
      rfl
  | cons size sizes ih =>
      rw [List.sum_cons] at h
      rw [splitSizes, List.flatten_cons, ih (by rw [List.length_drop]; omega),
        List.take_append_drop]

theorem ne_nil_of_mem_splitSizes {α : Type} {sizes : List Nat} {entries chunk : List α}
    (h : sizes.sum = entries.length) (hpos : ∀ size ∈ sizes, 0 < size)
    (hmem : chunk ∈ splitSizes sizes entries) : chunk ≠ [] := by
  induction sizes generalizing entries with
  | nil => cases hmem
  | cons size sizes ih =>
      rw [List.sum_cons] at h
      have hsize := hpos size List.mem_cons_self
      rw [splitSizes, List.mem_cons] at hmem
      cases hmem with
      | inl heq =>
          intro hnil
          rw [hnil, eq_comm, List.take_eq_nil_iff] at heq
          cases heq with
          | inl hzero => omega
          | inr hempty =>
              rw [hempty, List.length_nil] at h
              omega
      | inr hrest =>
          exact ih (by rw [List.length_drop]; omega)
            (fun s hs => hpos s (List.mem_cons_of_mem _ hs)) hrest

theorem splitSizes_eq_nil_iff {α : Type} {sizes : List Nat} {entries : List α}
    (h : sizes.sum = entries.length) (hpos : ∀ size ∈ sizes, 0 < size) :
    splitSizes sizes entries = [] ↔ entries = [] := by
  cases sizes with
  | nil =>
      rw [List.sum_nil] at h
      simp [splitSizes, List.eq_nil_of_length_eq_zero h.symm]
  | cons size sizes =>
      rw [List.sum_cons] at h
      have hsize := hpos size List.mem_cons_self
      constructor
      · intro hnil
        cases hnil
      · intro hnil
        rw [hnil, List.length_nil] at h
        omega

theorem mapM_runPredicate {filter : FilterExpr} {rows : List (LocatedRow schema)}
    {sizes : List Nat} (hsum : sizes.sum = rows.length) (hpos : ∀ size ∈ sizes, 0 < size)
    {kept : List (List (LocatedRow schema))} :
    (splitSizes sizes rows).mapM (runPredicate (toPredicate C schema filter)) = .ok kept ↔
      (rows ≠ [] → (filterPredicate C schema filter).isSome = true) ∧
        kept = (splitSizes sizes rows).map
          (·.filter (fun located => passes C filter located.row)) := by
  rw [Except.mapM_eq_ok]
  simp only [runPredicate_toPredicate]
  constructor
  · intro h
    constructor
    · intro hne
      cases hsplit : splitSizes sizes rows with
      | nil => exact absurd ((splitSizes_eq_nil_iff hsum hpos).mp hsplit) hne
      | cons chunk chunks =>
          rw [hsplit] at h
          cases h with
          | cons hhead _ => exact hhead.1
    · clear hsum hpos
      generalize splitSizes sizes rows = chunks at h
      induction h with
      | nil => rfl
      | cons hhead _ ih => rw [List.map_cons, hhead.2, ih]
  · rintro ⟨hrun, rfl⟩
    rw [List.forall₂_map_right_iff, List.forall₂_same]
    intro chunk hchunk
    refine ⟨hrun ?_, rfl⟩
    intro hnil
    subst hnil
    have hne := ne_nil_of_mem_splitSizes hsum hpos hchunk
    have hflat := splitSizes_flatten hsum
    exact hne (List.flatten_eq_nil_iff.mp hflat chunk hchunk)

theorem map_filter_flatten {α : Type} (p : α → Bool) (chunks : List (List α)) :
    (chunks.map (·.filter p)).flatten = chunks.flatten.filter p := by
  rw [List.filter_flatten]

/-- A row filter that succeeds keeps exactly the rows every filter passes. -/
theorem runRowFilter_eq_ok {sizes : Nat → List (Nat × Nat) → List Nat}
    (hsum : ∀ stage selected, (sizes stage selected).sum = selected.length)
    (hpos : ∀ stage selected, ∀ size ∈ sizes stage selected, 0 < size)
    {filters : List FilterExpr} {stage : Nat} {rows selected : List (LocatedRow schema)} :
    runRowFilter sizes stage (buildRowFilter C schema filters) rows = .ok selected ↔
      FiltersRun C filters (rows.map (·.row)) ∧
        selected = rows.filter (fun located => filters.all (passes C · located.row)) := by
  induction filters generalizing stage rows with
  | nil =>
      simp only [buildRowFilter_eq, List.map_nil, runRowFilter, FiltersRun, List.all_nil,
        List.filter_true, true_and]
      constructor
      · intro h
        cases h
        rfl
      · intro h
        rw [h]
        rfl
  | cons filter filters ih =>
      have hlen : (sizes stage (rows.map LocatedRow.position)).sum = rows.length := by
        rw [hsum, List.length_map]
      rw [buildRowFilter_eq, List.map_cons, runRowFilter, Except.bind_eq_ok]
      simp only [mapM_runPredicate hlen (hpos _ _)]
      have hmap : (rows.filter (fun located => passes C filter located.row)).map (·.row) =
          (rows.map (·.row)).filter (passes C filter) := by
        rw [List.filter_map]
        rfl
      constructor
      · rintro ⟨kept, ⟨hrun, rfl⟩, hrest⟩
        rw [map_filter_flatten, splitSizes_flatten hlen, ← buildRowFilter_eq, ih, hmap] at hrest
        refine ⟨⟨?_, hrest.1⟩, ?_⟩
        · intro hne
          exact hrun (by simpa using hne)
        · rw [hrest.2, List.filter_filter]
          simp only [List.all_cons, Bool.and_comm]
      · rintro ⟨⟨hrun, hrest⟩, rfl⟩
        refine ⟨_, ⟨fun hne => hrun (by simpa using hne), rfl⟩, ?_⟩
        rw [map_filter_flatten, splitSizes_flatten hlen, ← buildRowFilter_eq, ih, hmap]
        refine ⟨hrest, ?_⟩
        rw [List.filter_filter]
        simp only [List.all_cons, Bool.and_comm]

theorem FiltersRun.sublist {filters : List FilterExpr} {rows fewer : List (Row schema)}
    (h : FiltersRun C filters rows) (hsub : fewer.Sublist rows) : FiltersRun C filters fewer := by
  induction filters generalizing rows fewer with
  | nil => trivial
  | cons filter filters ih =>
      refine ⟨?_, ih h.2 (hsub.filter _)⟩
      intro hne
      apply h.1
      intro hnil
      subst hnil
      exact hne (List.sublist_nil.mp hsub)

theorem selectRows_eq_ok {file : ParquetFile} {groups : List Nat} {filters : List FilterExpr}
    {selected : List (LocatedRow file.schema)} :
    selectRows C file groups (buildRowFilter C file.schema filters) = .ok selected ↔
      FiltersRun C filters ((file.locatedRows groups).map (·.row)) ∧
        selected = (file.locatedRows groups).filter
          (fun located => filters.all (passes C · located.row)) :=
  runRowFilter_eq_ok (C.batchSizes_sum file groups) (C.batchSizes_pos file groups)

end
end Pydart
