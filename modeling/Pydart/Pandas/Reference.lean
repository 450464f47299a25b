import Pydart.Pandas.Frame

/-! # A pandas to run the conversion on

The documented behaviour as functions: a stream of one batch for what pandas copies
and of the chunks for Arrow memory, and frames rebuilt from one batch of all rows.
-/

namespace Pydart

/-! ## Exports -/

theorem hasType_of_ticks {t : DataType} {ticks : List (Option Int)}
    (h : ∀ n, (Value.ticks n).hasType t = true) :
    ∀ v, some v ∈ ticks.map (Option.map Value.ticks) → v.hasType t = true := by
  intro v hv
  obtain ⟨tick, -, htick⟩ := List.mem_map.mp hv
  obtain ⟨n, -, rfl⟩ := Option.map_eq_some_iff.mp htick
  exact h n

theorem Series.exportSlots_hasType {series : Series} {t : DataType}
    (h : series.exportType = some t) :
    ∀ v, some v ∈ series.exportSlots → v.hasType t = true := by
  cases series with
  | arrow array =>
      cases h
      intro v hv
      obtain ⟨chunk, hchunk, hv⟩ := List.mem_flatten.mp hv
      exact array.typed chunk hchunk v hv
  | categorical ordered array =>
      cases array with
      | none => cases h
      | some array =>
          cases h
          exact array.typed
  | datetimeTz unit tz ticks flag =>
      simp only [exportType] at h
      split at h
      · cases h
        exact hasType_of_ticks fun _ => rfl
      · cases h
  | extension typeName length => cases h
  | numeric array =>
      simp only [exportType] at h
      split at h
      · intro v hv
        obtain ⟨w, hw, hwv⟩ := List.mem_map.mp hv
        split at hwv
        · cases hwv
        · cases hwv
          exact array.typed t h v hw
      · cases h
  | bool values flag =>
      cases h
      intro v hv
      obtain ⟨b, -, hb⟩ := List.mem_map.mp hv
      cases hb
      rfl
  | object values flag =>
      simp only [exportType] at h
      split at h
      · cases h
        intro v hv
        obtain ⟨value, hvalue, hv⟩ := List.mem_map.mp hv
        split at hv
        · cases hv
          have hany : values.any PyObject.isStr = true := List.any_eq_true.mpr ⟨_, hvalue, rfl⟩
          rw [hany]
          rfl
        · cases hv
      · cases h
  | datetime64 unit ticks flag =>
      simp only [exportType] at h
      split at h
      · cases h
        exact hasType_of_ticks fun _ => rfl
      · cases h
  | timedelta64 unit ticks flag =>
      simp only [exportType] at h
      split at h
      · cases h
        exact hasType_of_ticks fun _ => rfl
      · cases h
  | other dtype length flag => cases h

def streamField (label : Label) (series : Series) (t : DataType) : Field where
  name := label.text
  dataType := t
  nullable := true
  ordered := match series.dtype with
    | .categorical ordered => ordered
    | _ => false
  metadata := []

/-- The chunks of an Arrow column as they are, everything else in one copied batch. -/
def exportStream (label : Label) (series : Series) : Except PydartError StreamTable :=
  match series with
  | .arrow array => .ok
      { field := streamField label (.arrow array) array.dataType
        batches := array.chunks.attach.map fun chunk =>
          ⟨⟨array.dataType, chunk.1, array.typed chunk.1 chunk.2⟩, false⟩
        typed := by
          intro batch hbatch
          obtain ⟨chunk, -, rfl⟩ := List.mem_map.mp hbatch
          rfl }
  | series =>
      match h : series.exportType with
      | some t => .ok
          { field := streamField label series t
            batches := [⟨⟨t, series.exportSlots, series.exportSlots_hasType h⟩, true⟩]
            typed := by simp [streamField] }
      | none => .error (.python "ArrowInvalid")

/-! ## Frames from tables -/

def rebuildSeries (typesMapper : DataType → Option Dtype) (field : Field) (array : ArrowArray) :
    Series :=
  match typesMapper array.dataType with
  | some _ => .arrow ⟨array.dataType, [array.slots], by simpa using array.typed⟩
  | none =>
      match h : array.dataType with
      | .dictionary key value =>
          .categorical field.ordered (some ⟨key, value, array.slots, h ▸ array.typed⟩)
      | _ => .extension "object" array.slots.length

theorem length_rebuildSeries (typesMapper : DataType → Option Dtype) (field : Field)
    (array : ArrowArray) :
    (rebuildSeries typesMapper field array).length = array.slots.length := by
  unfold rebuildSeries
  split
  · simp [Series.length]
  · split <;> rfl

theorem rebuildSeries_arrow {typesMapper : DataType → Option Dtype} {field : Field}
    {array : ArrowArray} {dtype : Dtype} (h : typesMapper array.dataType = some dtype) :
    ∃ chunked, rebuildSeries typesMapper field array = .arrow chunked ∧
      chunked.dataType = array.dataType ∧ chunked.chunks.flatten = array.slots := by
  unfold rebuildSeries
  rw [h]
  exact ⟨_, rfl, rfl, by simp⟩

theorem rebuildSeries_dictionary {typesMapper : DataType → Option Dtype} {field : Field}
    {array : ArrowArray} {key value : DataType} (h : typesMapper array.dataType = none)
    (hdict : array.dataType = .dictionary key value) :
    ∃ categorical : CategoricalArray,
      rebuildSeries typesMapper field array = .categorical field.ordered (some categorical) ∧
        array.dataType = .dictionary categorical.key categorical.value ∧
        categorical.slots = array.slots := by
  unfold rebuildSeries
  rw [h]
  simp only
  split
  · rename_i key' value' hdict'
    exact ⟨_, rfl, hdict', rfl⟩
  · rename_i hnot
    exact absurd hdict (hnot key value)

def fieldArray (batch : RecordBatch) (j : Fin batch.schema.length) : ArrowArray where
  dataType := batch.schema[j].dataType
  slots := batch.rows.map (·.getD j none)
  typed := by
    intro v hv
    obtain ⟨row, hrow, hslot⟩ := List.mem_map.mp hv
    exact Row.slot_hasType ⟨row, batch.typed row hrow⟩ (List.getElem?_eq_getElem j.2) hslot

def rebuildFrame (typesMapper : DataType → Option Dtype) (batch : RecordBatch) : DataFrame where
  columns := List.ofFn fun j : Fin batch.schema.length =>
    (.str batch.schema[j].name, rebuildSeries typesMapper batch.schema[j] (fieldArray batch j))
  numRows := batch.rows.length
  sized := by
    intro column hcolumn
    obtain ⟨j, rfl⟩ := List.mem_ofFn.mp hcolumn
    simp [length_rebuildSeries, fieldArray]

def frameOfBatches (typesMapper : DataType → Option Dtype) (schema : Schema)
    (batches : List RecordBatch) : Except PydartError DataFrame :=
  if h : ∀ batch ∈ batches, batch.schema = schema then
    .ok (rebuildFrame typesMapper
      { schema := schema
        rows := batches.flatMap (·.rows)
        typed := by
          intro row hrow
          obtain ⟨batch, hbatch, hrow⟩ := List.mem_flatMap.mp hrow
          exact h batch hbatch ▸ batch.typed row hrow })
  else .error (.python "ArrowInvalid")

/-! ## Concatenation -/

def concatArrays (arrays : List ArrowArray) : Except ArrowError ArrowArray :=
  match arrays with
  | [] => .error (.invalidArgumentError "concat requires input of at least one array")
  | first :: rest =>
      if h : ∀ array ∈ first :: rest, array.dataType = first.dataType then
        .ok
          { dataType := first.dataType
            slots := (first :: rest).flatMap (·.slots)
            typed := by
              intro v hv
              obtain ⟨array, harray, hv⟩ := List.mem_flatMap.mp hv
              exact h array harray ▸ array.typed v hv }
      else
        .error (.invalidArgumentError
          "It is not possible to concatenate arrays of different data types")

/-! ## The laws -/

def dtypeText : Dtype → String
  | .numpy .bool => "bool"
  | .numpy (.numeric dtype) => dtype.name
  | .numpy .object => "object"
  | .numpy (.datetime64 unit) => "datetime64[" ++ unit ++ "]"
  | .numpy (.timedelta64 unit) => "timedelta64[" ++ unit ++ "]"
  | .numpy (.other dtype) => dtype.kind
  | .categorical _ => "category"
  | .datetimeTz unit tz => "datetime64[" ++ unit ++ ", " ++ tz ++ "]"
  | .extension typeName => typeName
  | .arrow .int64 => "int64[pyarrow]"
  | .arrow .float64 => "double[pyarrow]"
  | .arrow .utf8 => "string[pyarrow]"
  | .arrow .null => "null[pyarrow]"
  | .arrow _ => "arrow[pyarrow]"

theorem exportStream_of_not_arrow {label : Label} {series : Series} {t : DataType}
    (hseries : ∀ array, series ≠ .arrow array) (h : series.exportType = some t) :
    exportStream label series = .ok
      { field := streamField label series t
        batches := [⟨⟨t, series.exportSlots, series.exportSlots_hasType h⟩, true⟩]
        typed := by simp [streamField] } := by
  unfold exportStream
  split
  · exact absurd rfl (hseries _)
  · split
    · rename_i t' h'
      cases h.symm.trans h'
      rfl
    · rename_i h'
      cases h.symm.trans h'

theorem exportStream_none {label : Label} {series : Series} (h : series.exportType = none) :
    exportStream label series = .error (.python "ArrowInvalid") := by
  unfold exportStream
  split
  · cases h
  · split
    · rename_i h'
      cases h.symm.trans h'
    · rfl

theorem flatMap_attach_chunks (array : ChunkedArray) (chunks : List {c // c ∈ array.chunks}) :
    (chunks.map fun chunk =>
        (⟨⟨array.dataType, chunk.1, array.typed chunk.1 chunk.2⟩, false⟩ : Imported)).flatMap
      (·.array.slots) = (chunks.map (·.1)).flatten := by
  rw [List.flatMap_map, List.flatMap_def]

def referencePandas : PandasCrates where
  str := dtypeText
  debug text := "\"" ++ text ++ "\""
  arrowCStream := exportStream
  concat := concatArrays
  tableToPandas := frameOfBatches
  stream_ok := by
    intro label series t h
    cases series with
    | arrow array =>
        cases h
        refine ⟨_, rfl, rfl, ?_⟩
        rw [flatMap_attach_chunks, List.attach_map_subtype_val]
        rfl
    | _ => exact ⟨_, exportStream_of_not_arrow (by simp) h, rfl, by simp⟩
  stream_nullable := by
    intro label series table h
    unfold exportStream at h
    split at h
    · cases h
      rfl
    · split at h
      · cases h
        rfl
      · cases h
  stream_numeric_error := fun label _ h => ⟨_, exportStream_none h⟩
  stream_categorical_error := fun label ordered => ⟨_, exportStream_none rfl⟩
  stream_shares := by
    intro label array table h batch hbatch
    cases h
    obtain ⟨chunk, -, rfl⟩ := List.mem_map.mp hbatch
    rfl
  stream_copies := by
    intro label series table hseries h batch hbatch
    cases hexport : series.exportType with
    | none =>
        rw [exportStream_none hexport] at h
        cases h
    | some t =>
        rw [exportStream_of_not_arrow hseries hexport] at h
        cases h
        rw [List.mem_singleton.mp hbatch]
  concat_ok := by
    intro arrays t hne hsame
    obtain ⟨first, rest, rfl⟩ := List.exists_cons_of_ne_nil hne
    have hfirst := hsame first List.mem_cons_self
    have hall : ∀ array ∈ first :: rest, array.dataType = first.dataType :=
      fun array harray => (hsame array harray).trans hfirst.symm
    exact ⟨_, dif_pos hall, hfirst, rfl⟩
  tableToPandas_labels := by
    intro typesMapper schema batches df h
    unfold frameOfBatches at h
    split at h
    · cases h
      simp only [rebuildFrame, List.map_ofFn]
      exact List.ofFn_getElem_eq_map schema fun field => Label.str field.name
    · cases h
  tableToPandas_column := by
    intro typesMapper schema batches df hbatches hmapper h j field column hf hc _
    rw [frameOfBatches, dif_pos hbatches] at h
    cases h
    obtain ⟨hlt, rfl⟩ := List.getElem?_eq_some_iff.mp hf
    simp only [rebuildFrame, List.getElem?_ofFn, dif_pos hlt, Option.some.injEq] at hc
    subst hc
    refine ⟨rfl, ?_⟩
    rcases hmapper _ (List.getElem_mem hlt) with hsome | ⟨hnone, key, value, hdict⟩
    · rw [hsome]
      exact rebuildSeries_arrow hsome
    · rw [hnone]
      exact rebuildSeries_dictionary hnone hdict
  tableToPandas_ok := fun hbatches _ _ => ⟨_, dif_pos hbatches⟩

end Pydart
