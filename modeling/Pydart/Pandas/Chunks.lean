import Pydart.Pandas.Closure

/-! # Chunks

However the export cuts a column into batches, none of them included, the column is
imported whole: the slots, the type and the nullability do not depend on the cuts,
and only the record tells of them.
-/

namespace Pydart

/-- A column in two chunkings. -/
inductive SameUpToChunks : Series → Series → Prop where
  | same (series : Series) : SameUpToChunks series series
  | arrow (array array' : ChunkedArray) (dataType : array.dataType = array'.dataType)
      (slots : array.chunks.flatten = array'.chunks.flatten) :
      SameUpToChunks (.arrow array) (.arrow array')

/-- The frames differ in how their Arrow-backed columns are cut. -/
def ChunkVariants (df df' : DataFrame) : Prop :=
  List.Forall₂ (fun a b => a.1 = b.1 ∧ SameUpToChunks a.2 b.2) df.columns df'.columns

namespace Series

/-- All values of a column in order: a flat numpy buffer as it is, the rest as
exported. -/
def importedSlots : Series → List Slot
  | numeric array =>
      if array.cContiguous then array.values.map some else (numeric array).exportSlots
  | series => series.exportSlots

def importedNullable : Series → Bool
  | numeric array => !array.cContiguous
  | _ => true

theorem length_importedSlots {series : Series} {t : DataType} (h : series.exportType = some t) :
    series.importedSlots.length = series.length := by
  have hexport := length_exportSlots h
  cases series with
  | numeric array =>
      rw [importedSlots]
      split
      · simp [length]
      · exact hexport
  | _ => exact hexport

end Series

def Dtype.ordered? : Dtype → Option Bool
  | .categorical ordered => some ordered
  | _ => none

theorem Classified.isOrdered_eq {dtype : Dtype} {backend : DtypeBackend} {kind : ArrowKind}
    (h : Classified dtype backend kind) : isOrdered backend dtype = dtype.ordered? := by
  cases h <;> rfl

/-- A column as it is imported, whatever batches it came in. -/
structure ImportsAs (P : PandasCrates) (label : Label) (series : Series)
    (column : ConvertedColumn) : Prop where
  dataType : series.exportType = some column.array.array.dataType
  slots : column.array.array.slots = series.importedSlots
  field : column.field = buildField label.text column.array.array series.dtype.ordered?
    series.importedNullable
  label : column.record.column = label.text
  dtype : column.record.dtype = P.str series.dtype

section

variable {P : PandasCrates} {df : DataFrame} {label : Label}

theorem Borrowed.importsAs {series : Series} {column : ConvertedColumn}
    (h : Borrowed label series column) (hrecord : column.record = borrowedRecord P label series) :
    ImportsAs P label series column := by
  obtain ⟨values, t, ht, rfl, hflat, hnative, -, hfield, harray⟩ := h
  refine ⟨?_, ?_, ?_, by rw [hrecord]; rfl, by rw [hrecord]; rfl⟩
  · rw [Series.exportType, if_pos hnative, harray]
    exact ht
  · rw [Series.importedSlots, if_pos hflat, harray]
    rfl
  · rw [hfield, harray]
    simp [Series.importedNullable, hflat, Series.dtype, Dtype.ordered?]

theorem Streamed.importsAs {series : Series} {backend : DtypeBackend} {count : Nat}
    {column : ConvertedColumn} (h : Streamed P label series backend count column)
    (hrecord : StreamedRecord P label series backend count column.record) {t : DataType}
    (hexport : series.exportType = some t) : ImportsAs P label series column := by
  obtain ⟨htype, hslots⟩ := h.exported hexport
  obtain ⟨table, kind, flag, htable, -, hclassified, hflat, hnot, -, hfield⟩ := h
  have hstrided : ∀ values, series = .numeric values → values.cContiguous = false := by
    rintro values rfl
    cases hclassified
    rw [isContiguous, Series.cContiguous, Except.ok.injEq] at hflat
    rw [hflat]
    simpa using hnot
  refine ⟨htype.symm ▸ hexport, ?_, ?_, hrecord.names.1, hrecord.names.2⟩
  · cases series with
    | numeric values =>
        rw [hslots, Series.importedSlots, hstrided values rfl]
        rfl
    | _ => exact hslots
  · have hnullable : series.importedNullable = true := by
      cases series with
      | numeric values => simp [Series.importedNullable, hstrided values rfl]
      | _ => rfl
    rw [hfield, hclassified.isOrdered_eq, P.stream_nullable htable, hnullable]

theorem convertColumn_importsAs {series : Series} {column : ConvertedColumn}
    (hitem : df.getItem label = .ok series) (h : convertColumn P df label = .ok column.state) :
    ImportsAs P label series column := by
  obtain ⟨hexport, -⟩ := convertColumn_exportType hitem h
  obtain ⟨series', backend, column', hitem', hstate, -, harm⟩ := convertColumn_eq_ok h
  cases hitem.symm.trans hitem'
  cases ConvertedColumn.state_injective hstate
  rcases harm with ⟨-, hborrowed, hrecord⟩ | ⟨count, hstreamed, hrecord⟩
  · exact hborrowed.importsAs hrecord
  · exact hstreamed.importsAs hrecord hexport

/-! ## Whole frames -/

theorem ConvertsTo.importsAs {columns : List ConvertedColumn} (h : ConvertsTo P df columns) :
    List.Forall₂ (fun column converted => ImportsAs P column.1 column.2 converted)
      df.columns columns := by
  rw [List.forall₂_iff_get]
  refine ⟨h.length_eq, fun j hj hj' => ?_⟩
  have hconvert := (List.forall₂_iff_get.mp h).2 j hj hj'
  obtain ⟨series, -, -, hitem, -⟩ := convertColumn_eq_ok hconvert
  have heq := getItem_of_mem hitem (List.get_mem df.columns ⟨j, hj⟩)
  rw [← heq] at hitem
  exact convertColumn_importsAs hitem hconvert

/-- Columns that convert alone make a batch of all rows together. -/
theorem fromPandas_of_columns (hne : df.columns ≠ [])
    (hcolumns : ∀ column ∈ df.columns, ∃ state, convertColumn P df column.1 = .ok state) :
    ∃ outcome columns, fromPandas P df = .ok outcome ∧ ConvertsTo P df columns ∧
      RecordBatch.tryNew (columns.map (·.field)) (columns.map (·.array.array)) =
        .ok outcome.batch ∧
      outcome.batch.numRows = df.numRows ∧ outcome.records = columns.map (·.record) := by
  obtain ⟨columns, hconverts⟩ : ∃ columns, ConvertsTo P df columns := by
    refine exists_forall₂ fun column hcolumn => ?_
    obtain ⟨state, hstate⟩ := hcolumns column hcolumn
    obtain ⟨-, -, converted, -, rfl, -⟩ := convertColumn_eq_ok hstate
    exact ⟨converted, hstate⟩
  have hfits : List.Forall₂ Fits (columns.map (·.field)) (columns.map (·.array.array)) := by
    rw [List.forall₂_map_left_iff, List.forall₂_map_right_iff, List.forall₂_same]
    intro converted hmem
    obtain ⟨column, -, hcolumn⟩ := forall₂_exists_of_mem hconverts.flip hmem
    exact convertColumn_fits hcolumn
  have hlength : ∀ array ∈ columns.map (·.array.array), array.length = df.numRows := by
    intro array harray
    obtain ⟨converted, hmem, rfl⟩ := List.mem_map.mp harray
    obtain ⟨j, hj⟩ := List.mem_iff_getElem?.mp hmem
    obtain ⟨hlt, -⟩ := List.getElem?_eq_some_iff.mp hj
    have hlt' : j < df.columns.length := hconverts.length_eq ▸ hlt
    have himports := forall₂_getElem? hconverts.importsAs (List.getElem?_eq_getElem hlt') hj
    rw [ArrowArray.length, himports.slots, Series.length_importedSlots himports.dataType]
    exact df.sized _ (List.getElem_mem hlt')
  have hnil : columns.map (·.array.array) ≠ [] := by
    intro hnil
    rw [List.map_eq_nil_iff] at hnil
    rw [ConvertsTo, hnil, List.forall₂_nil_right_iff] at hconverts
    exact hne hconverts
  obtain ⟨batch, hbatch, -, hrows⟩ := RecordBatch.tryNew_ok hfits hlength hnil
  refine ⟨⟨batch, columns.map (·.record)⟩, columns,
    fromPandas_eq_ok.mpr ⟨columns, hconverts, hbatch, rfl⟩, hconverts, hbatch, ?_, rfl⟩
  rw [RecordBatch.numRows, hrows, length_transpose]

/-! ## Two chunkings -/

namespace SameUpToChunks

variable {series series' : Series} (h : SameUpToChunks series series')
include h

theorem dtype : series.dtype = series'.dtype := by
  cases h with
  | same => rfl
  | arrow array array' htype _ => exact congrArg Dtype.arrow htype

theorem exportType : series.exportType = series'.exportType := by
  cases h with
  | same => rfl
  | arrow array array' htype _ => exact congrArg some htype

theorem importedSlots : series.importedSlots = series'.importedSlots := by
  cases h with
  | same => rfl
  | arrow array array' _ hslots => exact hslots

theorem importedNullable : series.importedNullable = series'.importedNullable := by
  cases h <;> rfl

theorem isContiguous (backend : DtypeBackend) :
    Pydart.isContiguous backend series = Pydart.isContiguous backend series' := by
  cases h <;> rfl

theorem eq_of_not_arrow (hne : ∀ array, series ≠ .arrow array) : series' = series := by
  cases h with
  | same => rfl
  | arrow array array' _ _ => exact absurd rfl (hne array)

end SameUpToChunks

variable {P' : PandasCrates} {df' : DataFrame}

theorem nsOnly_congr (hdebug : P'.debug = P.debug) : nsOnly P' = nsOnly P := by
  have hreason : nonNsTemporalRejectionReason P' = nonNsTemporalRejectionReason P := by
    funext unit
    unfold nonNsTemporalRejectionReason
    rw [hdebug]
  funext name dtype unit
  unfold nsOnly
  rw [hreason]

theorem classifyDtype_congr (hstr : P'.str = P.str) (hdebug : P'.debug = P.debug) :
    classifyDtype P' = classifyDtype P := by
  unfold classifyDtype
  rw [hstr, nsOnly_congr hdebug]

theorem validateObjectColumnContents_congr {series : Series} {name : String}
    (h : validateObjectColumnContents P series name = .ok ()) :
    validateObjectColumnContents P' series name = .ok () := by
  cases series with
  | object values contiguous => exact validateFrom_eq_ok.mpr (validateFrom_eq_ok.mp h)
  | _ => rfl

/-- Conversions that import the same slots differ in the record at most. -/
structure SameImport (column column' : ConvertedColumn) : Prop where
  field : column.field = column'.field
  array : column.array.array = column'.array.array
  label : column.record.column = column'.record.column
  dtype : column.record.dtype = column'.record.dtype

theorem ImportsAs.sameImport (hstr : P'.str = P.str) {series series' : Series}
    (hsame : SameUpToChunks series series') {column column' : ConvertedColumn}
    (h : ImportsAs P label series column) (h' : ImportsAs P' label series' column') :
    SameImport column column' := by
  have harray : column.array.array = column'.array.array := by
    apply ArrowArray.ext_slots
    · have htype := h.dataType.symm.trans (hsame.exportType.trans h'.dataType)
      exact Option.some.inj htype
    · rw [h.slots, h'.slots, hsame.importedSlots]
  refine ⟨?_, harray, h.label.trans h'.label.symm, ?_⟩
  · rw [h.field, h'.field, harray, hsame.dtype, hsame.importedNullable]
  · rw [h.dtype, h'.dtype, hsame.dtype, hstr]

/-- A column that converts does so in every chunking, to the same import. -/
theorem convertColumn_sameImport (hstr : P'.str = P.str) (hdebug : P'.debug = P.debug)
    {series series' : Series} (hsame : SameUpToChunks series series')
    (hitem : df.getItem label = .ok series) (hitem' : df'.getItem label = .ok series')
    {column : ConvertedColumn} (h : convertColumn P df label = .ok column.state) :
    ∃ column' : ConvertedColumn, convertColumn P' df' label = .ok column'.state ∧
      SameImport column column' := by
  have haccepted : ∃ column' : ConvertedColumn, convertColumn P' df' label = .ok column'.state := by
    obtain ⟨hexport, -⟩ := convertColumn_exportType hitem h
    obtain ⟨series₀, hitem₀, hrest⟩ := Except.bind_eq_ok.mp h
    cases hitem.symm.trans hitem₀
    obtain ⟨⟨backend, kind, text⟩, hclass, hrest⟩ := Except.bind_eq_ok.mp hrest
    obtain ⟨flag, hflat, -⟩ := Except.bind_eq_ok.mp hrest
    obtain ⟨hvalid, array, nullable, records, himport, -⟩ :=
      (convertColumn_eq_parts hitem hclass hflat).mp h
    rw [hsame.exportType] at hexport
    rw [hsame.isContiguous] at hflat
    rw [hsame.dtype, ← classifyDtype_congr hstr hdebug] at hclass
    by_cases hborrow : backend = .numpy ∧ kind = .numeric ∧ flag = true
    · obtain ⟨rfl, rfl, rfl⟩ := hborrow
      obtain ⟨borrowed, hborrow, -⟩ := Except.bind_eq_ok.mp himport
      obtain ⟨values, t, ht, rfl, hcontiguous, hnative, hsome, -⟩ :=
        borrowNumpyNumericColumn_eq_ok.mp hborrow
      cases hsame.eq_of_not_arrow (by simp)
      obtain ⟨column', h', -⟩ := convertColumn_of_borrow hitem' hclass hcontiguous hnative hsome
      exact ⟨column', h'⟩
    · obtain ⟨table, htable, -⟩ := P'.stream_ok label hexport
      have hvalid' : backend = .numpy ∧ kind = .string →
          validateObjectColumnContents P' series' label.text = .ok () := by
        intro hobject
        cases hsame with
        | same => exact validateObjectColumnContents_congr (hvalid hobject)
        | arrow => rfl
      obtain ⟨column', h', -⟩ :=
        convertColumn_of_stream hitem' hclass hflat hvalid' hborrow htable
      exact ⟨column', h'⟩
  obtain ⟨column', h'⟩ := haccepted
  exact ⟨column', h', (convertColumn_importsAs hitem h).sameImport hstr hsame
    (convertColumn_importsAs hitem' h')⟩

theorem ChunkVariants.converts (hstr : P'.str = P.str) (hdebug : P'.debug = P.debug)
    (hchunks : ChunkVariants df df')
    (hcolumns : ∀ column ∈ df.columns, ∃ state, convertColumn P df column.1 = .ok state) :
    ∀ column ∈ df'.columns, ∃ state, convertColumn P' df' column.1 = .ok state := by
  intro column' hmem'
  obtain ⟨column, hmem, hlabel, -⟩ := forall₂_exists_of_mem hchunks.flip hmem'
  obtain ⟨state, hstate⟩ := hcolumns column hmem
  obtain ⟨series, -, converted, hitem, rfl, -⟩ := convertColumn_eq_ok hstate
  rcases getItem_related hchunks column.1 with ⟨e, -, he, -⟩ | ⟨_, series', hok, hitem', hsame⟩
  · rw [hitem] at he
    cases he
  · cases hitem.symm.trans hok
    obtain ⟨converted', h', -⟩ :=
      convertColumn_sameImport hstr hdebug hsame hitem hitem' hstate
    exact ⟨converted'.state, hlabel ▸ h'⟩

theorem ChunkVariants.sameImports (hstr : P'.str = P.str) (hchunks : ChunkVariants df df')
    {columns columns' : List ConvertedColumn} (h : ConvertsTo P df columns)
    (h' : ConvertsTo P' df' columns') : List.Forall₂ SameImport columns columns' := by
  have hlength := h.length_eq.symm.trans (hchunks.length_eq.trans h'.length_eq)
  rw [List.forall₂_iff_get]
  refine ⟨hlength, fun j hj hj' => ?_⟩
  have hd : j < df.columns.length := h.length_eq ▸ hj
  have hd' : j < df'.columns.length := h'.length_eq ▸ hj'
  obtain ⟨hlabel, hsame⟩ := (List.forall₂_iff_get.mp hchunks).2 j hd hd'
  have himports := (List.forall₂_iff_get.mp h.importsAs).2 j hd hj
  have himports' := (List.forall₂_iff_get.mp h'.importsAs).2 j hd' hj'
  rw [← hlabel] at himports'
  exact himports.sameImport hstr hsame himports'

/-- A frame whose columns convert alone is imported whole, and frames that differ in
chunks, of the frame or of the export, give one batch and records that differ in
`zero_copy` and `reason` at most. -/
theorem fromPandas_chunks (hstr : P'.str = P.str) (hdebug : P'.debug = P.debug)
    (hchunks : ChunkVariants df df') (hne : df.columns ≠ [])
    (hcolumns : ∀ column ∈ df.columns, ∃ state, convertColumn P df column.1 = .ok state) :
    ∃ outcome outcome', fromPandas P df = .ok outcome ∧ fromPandas P' df' = .ok outcome' ∧
      outcome.batch.numRows = df.numRows ∧
      (∀ (j : Nat) label series, df.columns[j]? = some (label, series) →
        ∃ array, outcome.batch.column j = some array ∧ array.slots = series.importedSlots) ∧
      outcome.batch = outcome'.batch ∧
      List.Forall₂ (fun a b => a.column = b.column ∧ a.dtype = b.dtype)
        outcome.records outcome'.records := by
  have hne' : df'.columns ≠ [] := by
    intro hnil
    have hlength := hchunks.length_eq
    rw [hnil, List.length_nil, List.length_eq_zero_iff] at hlength
    exact hne hlength
  obtain ⟨outcome, columns, hok, hconverts, hbatch, hrows, hrecords⟩ :=
    fromPandas_of_columns hne hcolumns
  obtain ⟨outcome', columns', hok', hconverts', hbatch', -, hrecords'⟩ :=
    fromPandas_of_columns hne' (hchunks.converts hstr hdebug hcolumns)
  have hsame := hchunks.sameImports hstr hconverts hconverts'
  refine ⟨outcome, outcome', hok, hok', hrows, ?_, ?_, ?_⟩
  · intro j label series hpair
    obtain ⟨column, -, hconvert, hitem, -, harray⟩ := hconverts.column hbatch hpair
    exact ⟨_, harray, (convertColumn_importsAs hitem hconvert).slots⟩
  · have hfields : columns.map (·.field) = columns'.map (·.field) := by
      rw [← List.forall₂_eq_eq_eq, List.forall₂_map_left_iff, List.forall₂_map_right_iff]
      exact hsame.imp fun _ _ h => h.field
    have harrays : columns.map (·.array.array) = columns'.map (·.array.array) := by
      rw [← List.forall₂_eq_eq_eq, List.forall₂_map_left_iff, List.forall₂_map_right_iff]
      exact hsame.imp fun _ _ h => h.array
    rw [← hfields, ← harrays, hbatch] at hbatch'
    exact Except.ok.inj hbatch'
  · rw [hrecords, hrecords', List.forall₂_map_left_iff, List.forall₂_map_right_iff]
    exact hsame.imp fun _ _ h => ⟨h.label, h.dtype⟩

end

/-! ## Two numbers in one chunk or two -/

def twoChunks : ChunkedArray where
  dataType := .int64
  chunks := [[some (.int 1)], [none]]
  typed := by
    intro chunk hchunk v hv
    simp only [List.mem_cons, List.not_mem_nil, or_false] at hchunk
    rcases hchunk with rfl | rfl <;> simp at hv
    subst hv
    rfl

def oneChunk : ChunkedArray where
  dataType := .int64
  chunks := [[some (.int 1), none]]
  typed := by
    intro chunk hchunk v hv
    rw [List.mem_singleton] at hchunk
    subst hchunk
    simp at hv
    subst hv
    rfl

def chunkedFrame (array : ChunkedArray) : DataFrame where
  columns := [(.str "n", .arrow array)]
  numRows := array.chunks.flatten.length
  sized := by simp [Series.length]

theorem chunks_variants : ChunkVariants (chunkedFrame twoChunks) (chunkedFrame oneChunk) :=
  .cons ⟨rfl, .arrow twoChunks oneChunk rfl rfl⟩ .nil

theorem fromPandas_chunks_two :
    ∃ outcome outcome', fromPandas referencePandas (chunkedFrame twoChunks) = .ok outcome ∧
      fromPandas referencePandas (chunkedFrame oneChunk) = .ok outcome' ∧
      outcome.batch.numRows = 2 ∧ outcome.batch = outcome'.batch := by
  have hcolumns : ∀ column ∈ (chunkedFrame twoChunks).columns, ∃ state,
      convertColumn referencePandas (chunkedFrame twoChunks) column.1 = .ok state := by
    intro column hcolumn
    rw [chunkedFrame, List.mem_singleton] at hcolumn
    subst hcolumn
    exact ⟨_, rfl⟩
  obtain ⟨outcome, outcome', hok, hok', hrows, -, hbatch, -⟩ :=
    fromPandas_chunks rfl rfl chunks_variants (by simp [chunkedFrame]) hcolumns
  exact ⟨outcome, outcome', hok, hok', hrows, hbatch⟩

end Pydart
