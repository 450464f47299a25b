import Pydart.Pandas.Layout

/-! # To pandas and back

What `from_pandas` made goes to pandas as Arrow-backed and categorical columns. The
way back is open unless two labels share a text or a column has the null type, which
only object columns without a string get.
-/

namespace Pydart

section

variable {P : PandasCrates} {df : DataFrame} {label : Label}

/-! ## The types of converted columns -/

/-- A stream import of a documented column has its exported type and slots. -/
theorem Streamed.exported {series : Series} {backend : DtypeBackend} {count : Nat}
    {column : ConvertedColumn} (h : Streamed P label series backend count column) {t : DataType}
    (hexport : series.exportType = some t) :
    column.array.array.dataType = t ∧ column.array.array.slots = series.exportSlots := by
  obtain ⟨table, -, -, htable, -, -, -, -, hjoined, -⟩ := h
  obtain ⟨table', htable', htype, hslots⟩ := P.stream_ok label hexport
  cases htable.symm.trans htable'
  exact ⟨hjoined.dataType.trans htype, hjoined.slots.trans hslots⟩

theorem importable_of_arrowType {dtype : NumericDtype} {t : DataType}
    (h : dtype.arrowType = some t) : t.importable = true := by
  cases dtype <;> cases h <;> rfl

theorem isDictionary_of_importable {t : DataType} (h : t.importable = true) :
    t.isDictionary = false := by
  cases t <;> first | rfl | cases h

/-- The columns that the way back refuses: objects without a string. -/
def Stringless (series : Series) : Prop :=
  ∃ values flag, series = .object values flag ∧ values.any PyObject.isStr = false

theorem Streamed.exportType {series : Series} {backend : DtypeBackend} {count : Nat}
    {column : ConvertedColumn} (h : Streamed P label series backend count column)
    (hobject : ∀ values flag, series = .object values flag →
      values.all (fun value => value.isStr || value.isMissing) = true) :
    ∃ t, series.exportType = some t := by
  obtain ⟨table, kind, flag, htable, -, hclassified, -⟩ := h
  cases series with
  | categorical ordered array =>
      cases array with
      | none =>
          obtain ⟨e, he⟩ := P.stream_categorical_error label ordered
          rw [htable] at he
          cases he
      | some array => exact ⟨_, rfl⟩
  | numeric values =>
      cases hexport : (Series.numeric values).exportType with
      | none =>
          obtain ⟨e, he⟩ := P.stream_numeric_error label hexport
          rw [htable] at he
          cases he
      | some t => exact ⟨t, rfl⟩
  | object values contiguous => exact ⟨_, if_pos (hobject values contiguous rfl)⟩
  | arrow array => exact ⟨_, rfl⟩
  | bool values contiguous => exact ⟨_, rfl⟩
  | datetimeTz unit tz ticks contiguous =>
      cases hclassified
      exact ⟨_, rfl⟩
  | datetime64 unit ticks contiguous =>
      cases hclassified
      exact ⟨_, rfl⟩
  | timedelta64 unit ticks contiguous =>
      cases hclassified
      exact ⟨_, rfl⟩
  | extension typeName length => cases hclassified
  | other dtype length contiguous => cases hclassified

theorem convertColumn_exportType {series : Series} {column : ConvertedColumn}
    (hitem : df.getItem label = .ok series) (h : convertColumn P df label = .ok column.state) :
    series.exportType = some column.array.array.dataType ∧
      ∃ backend kind, Classified series.dtype backend kind := by
  obtain ⟨series', backend, column', hitem', hstate, hobject, harm⟩ := convertColumn_eq_ok h
  cases hitem.symm.trans hitem'
  cases ConvertedColumn.state_injective hstate
  rcases harm with ⟨-, ⟨values, t, ht, rfl, -, hnative, -, -, harray⟩, -⟩ | ⟨count, hstreamed, -⟩
  · refine ⟨?_, _, _, .numeric values.dtype⟩
    rw [Series.exportType, if_pos hnative, harray]
    exact ht
  · obtain ⟨t, hexport⟩ := hstreamed.exportType hobject
    obtain ⟨-, kind, -, -, -, hclassified, -⟩ := id hstreamed
    rw [(hstreamed.exported hexport).1]
    exact ⟨hexport, _, _, hclassified⟩

/-- What the type of an accepted column's export can be. -/
theorem exportType_cases {series : Series} {backend : DtypeBackend} {kind : ArrowKind}
    (hclassified : Classified series.dtype backend kind) {t : DataType}
    (hexport : series.exportType = some t) :
    (t.importable = true ∧ ¬ Stringless series) ∨
      (∃ key value, t = .dictionary key value ∧ ¬ Stringless series) ∨
      (t = .null ∧ Stringless series) := by
  have hnot : (∀ values flag, series ≠ .object values flag) → ¬ Stringless series := by
    rintro hne ⟨values, flag, hseries, -⟩
    exact hne values flag hseries
  cases series with
  | arrow array =>
      refine Or.inl ⟨?_, hnot (by simp)⟩
      cases hclassified
      cases hexport
      assumption
  | categorical ordered array =>
      refine Or.inr (Or.inl ?_)
      cases array with
      | none => cases hexport
      | some array =>
          cases hexport
          exact ⟨_, _, rfl, hnot (by simp)⟩
  | numeric values =>
      refine Or.inl ⟨?_, hnot (by simp)⟩
      rw [Series.exportType] at hexport
      split at hexport
      · exact importable_of_arrowType hexport
      · cases hexport
  | bool values contiguous =>
      cases hexport
      exact Or.inl ⟨rfl, hnot (by simp)⟩
  | object values contiguous =>
      rw [Series.exportType] at hexport
      split at hexport
      · cases hstr : values.any PyObject.isStr with
        | true =>
            rw [hstr] at hexport
            cases hexport
            refine Or.inl ⟨rfl, ?_⟩
            rintro ⟨_, _, hseries, hnone⟩
            cases hseries
            rw [hstr] at hnone
            cases hnone
        | false =>
            rw [hstr] at hexport
            cases hexport
            exact Or.inr (Or.inr ⟨rfl, values, contiguous, rfl, hstr⟩)
      · cases hexport
  | datetimeTz unit tz ticks contiguous =>
      cases hclassified
      cases hexport
      exact Or.inl ⟨rfl, hnot (by simp)⟩
  | datetime64 unit ticks contiguous =>
      cases hclassified
      cases hexport
      exact Or.inl ⟨rfl, hnot (by simp)⟩
  | timedelta64 unit ticks contiguous =>
      cases hclassified
      cases hexport
      exact Or.inl ⟨rfl, hnot (by simp)⟩
  | extension typeName length => cases hclassified
  | other dtype length contiguous => cases hclassified

theorem convertColumn_type {series : Series} {column : ConvertedColumn}
    (hitem : df.getItem label = .ok series) (h : convertColumn P df label = .ok column.state) :
    (column.array.array.dataType.importable = true ∧ ¬ Stringless series) ∨
      (∃ key value, column.array.array.dataType = .dictionary key value ∧ ¬ Stringless series) ∨
      (column.array.array.dataType = .null ∧ Stringless series) := by
  obtain ⟨hexport, backend, kind, hclassified⟩ := convertColumn_exportType hitem h
  exact exportType_cases hclassified hexport

/-! ## The way back, column by column -/

theorem classifyDtype_arrow {t : DataType} (h : t.importable = true) (name : String) :
    ∃ kind, classifyDtype P (.arrow t) name = .ok (.arrow, kind, P.str (.arrow t)) := by
  cases t with
  | timestamp unit tz =>
      cases unit <;> first | exact ⟨_, rfl⟩ | cases h
  | duration unit =>
      cases unit <;> first | exact ⟨_, rfl⟩ | cases h
  | _ => first | exact ⟨_, rfl⟩ | cases h

/-- An importable or dictionary column of a table comes back as it was. -/
theorem convertColumn_back {field : Field} {slots : List Slot} {series : Series}
    (hback : Reconstructs typesMapper field slots (.str field.name, series))
    (hitem : df.getItem (.str field.name) = .ok series)
    (htype : field.dataType.importable = true ∨
      ∃ key value, field.dataType = .dictionary key value) :
    ∃ column : ConvertedColumn, convertColumn P df (.str field.name) = .ok column.state ∧
      column.field.name = field.name ∧ column.field.dataType = field.dataType ∧
      column.field.nullable = true ∧ column.field.dictIsOrdered = field.dictIsOrdered ∧
      column.array.array.slots = slots := by
  have hstreamed : ∃ backend count column,
      convertColumn P df (.str field.name) = .ok column.state ∧
      Streamed P (.str field.name) series backend count column ∧
      series.exportType = some field.dataType ∧ series.exportSlots = slots ∧
      ∀ key value, field.dataType = .dictionary key value →
        isOrdered backend series.dtype = some field.ordered := by
    rcases htype with himportable | ⟨key, value, hdict⟩
    · have hplain := isDictionary_of_importable himportable
      have hmapped : typesMapper field.dataType = some (.arrow field.dataType) := by
        rw [typesMapper, hplain]
        rfl
      obtain ⟨-, hseries⟩ := hback
      rw [hmapped] at hseries
      obtain ⟨array, rfl, harray, hslots⟩ := hseries
      obtain ⟨kind, hclass⟩ := classifyDtype_arrow (P := P) himportable field.name
      have hclass' : classifyDtype P (Series.arrow array).dtype (Label.str field.name).text =
          .ok (.arrow, kind, P.str (.arrow field.dataType)) := by
        rw [Series.dtype, harray]
        exact hclass
      obtain ⟨table, htable, -, -⟩ :=
        P.stream_ok (.str field.name) (show (Series.arrow array).exportType = _ from rfl)
      obtain ⟨column, hconvert, hstreamed, -⟩ :=
        convertColumn_of_stream hitem hclass' rfl (by simp) (by simp) htable
      refine ⟨_, _, column, hconvert, hstreamed, by rw [Series.exportType, harray], hslots, ?_⟩
      intro key value hdict
      rw [hdict] at hplain
      cases hplain
    · have hmapped : typesMapper field.dataType = none := by
        rw [typesMapper, hdict]
        rfl
      obtain ⟨-, hseries⟩ := hback
      rw [hmapped] at hseries
      obtain ⟨array, rfl, harray, hslots⟩ := hseries
      have hexport : (Series.categorical field.ordered (some array)).exportType =
          some field.dataType := by rw [harray]; rfl
      obtain ⟨table, htable, -, -⟩ := P.stream_ok (.str field.name) hexport
      have hclass : classifyDtype P (.categorical field.ordered) (Label.str field.name).text =
          .ok (.categorical, .categorical, P.str (.categorical field.ordered)) := rfl
      obtain ⟨column, hconvert, hstreamed, -⟩ :=
        convertColumn_of_stream hitem hclass rfl (by simp) (by simp) htable
      exact ⟨_, _, column, hconvert, hstreamed, hexport, hslots, fun _ _ _ => rfl⟩
  obtain ⟨backend, count, column, hconvert, hstreamed, hexport, hslots, hordered⟩ := hstreamed
  obtain ⟨harray, hexported⟩ := hstreamed.exported hexport
  obtain ⟨table, -, -, htable, -, -, -, -, -, hfield⟩ := hstreamed
  obtain ⟨hdataType, hname⟩ := convertColumn_field hconvert
  refine ⟨column, hconvert, hname, hdataType.trans harray, ?_, ?_, hexported.trans hslots⟩
  · rw [hfield, buildField_nullable, P.stream_nullable htable]
  · unfold Field.dictIsOrdered
    rw [hdataType, harray]
    split
    · rename_i key value hdict
      rw [hfield, buildField, harray, hdict, hordered key value hdict]
      rfl
    · rfl

theorem convertColumn_back_null {field : Field} {slots : List Slot} {series : Series}
    (hback : Reconstructs typesMapper field slots (.str field.name, series))
    (hnull : field.dataType = .null) (state : ImportState) :
    convertColumn P df (.str field.name) = .ok state → df.getItem (.str field.name) = .ok series →
      False := by
  intro hconvert hitem
  obtain ⟨-, hseries⟩ := hback
  rw [hnull] at hseries
  obtain ⟨array, rfl, harray, -⟩ := hseries
  obtain ⟨series', hitem', hrest⟩ := Except.bind_eq_ok.mp hconvert
  cases hitem.symm.trans hitem'
  obtain ⟨_, hclass, -⟩ := Except.bind_eq_ok.mp hrest
  rw [Series.dtype, harray] at hclass
  cases hclass

/-! ## Labels -/

theorem length_filter_key {α β : Type} [DecidableEq β] (xs : List α) (key : α → β) (k : β) :
    (xs.filter fun x => decide (key x = k)).length = (xs.map key).count k := by
  rw [List.count_eq_countP, List.countP_map, List.countP_eq_length_filter]
  rfl

theorem getItem_of_count {column : Label × Series} (hmem : column ∈ df.columns)
    (hcount : (df.columns.map (·.1)).count column.1 = 1) :
    df.getItem column.1 = .ok column.2 := by
  have hlength := (length_filter_key df.columns (·.1) column.1).trans hcount
  obtain ⟨found, hfound⟩ := List.length_eq_one_iff.mp hlength
  have hin : column ∈ df.columns.filter fun other => decide (other.1 = column.1) :=
    List.mem_filter.mpr ⟨hmem, decide_eq_true rfl⟩
  rw [hfound, List.mem_singleton] at hin
  rw [DataFrame.getItem, hfound, hin]

theorem getItem_of_nodup (hnodup : (df.columns.map (·.1)).Nodup) {series : Series}
    (hmem : (label, series) ∈ df.columns) : df.getItem label = .ok series :=
  getItem_of_count hmem (List.count_eq_one_of_mem hnodup (List.mem_map_of_mem hmem))

theorem nodup_of_getItem (h : ∀ column ∈ df.columns, ∃ series, df.getItem column.1 = .ok series) :
    (df.columns.map (·.1)).Nodup := by
  rw [List.nodup_iff_count_le_one]
  intro label
  by_cases hmem : label ∈ df.columns.map (·.1)
  · obtain ⟨column, hcolumn, rfl⟩ := List.mem_map.mp hmem
    obtain ⟨series, hitem⟩ := h column hcolumn
    rw [← length_filter_key]
    unfold DataFrame.getItem at hitem
    split at hitem
    · cases hitem
    · rename_i heq
      rw [heq]
      simp
    · cases hitem
  · rw [List.count_eq_zero.mpr hmem]
    omega

/-! ## The way back, frame by frame -/

/-- A frame as `to_pandas` makes it of a batch: the columns under their names, each as it
is wherever its name tells its type. -/
structure BackFrame (batch : RecordBatch) (back : DataFrame) : Prop where
  labels : back.columns.map (·.1) = batch.schema.map fun field => Label.str field.name
  column : ∀ (j : Nat) field column, batch.schema[j]? = some field →
    back.columns[j]? = some column → batch.schema.Tells field →
      Reconstructs typesMapper field (batch.rows.map (·.getD j none)) column

/-- What comes back of a batch: the same but for nullability. -/
structure ComesBack (batch batch' : RecordBatch) : Prop where
  schema : List.Forall₂ (fun a b => b.name = a.name ∧ b.dataType = a.dataType ∧
    b.nullable = true ∧ b.dictIsOrdered = a.dictIsOrdered) batch.schema batch'.schema
  rows : batch'.rows = batch.rows

theorem typesMapper_cases (t : DataType) :
    typesMapper t = some (.arrow t) ∨
      (typesMapper t = none ∧ ∃ key value, t = .dictionary key value) := by
  unfold typesMapper
  cases t <;> simp [DataType.isDictionary]

theorem Schema.oneType_of_nodup {schema : Schema} (h : (schema.map (·.name)).Nodup) :
    schema.OneType :=
  fun _ hfield _ hother hname =>
    congrArg Field.dataType (List.inj_on_of_nodup_map h hother hfield hname)

/-- A table with a batch is handed to pyarrow under its schema. -/
theorem toPandas_of_batches {table : Table} (hne : table.batches ≠ []) :
    table.toPandas P = P.tableToPandas typesMapper table.inner.schema table.inner.batches := by
  unfold Table.toPandas
  cases hbatches : table.batches with
  | nil => exact absurd hbatches hne
  | cons first rest =>
      have hinner : table.inner.batches = first :: rest := hbatches
      have hfirst : first.schema = table.inner.schema :=
        table.inner.uniform first (hinner ▸ List.mem_cons_self)
      rw [hinner, ← hfirst]

/-- A frame of `to_pandas` against any batch of the table's rows. -/
theorem toPandas_backFrame {table : Table} {batch : RecordBatch} {back : DataFrame}
    (hschema : batch.schema = table.inner.schema)
    (hrows : batch.rows = table.inner.batches.flatMap (·.rows))
    (h : table.toPandas P = .ok back) : BackFrame batch back := by
  have hne : table.batches ≠ [] := by
    intro hnil
    rw [Table.toPandas, hnil] at h
    cases h
  rw [toPandas_of_batches hne] at h
  have hcolumn := P.tableToPandas_column table.inner.uniform
    (fun field _ => typesMapper_cases field.dataType) h
  rw [← hschema, ← hrows] at hcolumn
  exact ⟨hschema ▸ P.tableToPandas_labels h, hcolumn⟩

theorem toPandas_eq_ok {table : Table} (hne : table.batches ≠ [])
    (hone : table.inner.schema.OneType) : ∃ back, table.toPandas P = .ok back := by
  rw [toPandas_of_batches hne]
  exact P.tableToPandas_ok table.inner.uniform (fun field _ => typesMapper_cases field.dataType)
    hone

theorem BackFrame.length {batch : RecordBatch} {back : DataFrame} (h : BackFrame batch back) :
    back.columns.length = batch.schema.length := by
  simpa using congrArg List.length h.labels

theorem BackFrame.label_eq {batch : RecordBatch} {back : DataFrame} (h : BackFrame batch back)
    {j : Nat} {field : Field} {column : Label × Series} (hf : batch.schema[j]? = some field)
    (hc : back.columns[j]? = some column) : column.1 = .str field.name := by
  have hat := congrArg (·[j]?) h.labels
  simpa [hf, hc] using hat

theorem BackFrame.names {batch : RecordBatch} {back : DataFrame} (h : BackFrame batch back) :
    back.columns.map (·.1) = (batch.schema.map (·.name)).map Label.str := by
  rw [h.labels, List.map_map]
  rfl

theorem BackFrame.count {batch : RecordBatch} {back : DataFrame} (h : BackFrame batch back)
    (name : String) :
    (back.columns.map (·.1)).count (.str name) = (batch.schema.map (·.name)).count name := by
  rw [h.names]
  exact List.count_map_of_injective _ _ (fun _ _ heq => Label.str.inj heq) name

theorem BackFrame.nodup_iff {batch : RecordBatch} {back : DataFrame} (h : BackFrame batch back) :
    (back.columns.map (·.1)).Nodup ↔ (batch.schema.map (·.name)).Nodup := by
  rw [h.names]
  exact List.nodup_map_iff fun _ _ heq => Label.str.inj heq

def DataType.comesBack (t : DataType) : Prop :=
  t.importable = true ∨ ∃ key value, t = .dictionary key value

theorem BackFrame.convertColumn {batch : RecordBatch} {back : DataFrame} (h : BackFrame batch back)
    {j : Nat} {field : Field} {series : Series} (hf : batch.schema[j]? = some field)
    (hc : back.columns[j]? = some (label, series)) (htells : batch.schema.Tells field)
    (htype : field.dataType.comesBack) (hitem : back.getItem label = .ok series) :
    ∃ column : ConvertedColumn, Pydart.convertColumn P back label = .ok column.state ∧
      (column.field.name = field.name ∧ column.field.dataType = field.dataType ∧
        column.field.nullable = true ∧ column.field.dictIsOrdered = field.dictIsOrdered) ∧
      column.array.array.slots = batch.rows.map (·.getD j none) := by
  have hback := h.column j field _ hf hc htells
  obtain rfl : label = .str field.name := hback.1
  obtain ⟨column, hconvert, hname, hdataType, hnullable, hordered, hslots⟩ :=
    convertColumn_back hback hitem htype
  exact ⟨column, hconvert, ⟨hname, hdataType, hnullable, hordered⟩, hslots⟩

theorem BackFrame.exists_column {batch : RecordBatch} {back : DataFrame} (h : BackFrame batch back)
    {j : Nat} {field : Field} (hf : batch.schema[j]? = some field) :
    ∃ column, back.columns[j]? = some column := by
  have hlt := (List.getElem?_eq_some_iff.mp hf).1
  rw [← h.length] at hlt
  exact ⟨_, List.getElem?_eq_getElem hlt⟩

theorem BackFrame.field {batch : RecordBatch} {back : DataFrame} (h : BackFrame batch back)
    {j : Nat} {column : Label × Series} (hc : back.columns[j]? = some column) :
    ∃ field ∈ batch.schema, batch.schema[j]? = some field := by
  have hlt : j < batch.schema.length := by
    rw [← h.length]
    exact (List.getElem?_eq_some_iff.mp hc).1
  exact ⟨batch.schema[j], List.getElem_mem hlt, List.getElem?_eq_getElem hlt⟩

/-- Where two columns had one name neither would be found. -/
theorem BackFrame.nodup_of_accepted {batch : RecordBatch} {back : DataFrame}
    (h : BackFrame batch back) {outcome : FromPandasOutcome}
    (hok : fromPandas P back = .ok outcome) : (batch.schema.map (·.name)).Nodup := by
  obtain ⟨columns, hcolumns, hbatch, -⟩ := fromPandas_eq_ok.mp hok
  refine h.nodup_iff.mp (nodup_of_getItem ?_)
  rintro ⟨label, series⟩ hmem
  obtain ⟨j, hc⟩ := List.mem_iff_getElem?.mp hmem
  obtain ⟨-, -, -, hitem, -⟩ := hcolumns.column hbatch hc
  exact ⟨series, hitem⟩

/-- A frame that came from a batch and is accepted gives the batch again. -/
theorem BackFrame.comesBack {batch : RecordBatch} {back : DataFrame} (h : BackFrame batch back)
    (htypes : ∀ field ∈ batch.schema, field.dataType.comesBack) {outcome : FromPandasOutcome}
    (hok : fromPandas P back = .ok outcome) : ComesBack batch outcome.batch := by
  have hone := Schema.oneType_of_nodup (h.nodup_of_accepted hok)
  obtain ⟨columns, hcolumns, hbatch, -⟩ := fromPandas_eq_ok.mp hok
  obtain ⟨hschema, -, hne, rows, hlengths, hrows⟩ := RecordBatch.tryNew_eq_ok hbatch
  have hlength : columns.length = batch.schema.length := by
    rw [← hcolumns.length_eq, h.length]
  have hcolumn : ∀ (j : Nat) field (column : ConvertedColumn), batch.schema[j]? = some field →
      columns[j]? = some column →
        (column.field.name = field.name ∧ column.field.dataType = field.dataType ∧
          column.field.nullable = true ∧ column.field.dictIsOrdered = field.dictIsOrdered) ∧
        column.array.array.slots = batch.rows.map (·.getD j none) := by
    intro j field column hf hj
    obtain ⟨⟨label, series⟩, hc⟩ := h.exists_column hf
    obtain ⟨column', hj', hconvert, hitem, -, -⟩ := hcolumns.column hbatch hc
    cases hj.symm.trans hj'
    have hfield := List.mem_of_getElem? hf
    obtain ⟨column', hconvert', hparts⟩ :=
      h.convertColumn (P := P) hf hc (hone field hfield) (htypes field hfield) hitem
    cases ConvertedColumn.state_injective (Except.ok.inj (hconvert.symm.trans hconvert'))
    exact hparts
  have hrowCount : rows = batch.rows.length := by
    obtain ⟨column, rest, rfl⟩ : ∃ column rest, columns = column :: rest :=
      List.exists_cons_of_ne_nil (by rintro rfl; exact hne rfl)
    obtain ⟨field, hf⟩ : ∃ field, batch.schema[0]? = some field := by
      have hpos : 0 < batch.schema.length := by
        rw [← hlength]
        simp
      exact ⟨_, List.getElem?_eq_getElem hpos⟩
    have hslots := (hcolumn 0 field column hf rfl).2
    have hlen : column.array.array.length = rows := hlengths _ List.mem_cons_self
    rw [← hlen, ArrowArray.length, hslots, List.length_map]
  refine ⟨?_, ?_⟩
  · rw [hschema, List.forall₂_map_right_iff, List.forall₂_iff_get]
    refine ⟨hlength.symm, fun j hj hj' => ?_⟩
    exact (hcolumn j _ _ (List.getElem?_eq_getElem hj) (List.getElem?_eq_getElem hj')).1
  · rw [hrows, hrowCount]
    have hwidth : ∀ row ∈ batch.rows, row.length = batch.schema.length :=
      fun row hrow => (batch.typed row hrow).length_eq.symm
    refine transpose_columns hwidth (by rw [List.length_map, hlength]) ?_
    intro j array ha
    rw [List.getElem?_map, Option.map_eq_some_iff] at ha
    obtain ⟨column, hj, rfl⟩ := ha
    have hlt : j < batch.schema.length := hlength ▸ (List.getElem?_eq_some_iff.mp hj).1
    exact (hcolumn j _ column (List.getElem?_eq_getElem hlt) hj).2

theorem exists_forall₂ {α β : Type} {R : α → β → Prop} {as : List α}
    (h : ∀ a ∈ as, ∃ b, R a b) : ∃ bs, List.Forall₂ R as bs := by
  induction as with
  | nil => exact ⟨[], .nil⟩
  | cons a as ih =>
      obtain ⟨b, hb⟩ := h a List.mem_cons_self
      obtain ⟨bs, hbs⟩ := ih fun a ha => h a (List.mem_cons_of_mem _ ha)
      exact ⟨b :: bs, .cons hb hbs⟩

/-- A frame that came from a batch is accepted when its labels differ and its types
come back. -/
theorem BackFrame.accepted {batch : RecordBatch} {back : DataFrame} (h : BackFrame batch back)
    (hne : batch.schema ≠ []) (hnodup : (batch.schema.map (·.name)).Nodup)
    (htypes : ∀ field ∈ batch.schema, field.dataType.comesBack) :
    ∃ outcome, fromPandas P back = .ok outcome := by
  have hlabels := h.nodup_iff.mpr hnodup
  have hone := Schema.oneType_of_nodup hnodup
  have hconvert : ∀ column ∈ back.columns, ∃ converted : ConvertedColumn,
      Pydart.convertColumn P back column.1 = .ok converted.state ∧
        converted.array.array.length = batch.rows.length := by
    rintro ⟨label, series⟩ hmem
    obtain ⟨j, hc⟩ := List.mem_iff_getElem?.mp hmem
    obtain ⟨field, hfield, hf⟩ := h.field hc
    obtain ⟨converted, hconvert, -, hslots⟩ := h.convertColumn (P := P) hf hc
      (hone field hfield) (htypes field hfield) (getItem_of_nodup hlabels hmem)
    exact ⟨converted, hconvert, by rw [ArrowArray.length, hslots, List.length_map]⟩
  obtain ⟨columns, hcolumns⟩ := exists_forall₂ hconvert
  have hfits : List.Forall₂ Fits (columns.map (·.field)) (columns.map (·.array.array)) := by
    rw [List.forall₂_map_left_iff, List.forall₂_map_right_iff, List.forall₂_same]
    intro column hcolumn
    obtain ⟨j, hj⟩ := List.mem_iff_getElem?.mp hcolumn
    have hlt : j < back.columns.length :=
      hcolumns.length_eq ▸ (List.getElem?_eq_some_iff.mp hj).1
    exact convertColumn_fits (forall₂_getElem? hcolumns (List.getElem?_eq_getElem hlt) hj).1
  have hlengths : ∀ array ∈ columns.map (·.array.array), array.length = batch.rows.length := by
    intro array harray
    obtain ⟨column, hcolumn, rfl⟩ := List.mem_map.mp harray
    obtain ⟨j, hj⟩ := List.mem_iff_getElem?.mp hcolumn
    have hlt : j < back.columns.length :=
      hcolumns.length_eq ▸ (List.getElem?_eq_some_iff.mp hj).1
    exact (forall₂_getElem? hcolumns (List.getElem?_eq_getElem hlt) hj).2
  have hsome : columns.map (·.array.array) ≠ [] := by
    intro hnil
    have hlen := hcolumns.length_eq
    rw [List.map_eq_nil_iff.mp hnil, h.length, List.length_nil, List.length_eq_zero_iff] at hlen
    exact hne hlen
  obtain ⟨made, hmade, -, -⟩ := RecordBatch.tryNew_ok hfits hlengths hsome
  exact ⟨⟨made, _⟩, fromPandas_eq_ok.mpr
    ⟨columns, hcolumns.imp fun _ _ hc => hc.1, hmade, rfl⟩⟩

theorem not_comesBack_null : ¬ DataType.null.comesBack := by
  rintro (himportable | ⟨key, value, hdict⟩)
  · cases himportable
  · cases hdict

theorem convertColumn_comesBack {series : Series} {column : ConvertedColumn}
    (hitem : df.getItem label = .ok series) (h : convertColumn P df label = .ok column.state) :
    (column.field.dataType.comesBack ↔ ¬ Stringless series) ∧
      (¬ column.field.dataType.comesBack → column.field.dataType = .null) := by
  rw [(convertColumn_field h).1]
  rcases convertColumn_type hitem h with
    ⟨himportable, hstring⟩ | ⟨key, value, hdict, hstring⟩ | ⟨hnull, hstringless⟩
  · exact ⟨iff_of_true (Or.inl himportable) hstring, fun hnot => absurd (Or.inl himportable) hnot⟩
  · have hback : column.array.array.dataType.comesBack := Or.inr ⟨key, value, hdict⟩
    exact ⟨iff_of_true hback hstring, fun hnot => absurd hback hnot⟩
  · rw [hnull]
    exact ⟨iff_of_false not_comesBack_null (not_not.mpr hstringless), fun _ => rfl⟩

/-- The names and types of a batch, read off the frame it was made of. -/
theorem schema_of_fromPandas {outcome : FromPandasOutcome} (h : fromPandas P df = .ok outcome) :
    outcome.batch.schema ≠ [] ∧
      outcome.batch.schema.map (·.name) = df.columns.map (·.1.text) ∧
      (∀ field ∈ outcome.batch.schema, field.dataType.comesBack ∨ field.dataType = .null) ∧
      ((∀ field ∈ outcome.batch.schema, field.dataType.comesBack) ↔
        ∀ column ∈ df.columns, ¬ Stringless column.2) := by
  obtain ⟨columns, hcolumns, hbatch, -⟩ := fromPandas_eq_ok.mp h
  obtain ⟨hschema, hlen, hne, -⟩ := RecordBatch.tryNew_eq_ok hbatch
  have hfields : List.Forall₂ (fun column field => field.name = column.1.text ∧
      (field.dataType.comesBack ↔ ¬ Stringless column.2) ∧
      (¬ field.dataType.comesBack → field.dataType = .null)) df.columns outcome.batch.schema := by
    rw [hschema, List.forall₂_map_right_iff, List.forall₂_iff_get]
    refine ⟨hcolumns.length_eq, fun j hj hj' => ?_⟩
    have hpair : df.columns[j]? = some (df.columns[j].1, df.columns[j].2) :=
      List.getElem?_eq_getElem hj
    obtain ⟨column, hj'', hconvert, hitem, -, -⟩ := hcolumns.column hbatch hpair
    cases (List.getElem?_eq_getElem hj').symm.trans hj''
    exact ⟨(convertColumn_field hconvert).2, convertColumn_comesBack hitem hconvert⟩
  refine ⟨?_, ?_, ?_, ?_⟩
  · intro hnil
    rw [← hschema, hnil, List.length_nil, eq_comm, List.length_eq_zero_iff] at hlen
    exact hne hlen
  · generalize df.columns = pairs, outcome.batch.schema = schema at hfields
    induction hfields with
    | nil => rfl
    | cons hhead _ ih => rw [List.map_cons, List.map_cons, hhead.1, ih]
  · intro field hfield
    obtain ⟨j, hj⟩ := List.mem_iff_getElem?.mp hfield
    have hlt : j < df.columns.length :=
      hfields.length_eq ▸ (List.getElem?_eq_some_iff.mp hj).1
    obtain ⟨-, -, hnull⟩ := forall₂_getElem? hfields (List.getElem?_eq_getElem hlt) hj
    exact or_iff_not_imp_left.mpr hnull
  · generalize df.columns = pairs, outcome.batch.schema = schema at hfields
    induction hfields with
    | nil => simp
    | cons hhead _ ih => rw [List.forall_mem_cons, List.forall_mem_cons, hhead.2.1, ih]

theorem BackFrame.of_accepted {batch : RecordBatch} {back : DataFrame} (h : BackFrame batch back)
    (htypes : ∀ field ∈ batch.schema, field.dataType.comesBack ∨ field.dataType = .null)
    {outcome : FromPandasOutcome} (hok : fromPandas P back = .ok outcome) :
    (batch.schema.map (·.name)).Nodup ∧ ∀ field ∈ batch.schema, field.dataType.comesBack := by
  have hnodup := h.nodup_of_accepted hok
  refine ⟨hnodup, fun field hfield => (htypes field hfield).resolve_right fun hnull => ?_⟩
  obtain ⟨columns, hcolumns, hbatch, -⟩ := fromPandas_eq_ok.mp hok
  obtain ⟨j, hf⟩ := List.mem_iff_getElem?.mp hfield
  obtain ⟨⟨label, series⟩, hc⟩ := h.exists_column hf
  obtain ⟨column, -, hconvert, hitem, -⟩ := hcolumns.column hbatch hc
  have hback := h.column j field _ hf hc (Schema.oneType_of_nodup hnodup field hfield)
  obtain rfl : label = .str field.name := hback.1
  exact convertColumn_back_null hback hnull _ hconvert hitem

/-! ## There and back -/

theorem Table.fromPandas_eq_ok {strict : Bool} {table : Table}
    (h : Table.fromPandas P df strict = .ok table) :
    ∃ outcome, Pydart.fromPandas P df = .ok outcome ∧ table.batches = [outcome.batch] := by
  obtain ⟨outcome, houtcome, hrest⟩ := Except.bind_eq_ok.mp h
  refine ⟨outcome, houtcome, ?_⟩
  cases strict with
  | false =>
      cases hrest
      rfl
  | true =>
      obtain ⟨_, -, hrest⟩ := Except.bind_eq_ok.mp hrest
      cases hrest
      rfl

theorem Table.fromPandas_of_ok {outcome : FromPandasOutcome}
    (h : Pydart.fromPandas P df = .ok outcome) :
    Table.fromPandas P df false = .ok ⟨.ofBatch outcome.batch, outcome.records⟩ := by
  unfold Table.fromPandas
  rw [h]
  rfl

variable (P)

/-- What `from_pandas` makes goes to pandas, where its names tell its types. It comes back,
equal but for nullability, exactly when the labels have different texts and every object
column has a string. -/
theorem fromPandas_toPandas {strict : Bool} {table : Table}
    (h : Table.fromPandas P df strict = .ok table) :
    ∃ batch, table.batches = [batch] ∧
      (batch.schema.OneType → ∃ back, table.toPandas P = .ok back) ∧
      ∀ back, table.toPandas P = .ok back →
        ((∃ table', Table.fromPandas P back false = .ok table') ↔
          (df.columns.map (·.1.text)).Nodup ∧ ∀ column ∈ df.columns, ¬ Stringless column.2) ∧
        ∀ table', Table.fromPandas P back false = .ok table' →
          ∃ batch', table'.batches = [batch'] ∧ ComesBack batch batch' := by
  obtain ⟨outcome, houtcome, hbatches⟩ := Table.fromPandas_eq_ok h
  have hinner : table.inner.batches = [outcome.batch] := hbatches
  have hschema : outcome.batch.schema = table.inner.schema := by
    refine table.inner.uniform outcome.batch ?_
    rw [hinner]
    exact List.mem_singleton_self _
  obtain ⟨hne, hnames, htypes, hstrings⟩ := schema_of_fromPandas houtcome
  refine ⟨outcome.batch, hbatches, fun hone => ?_, fun back hshown => ?_⟩
  · refine toPandas_eq_ok ?_ (hschema ▸ hone)
    rw [hbatches]
    exact List.cons_ne_nil _ _
  have hback : BackFrame outcome.batch back := by
    refine toPandas_backFrame hschema ?_ hshown
    rw [hinner, List.flatMap_singleton]
  rw [← hnames, ← hstrings]
  refine ⟨⟨?_, ?_⟩, ?_⟩
  · rintro ⟨table', htable'⟩
    obtain ⟨outcome', houtcome', -⟩ := Table.fromPandas_eq_ok htable'
    exact hback.of_accepted htypes houtcome'
  · rintro ⟨hnodup, hall⟩
    obtain ⟨outcome', houtcome'⟩ := hback.accepted (P := P) hne hnodup hall
    exact ⟨_, Table.fromPandas_of_ok houtcome'⟩
  · intro table' htable'
    obtain ⟨outcome', houtcome', hbatches'⟩ := Table.fromPandas_eq_ok htable'
    have hcomes := hback.comesBack (hback.of_accepted htypes houtcome').2 houtcome'
    exact ⟨outcome'.batch, hbatches', hcomes⟩

/-! ## Frames that come back and frames that do not -/

theorem fromPandas_toPandas_mixedFrame :
    ∃ table back table' batch batch', Table.fromPandas referencePandas mixedFrame false = .ok table ∧
      table.batches = [batch] ∧ table.toPandas referencePandas = .ok back ∧
      Table.fromPandas referencePandas back false = .ok table' ∧ table'.batches = [batch'] ∧
      ComesBack batch batch' := by
  obtain ⟨table, htable, back, hshown⟩ :
      ∃ table, Table.fromPandas referencePandas mixedFrame false = .ok table ∧
        ∃ back, table.toPandas referencePandas = .ok back := ⟨_, by rfl, _, by rfl⟩
  obtain ⟨batch, hbatches, -, hclosure⟩ := fromPandas_toPandas referencePandas htable
  obtain ⟨haccepted, hback⟩ := hclosure back hshown
  have hstrings : ∀ column ∈ mixedFrame.columns, ¬ Stringless column.2 := by
    rintro column hcolumn ⟨values, flag, hobject, -⟩
    simp only [mixedFrame, List.mem_cons, List.not_mem_nil, or_false] at hcolumn
    rcases hcolumn with rfl | rfl <;> cases hobject
  obtain ⟨table', htable'⟩ := haccepted.mpr ⟨by decide, hstrings⟩
  obtain ⟨batch', hbatches', hsame⟩ := hback table' htable'
  exact ⟨table, back, table', batch, batch', htable, hbatches, hshown, htable', hbatches', hsame⟩

def noneFrame : DataFrame where
  columns := [(.str "o", .object [.none, .none] true)]
  numRows := 2
  sized := by decide

/-- The labels 1 and "1". -/
def twinFrame : DataFrame where
  columns := [(.str "1", .numeric flatIntegers), (.other "1" 0, .numeric flatIntegers)]
  numRows := 2
  sized := by decide

/-- Both frames become tables, and what these give to pandas is refused. -/
theorem frames_not_coming_back :
    (∃ table back e, Table.fromPandas referencePandas noneFrame false = .ok table ∧
      table.toPandas referencePandas = .ok back ∧
      Table.fromPandas referencePandas back false = .error e) ∧
    ∃ table back e, Table.fromPandas referencePandas twinFrame false = .ok table ∧
      table.toPandas referencePandas = .ok back ∧
      Table.fromPandas referencePandas back false = .error e :=
  ⟨⟨_, _, _, by rfl, by rfl, by rfl⟩, ⟨_, _, _, by rfl, by rfl, by rfl⟩⟩

end
end Pydart
