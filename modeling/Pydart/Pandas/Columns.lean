import Pydart.Pandas.Convert

/-! # One column at a time

The loop treats each column as if it were alone: what it appends for a column, the
corrected record included, does not depend on the columns before.
-/

namespace Pydart

def ImportState.append (a b : ImportState) : ImportState :=
  ⟨a.fields ++ b.fields, a.arrays ++ b.arrays, a.records ++ b.records⟩

theorem correctLast_append (observed : Nat) (records : List ColumnConversionRecord)
    (record : ColumnConversionRecord) :
    correctLast observed (records ++ [record]) = records ++ [record.corrected observed] := by
  rw [correctLast, List.getLast?_concat, List.dropLast_concat]

section

variable (P : PandasCrates)

/-- What one column alone contributes. -/
def convertColumn (df : DataFrame) (columnName : Label) : Except PydartError ImportState :=
  fromPandasStep P df ImportState.new columnName

variable {P} {df : DataFrame} {columnName : Label}

theorem importColumn_append (series : Series) (plan : ColumnPlan) (backend : DtypeBackend)
    (kind : ArrowKind) (records : List ColumnConversionRecord) (record : ColumnConversionRecord) :
    importColumn P df columnName series plan backend kind (records ++ [record]) =
      (fun result => (result.1, result.2.1, records ++ result.2.2)) <$>
        importColumn P df columnName series plan backend kind [record] := by
  have hstream : ∀ observed : Nat,
      (if observed > 1 then correctLast observed (records ++ [record]) else records ++ [record]) =
        records ++ (if observed > 1 then correctLast observed [record] else [record]) := by
    intro observed
    split
    · rw [correctLast_append]
      rfl
    · rfl
  unfold importColumn
  split
  · cases borrowNumpyNumericColumn P series columnName.text <;> rfl
  · cases importColumnViaPandasStream P df columnName with
    | error e => rfl
    | ok result =>
        obtain ⟨array, observed, nullable⟩ := result
        simp only [Except.ok_bind, hstream]
        rfl

/-- A turn of the loop appends what the column alone contributes. -/
theorem fromPandasStep_eq (state : ImportState) :
    fromPandasStep P df state columnName = state.append <$> convertColumn P df columnName := by
  unfold convertColumn fromPandasStep
  cases df.getItem columnName with
  | error e => rfl
  | ok series =>
      cases hclass : classifyDtype P series.dtype columnName.text with
      | error e => simp only [Except.ok_bind, hclass]; rfl
      | ok result =>
          obtain ⟨backend, kind, text⟩ := result
          cases hflat : isContiguous backend series with
          | error e => simp only [Except.ok_bind, hclass, hflat]; rfl
          | ok flag =>
              simp only [Except.ok_bind, hclass, hflat, ImportState.new, List.nil_append,
                importColumn_append]
              cases importColumn P df columnName series (planColumn backend kind flag) backend kind
                  [.fromPlan columnName.text text (planColumn backend kind flag)] <;>
                cases validateObjectColumnContents P series columnName.text <;>
                split <;> rfl

theorem foldlM_fromPandasStep (labels : List Label) (state : ImportState) :
    labels.foldlM (fromPandasStep P df) state =
      (fun columns => columns.foldl ImportState.append state) <$>
        labels.mapM (convertColumn P df) := by
  induction labels generalizing state with
  | nil => rfl
  | cons label labels ih =>
      rw [List.foldlM_cons, List.mapM_cons, fromPandasStep_eq]
      cases convertColumn P df label with
      | error e => rfl
      | ok column =>
          have hstep : (state.append <$> (Except.ok column : Except PydartError ImportState)) =
              .ok (state.append column) := rfl
          rw [hstep, Except.ok_bind, Except.ok_bind, ih]
          cases labels.mapM (convertColumn P df) <;> rfl

/-! ## Classification -/

def DataType.importable (t : DataType) : Bool :=
  t.isInteger || t.isFloating || t.isBoolean || t.isString || t.isLargeString ||
    match t with
    | .timestamp .nanosecond _ => true
    | .duration .nanosecond => true
    | _ => false

/-- The pairs of backend and kind that the dtypes get. -/
inductive Classified : Dtype → DtypeBackend → ArrowKind → Prop where
  | arrow (t : DataType) (kind : ArrowKind) (h : kind ≠ .categorical)
      (importable : t.importable = true) : Classified (.arrow t) .arrow kind
  | categorical (ordered : Bool) : Classified (.categorical ordered) .categorical .categorical
  | datetimeTz (tz : String) : Classified (.datetimeTz "ns" tz) .numpy (.timestamp (some tz))
  | numeric (dtype : NumericDtype) : Classified (.numpy (.numeric dtype)) .numpy .numeric
  | bool : Classified (.numpy .bool) .numpy .bool
  | object : Classified (.numpy .object) .numpy .string
  | datetime64 : Classified (.numpy (.datetime64 "ns")) .numpy (.timestamp none)
  | timedelta64 : Classified (.numpy (.timedelta64 "ns")) .numpy .duration

theorem nsOnly_eq_ok {name text unit : String} : nsOnly P name text unit = .ok () ↔ unit = "ns" := by
  unfold nsOnly
  split <;> simp_all

theorem TimeUnit.text_eq_ns {unit : TimeUnit} : unit.text = "ns" ↔ unit = .nanosecond := by
  cases unit <;> simp [TimeUnit.text]

theorem classifyDtype_eq_ok {dtype : Dtype} {name text : String} {backend : DtypeBackend}
    {kind : ArrowKind} (h : classifyDtype P dtype name = .ok (backend, kind, text)) :
    text = P.str dtype ∧ Classified dtype backend kind := by
  unfold classifyDtype at h
  cases dtype with
  | arrow t =>
      simp only at h
      split at h
      · rename_i htype
        cases h
        exact ⟨rfl, .arrow t _ (by simp) (by simp [DataType.importable, htype])⟩
      · split at h
        · rename_i htype
          cases h
          exact ⟨rfl, .arrow t _ (by simp) (by simp [DataType.importable, htype])⟩
        · split at h
          · rename_i htype
            cases h
            rw [Bool.or_eq_true] at htype
            refine ⟨rfl, .arrow t _ (by simp) ?_⟩
            rcases htype with htype | htype <;> simp [DataType.importable, htype]
          · split at h
            · obtain ⟨_, hunit, h⟩ := Except.bind_eq_ok.mp h
              cases h
              rw [nsOnly_eq_ok, TimeUnit.text_eq_ns] at hunit
              subst hunit
              exact ⟨rfl, .arrow _ _ (by simp) rfl⟩
            · obtain ⟨_, hunit, h⟩ := Except.bind_eq_ok.mp h
              cases h
              rw [nsOnly_eq_ok, TimeUnit.text_eq_ns] at hunit
              subst hunit
              exact ⟨rfl, .arrow _ _ (by simp) rfl⟩
            · cases h
  | categorical ordered =>
      cases h
      exact ⟨rfl, .categorical ordered⟩
  | datetimeTz unit tz =>
      obtain ⟨_, hunit, h⟩ := Except.bind_eq_ok.mp h
      cases h
      rw [nsOnly_eq_ok] at hunit
      subst hunit
      exact ⟨rfl, .datetimeTz tz⟩
  | extension typeName => cases h
  | numpy dtype =>
      cases dtype with
      | bool =>
          cases h
          exact ⟨rfl, .bool⟩
      | numeric dtype =>
          have hkind : backend = .numpy ∧ kind = .numeric ∧ text = P.str (.numpy (.numeric dtype)) := by
            cases dtype <;> cases h <;> exact ⟨rfl, rfl, rfl⟩
          obtain ⟨rfl, rfl, rfl⟩ := hkind
          exact ⟨rfl, .numeric dtype⟩
      | object =>
          cases h
          exact ⟨rfl, .object⟩
      | datetime64 unit =>
          obtain ⟨_, hunit, h⟩ := Except.bind_eq_ok.mp h
          cases h
          rw [nsOnly_eq_ok] at hunit
          subst hunit
          exact ⟨rfl, .datetime64⟩
      | timedelta64 unit =>
          obtain ⟨_, hunit, h⟩ := Except.bind_eq_ok.mp h
          cases h
          rw [nsOnly_eq_ok] at hunit
          subst hunit
          exact ⟨rfl, .timedelta64⟩
      | other dtype => cases dtype <;> cases h

/-! ## The two arms -/

/-- The array of a stream: the batches' slots in order, copied once they are joined. -/
structure Joined (table : StreamTable) (array : Imported) : Prop where
  dataType : array.array.dataType = table.field.dataType
  slots : array.array.slots = table.batches.flatMap (·.array.slots)
  copied : array.copied = match table.batches with
    | [] => false
    | [batch] => batch.copied
    | _ => true

theorem importColumnViaPandasStream_eq {series : Series} {table : StreamTable}
    (hitem : df.getItem columnName = .ok series)
    (hstream : P.arrowCStream columnName series = .ok table) :
    ∃ array, importColumnViaPandasStream P df columnName =
        .ok (array, table.batches.length, table.field.nullable) ∧ Joined table array := by
  unfold importColumnViaPandasStream
  simp only [hitem, hstream, Except.ok_bind]
  have htyped := table.typed
  generalize hbatches : table.batches = batches at htyped
  rcases batches with _ | ⟨first, _ | ⟨second, rest⟩⟩
  · exact ⟨_, rfl, rfl, by rw [hbatches]; rfl, by rw [hbatches]⟩
  · refine ⟨first, rfl, htyped first List.mem_cons_self, ?_, by rw [hbatches]⟩
    rw [hbatches, List.flatMap_singleton]
  · have hne : (first :: second :: rest).map (·.array) ≠ [] := by simp
    have hsame : ∀ array ∈ (first :: second :: rest).map (·.array),
        array.dataType = table.field.dataType := by
      intro array harray
      obtain ⟨batch, hbatch, rfl⟩ := List.mem_map.mp harray
      exact htyped batch hbatch
    obtain ⟨result, hresult, htype, hslots⟩ := P.concat_ok hne hsame
    simp only [hresult]
    refine ⟨⟨result, true⟩, rfl, htype, ?_, by rw [hbatches]⟩
    rw [hslots, hbatches, List.flatMap_map]

structure ConvertedColumn where
  field : Field
  array : Imported
  record : ColumnConversionRecord

def ConvertedColumn.state (column : ConvertedColumn) : ImportState :=
  ⟨[column.field], [column.array], [column.record]⟩

theorem ConvertedColumn.state_injective {a b : ConvertedColumn} (h : a.state = b.state) : a = b := by
  cases a
  cases b
  simpa [ConvertedColumn.state] using h

/-- The column went through the borrowing arm. -/
def Borrowed (label : Label) (series : Series) (column : ConvertedColumn) : Prop :=
  ∃ (values : NumpyArray) (t : DataType) (h : values.dtype.arrowType = some t),
    series = .numeric values ∧ values.cContiguous = true ∧ values.native = true ∧
      values.dtype.elementType.isSome = true ∧
      column.field = buildField label.text (values.borrowed t h) none false ∧
      column.array = ⟨values.borrowed t h, false⟩

def borrowedRecord (P : PandasCrates) (label : Label) (series : Series) :
    ColumnConversionRecord :=
  ⟨label.text, P.str series.dtype, true, none⟩

/-- The column went through the stream, in so many batches. -/
def Streamed (P : PandasCrates) (label : Label) (series : Series) (backend : DtypeBackend)
    (batchCount : Nat) (column : ConvertedColumn) : Prop :=
  ∃ table kind flag, P.arrowCStream label series = .ok table ∧ table.batches.length = batchCount ∧
    Classified series.dtype backend kind ∧ isContiguous backend series = .ok flag ∧
    ¬ (backend = .numpy ∧ kind = .numeric ∧ flag = true) ∧
    Joined table column.array ∧
    column.field = buildField label.text column.array.array (isOrdered backend series.dtype)
      table.field.nullable

/-- The record of a column that came in so many batches: that of its plan, corrected
where there were several. -/
def StreamedRecord (P : PandasCrates) (label : Label) (series : Series) (backend : DtypeBackend)
    (batchCount : Nat) (record : ColumnConversionRecord) : Prop :=
  ∃ kind flag, Classified series.dtype backend kind ∧ isContiguous backend series = .ok flag ∧
    ¬ (backend = .numpy ∧ kind = .numeric ∧ flag = true) ∧
    record = (if batchCount > 1 then ColumnConversionRecord.corrected batchCount else id)
      (.fromPlan label.text (P.str series.dtype) (planColumn backend kind flag))

theorem borrowNumpyNumericColumn_eq_ok {series : Series} {name : String} {array : ArrowArray} :
    borrowNumpyNumericColumn P series name = .ok array ↔
      ∃ (values : NumpyArray) (t : DataType) (h : values.dtype.arrowType = some t),
        series = .numeric values ∧ values.cContiguous = true ∧ values.native = true ∧
          values.dtype.elementType.isSome = true ∧ array = values.borrowed t h := by
  constructor
  · intro h
    cases series with
    | numeric values =>
        simp only [borrowNumpyNumericColumn] at h
        split at h
        · rename_i rust t helement
          split at h
          · cases h
          · rename_i hnative
            split at h
            · cases h
            · rename_i hflat
              cases h
              exact ⟨values, t, NumericDtype.arrowType_of_elementType helement, rfl,
                by simpa using hflat, by simpa using hnative, by rw [helement]; rfl, rfl⟩
        · cases h
    | _ => cases h
  · rintro ⟨values, t, h, rfl, hflat, hnative, hsome, rfl⟩
    simp only [borrowNumpyNumericColumn]
    split
    · rename_i rust t' helement
      have ht := NumericDtype.arrowType_of_elementType helement
      rw [h] at ht
      cases ht
      simp [hnative, hflat]
    · rename_i hnone
      rw [hnone] at hsome
      cases hsome

theorem validateFrom_eq_ok {name : String} {i : Nat} {values : List PyObject} :
    validateFrom P name i values = .ok () ↔
      values.all (fun value => value.isStr || value.isMissing) = true := by
  induction values generalizing i with
  | nil => simp [validateFrom]
  | cons value rest ih =>
      rw [validateFrom, List.all_cons]
      cases hmissing : value.isMissing with
      | true => simp [ih]
      | false =>
          cases hstr : value.isStr with
          | true => simp [ih]
          | false => simp

theorem importColumn_stream {series : Series} {backend : DtypeBackend} {kind : ArrowKind}
    {flag : Bool} (h : ¬ (backend = .numpy ∧ kind = .numeric ∧ flag = true))
    (records : List ColumnConversionRecord) :
    importColumn P df columnName series (planColumn backend kind flag) backend kind records =
      importColumnViaPandasStream P df columnName >>= fun result =>
        pure (result.1, result.2.2,
          if result.2.1 > 1 then correctLast result.2.1 records else records) := by
  unfold importColumn
  split
  · rename_i hplan
    rcases planColumn_eq_zeroCopyBorrow_iff.mp hplan with ⟨hbackend, -⟩ | hnumpy
    · cases hbackend
    · exact absurd hnumpy h
  · rfl

theorem convertColumn_eq_parts {series : Series} {backend : DtypeBackend} {kind : ArrowKind}
    {text : String} {flag : Bool} (hitem : df.getItem columnName = .ok series)
    (hclass : classifyDtype P series.dtype columnName.text = .ok (backend, kind, text))
    (hflat : isContiguous backend series = .ok flag) {state : ImportState} :
    convertColumn P df columnName = .ok state ↔
      (backend = .numpy ∧ kind = .string →
        validateObjectColumnContents P series columnName.text = .ok ()) ∧
      ∃ array nullable records,
        importColumn P df columnName series (planColumn backend kind flag) backend kind
          [.fromPlan columnName.text text (planColumn backend kind flag)] =
            .ok (array, nullable, records) ∧
        state = ⟨[buildField columnName.text array.array (isOrdered backend series.dtype) nullable],
          [array], records⟩ := by
  unfold convertColumn fromPandasStep
  simp only [hitem, hclass, hflat, Except.ok_bind, ImportState.new, List.nil_append]
  constructor
  · intro h
    split at h
    · obtain ⟨_, hvalid, h⟩ := Except.bind_eq_ok.mp h
      obtain ⟨result, himport, h⟩ := Except.bind_eq_ok.mp h
      cases h
      exact ⟨fun _ => hvalid, _, _, _, himport, rfl⟩
    · rename_i hnot
      obtain ⟨result, himport, h⟩ := Except.bind_eq_ok.mp h
      cases h
      exact ⟨fun hobject => absurd hobject hnot, _, _, _, himport, rfl⟩
  · rintro ⟨hvalid, array, nullable, records, himport, rfl⟩
    split
    · rename_i hobject
      rw [hvalid hobject, himport]
      rfl
    · rw [himport]
      rfl

theorem convertColumn_of_stream {series : Series} {backend : DtypeBackend} {kind : ArrowKind}
    {text : String} {flag : Bool} (hitem : df.getItem columnName = .ok series)
    (hclass : classifyDtype P series.dtype columnName.text = .ok (backend, kind, text))
    (hflat : isContiguous backend series = .ok flag)
    (hvalid : backend = .numpy ∧ kind = .string →
      validateObjectColumnContents P series columnName.text = .ok ())
    (hstream : ¬ (backend = .numpy ∧ kind = .numeric ∧ flag = true)) {table : StreamTable}
    (htable : P.arrowCStream columnName series = .ok table) :
    ∃ column, convertColumn P df columnName = .ok column.state ∧
      Streamed P columnName series backend table.batches.length column ∧
      StreamedRecord P columnName series backend table.batches.length column.record := by
  obtain ⟨rfl, hclassified⟩ := classifyDtype_eq_ok hclass
  obtain ⟨array, himport, hjoined⟩ := importColumnViaPandasStream_eq hitem htable
  refine ⟨⟨buildField columnName.text array.array (isOrdered backend series.dtype)
      table.field.nullable, array,
    (if table.batches.length > 1 then
      ColumnConversionRecord.corrected table.batches.length else id)
      (.fromPlan columnName.text (P.str series.dtype) (planColumn backend kind flag))⟩,
    (convertColumn_eq_parts hitem hclass hflat).mpr ⟨hvalid, array, table.field.nullable, _, ?_, rfl⟩,
    ⟨table, kind, flag, htable, rfl, hclassified, hflat, hstream, hjoined, rfl⟩,
    kind, flag, hclassified, hflat, hstream, rfl⟩
  rw [importColumn_stream hstream, himport, Except.ok_bind]
  simp only [correctLast, List.getLast?_singleton, List.dropLast_singleton, List.nil_append]
  split <;> rfl

theorem convertColumn_of_borrow {values : NumpyArray} {text : String}
    (hitem : df.getItem columnName = .ok (.numeric values))
    (hclass : classifyDtype P (Series.numeric values).dtype columnName.text =
      .ok (.numpy, .numeric, text)) (hflat : values.cContiguous = true)
    (hnative : values.native = true) (helement : values.dtype.elementType.isSome = true) :
    ∃ column, convertColumn P df columnName = .ok column.state ∧
      Borrowed columnName (.numeric values) column ∧
      column.record = borrowedRecord P columnName (.numeric values) := by
  obtain ⟨rfl, -⟩ := classifyDtype_eq_ok hclass
  obtain ⟨⟨rust, t⟩, helem⟩ := Option.isSome_iff_exists.mp helement
  have ht := NumericDtype.arrowType_of_elementType helem
  have hborrow : borrowNumpyNumericColumn P (.numeric values) columnName.text =
      .ok (values.borrowed t ht) :=
    borrowNumpyNumericColumn_eq_ok.mpr ⟨values, t, ht, rfl, hflat, hnative, helement, rfl⟩
  have hcontiguous : isContiguous .numpy (.numeric values) = .ok true := by
    simp [isContiguous, Series.cContiguous, hflat]
  refine ⟨⟨buildField columnName.text (values.borrowed t ht) none false,
      ⟨values.borrowed t ht, false⟩,
      ⟨columnName.text, P.str (Series.numeric values).dtype, true, none⟩⟩,
    (convertColumn_eq_parts hitem hclass hcontiguous).mpr
      ⟨by simp, ⟨values.borrowed t ht, false⟩, false, _, ?_, rfl⟩,
    ⟨values, t, ht, rfl, hflat, hnative, helement, rfl, rfl⟩, rfl⟩
  simp only [planColumn, if_true, importColumn, hborrow, Except.ok_bind]
  rfl

theorem convertColumn_eq_ok {state : ImportState} (h : convertColumn P df columnName = .ok state) :
    ∃ series backend column, df.getItem columnName = .ok series ∧ state = column.state ∧
      (∀ values flag, series = .object values flag →
        values.all (fun value => value.isStr || value.isMissing) = true) ∧
      ((backend = .numpy ∧ Borrowed columnName series column ∧
          column.record = borrowedRecord P columnName series) ∨
        ∃ batchCount, Streamed P columnName series backend batchCount column ∧
          StreamedRecord P columnName series backend batchCount column.record) := by
  obtain ⟨series, hitem, hrest⟩ := Except.bind_eq_ok.mp h
  obtain ⟨⟨backend, kind, text⟩, hclass, hrest⟩ := Except.bind_eq_ok.mp hrest
  obtain ⟨flag, hflat, -⟩ := Except.bind_eq_ok.mp hrest
  obtain ⟨hvalid, array, nullable, records, himport, rfl⟩ :=
    (convertColumn_eq_parts hitem hclass hflat).mp h
  obtain ⟨rfl, hclassified⟩ := classifyDtype_eq_ok hclass
  have hobject : ∀ values contiguous, series = .object values contiguous →
      values.all (fun value => value.isStr || value.isMissing) = true := by
    rintro values contiguous rfl
    cases hclassified
    exact validateFrom_eq_ok.mp (hvalid ⟨rfl, rfl⟩)
  by_cases hborrow : backend = .numpy ∧ kind = .numeric ∧ flag = true
  · obtain ⟨rfl, rfl, rfl⟩ := hborrow
    obtain ⟨borrowed, hborrow, himport⟩ := Except.bind_eq_ok.mp himport
    cases himport
    obtain ⟨values, t, ht, rfl, hcontiguous, hnative, hsome, rfl⟩ :=
      borrowNumpyNumericColumn_eq_ok.mp hborrow
    exact ⟨_, .numpy, ⟨_, _, _⟩, hitem, rfl, hobject, Or.inl ⟨rfl, ⟨values, t, ht, rfl,
      hcontiguous, hnative, hsome, rfl, rfl⟩, rfl⟩⟩
  · rw [importColumn_stream hborrow] at himport
    obtain ⟨_, hresult, -⟩ := Except.bind_eq_ok.mp himport
    obtain ⟨series', hitem', hresult⟩ := Except.bind_eq_ok.mp hresult
    cases hitem.symm.trans hitem'
    obtain ⟨table, htable, -⟩ := Except.bind_eq_ok.mp hresult
    obtain ⟨column, hcolumn, hstreamed⟩ :=
      convertColumn_of_stream hitem hclass hflat hvalid hborrow htable
    rw [h, Except.ok.injEq] at hcolumn
    exact ⟨series, backend, column, hitem, hcolumn, hobject, Or.inr ⟨_, hstreamed⟩⟩

@[simp]
theorem buildField_name (name : String) (array : ArrowArray) (ordered : Option Bool)
    (nullable : Bool) : (buildField name array ordered nullable).name = name := by
  unfold buildField
  split <;> rfl

@[simp]
theorem buildField_dataType (name : String) (array : ArrowArray) (ordered : Option Bool)
    (nullable : Bool) : (buildField name array ordered nullable).dataType = array.dataType := by
  unfold buildField
  split
  · rename_i heq
    rw [heq]
  · rfl

@[simp]
theorem buildField_nullable (name : String) (array : ArrowArray) (ordered : Option Bool)
    (nullable : Bool) : (buildField name array ordered nullable).nullable = nullable := by
  unfold buildField
  split <;> rfl

/-- The field of a converted column is of the array's type, under the label's text. -/
theorem convertColumn_field {column : ConvertedColumn}
    (h : convertColumn P df columnName = .ok column.state) :
    column.field.dataType = column.array.array.dataType ∧ column.field.name = columnName.text := by
  obtain ⟨series, backend, column', -, hstate, -, harm⟩ := convertColumn_eq_ok h
  cases ConvertedColumn.state_injective hstate
  rcases harm with ⟨-, ⟨values, t, ht, -, -, -, -, hfield, harray⟩, -⟩ |
      ⟨-, ⟨table, kind, flag, -, -, -, -, -, -, hfield⟩, -⟩
  · rw [hfield, harray]
    simp
  · rw [hfield]
    simp

/-! ## Whole frames -/

theorem foldl_append_state (columns : List ConvertedColumn) (state : ImportState) :
    (columns.map ConvertedColumn.state).foldl ImportState.append state =
      state.append ⟨columns.map (·.field), columns.map (·.array), columns.map (·.record)⟩ := by
  induction columns generalizing state with
  | nil => simp [ImportState.append]
  | cons column columns ih =>
      rw [List.map_cons, List.foldl_cons, ih]
      simp [ImportState.append, ConvertedColumn.state]

def ConvertsTo (P : PandasCrates) (df : DataFrame) (columns : List ConvertedColumn) : Prop :=
  List.Forall₂ (fun column converted => convertColumn P df column.1 = .ok converted.state)
    df.columns columns

theorem foldlM_eq_ok {state : ImportState} :
    (df.columns.map (·.1)).foldlM (fromPandasStep P df) ImportState.new = .ok state ↔
      ∃ columns, ConvertsTo P df columns ∧
        state = ⟨columns.map (·.field), columns.map (·.array), columns.map (·.record)⟩ := by
  have hnew : ∀ columns : List ConvertedColumn,
      (columns.map ConvertedColumn.state).foldl ImportState.append ImportState.new =
        ⟨columns.map (·.field), columns.map (·.array), columns.map (·.record)⟩ := by
    intro columns
    rw [foldl_append_state]
    simp [ImportState.append, ImportState.new]
  rw [foldlM_fromPandasStep, Except.map_eq_ok]
  simp only [Except.mapM_eq_ok, List.forall₂_map_left_iff]
  constructor
  · rintro ⟨states, hstates, rfl⟩
    have hcolumns : ∃ columns, ConvertsTo P df columns ∧
        states = columns.map ConvertedColumn.state := by
      unfold ConvertsTo
      generalize df.columns = pairs at hstates
      induction hstates with
      | nil => exact ⟨[], List.Forall₂.nil, rfl⟩
      | cons hhead _ ih =>
          obtain ⟨columns, hcolumns, rfl⟩ := ih
          obtain ⟨-, -, column, -, rfl, -⟩ := convertColumn_eq_ok hhead
          exact ⟨column :: columns, List.Forall₂.cons hhead hcolumns, rfl⟩
    obtain ⟨columns, hcolumns, rfl⟩ := hcolumns
    exact ⟨columns, hcolumns, hnew columns⟩
  · rintro ⟨columns, hcolumns, rfl⟩
    exact ⟨_, List.forall₂_map_right_iff.mpr hcolumns, hnew columns⟩

/-- A frame is converted exactly when its columns are and make a batch. -/
theorem fromPandas_eq_ok {outcome : FromPandasOutcome} :
    fromPandas P df = .ok outcome ↔
      ∃ columns, ConvertsTo P df columns ∧
        RecordBatch.tryNew (columns.map (·.field)) (columns.map (·.array.array)) =
          .ok outcome.batch ∧
        outcome.records = columns.map (·.record) := by
  unfold fromPandas
  simp only [Except.bind_eq_ok, foldlM_eq_ok]
  constructor
  · rintro ⟨_, ⟨columns, hcolumns, rfl⟩, batch, hbatch, h⟩
    cases h
    rw [List.map_map] at hbatch
    refine ⟨columns, hcolumns, ?_, rfl⟩
    cases htry : RecordBatch.tryNew (columns.map (·.field)) (columns.map (·.array.array)) with
    | error e =>
        change (RecordBatch.tryNew _ (columns.map (·.array.array))).mapError _ = _ at hbatch
        rw [htry] at hbatch
        cases hbatch
    | ok made =>
        change (RecordBatch.tryNew _ (columns.map (·.array.array))).mapError _ = _ at hbatch
        rw [htry] at hbatch
        cases hbatch
        rfl
  · rintro ⟨columns, hcolumns, hbatch, hrecords⟩
    refine ⟨_, ⟨columns, hcolumns, rfl⟩, outcome.batch, ?_, ?_⟩
    · rw [List.map_map]
      change (RecordBatch.tryNew _ (columns.map (·.array.array))).mapError _ = _
      rw [hbatch]
      rfl
    · rw [← hrecords]
      rfl

theorem getItem_of_mem {series series' : Series} (hitem : df.getItem columnName = .ok series)
    (hmem : (columnName, series') ∈ df.columns) : series' = series := by
  unfold DataFrame.getItem at hitem
  have hfilter : (columnName, series') ∈
      df.columns.filter (fun column => decide (column.1 = columnName)) :=
    List.mem_filter.mpr ⟨hmem, by simp⟩
  split at hitem
  · cases hitem
  · rename_i column heq
    cases hitem
    rw [heq, List.mem_singleton] at hfilter
    rw [← hfilter]
  · cases hitem

/-- Where column `j` of the frame ends up. -/
theorem ConvertsTo.column {columns : List ConvertedColumn} {batch : RecordBatch}
    (hcolumns : ConvertsTo P df columns)
    (hbatch : RecordBatch.tryNew (columns.map (·.field)) (columns.map (·.array.array)) = .ok batch)
    {j : Nat} {series : Series} (hpair : df.columns[j]? = some (columnName, series)) :
    ∃ column : ConvertedColumn, columns[j]? = some column ∧
      convertColumn P df columnName = .ok column.state ∧ df.getItem columnName = .ok series ∧
      batch.schema[j]? = some column.field ∧ batch.column j = some column.array.array := by
  have hlt : j < columns.length := by
    have hlen := hcolumns.length_eq
    have hj := (List.getElem?_eq_some_iff.mp hpair).1
    omega
  have hcolumn : columns[j]? = some columns[j] := List.getElem?_eq_getElem hlt
  have hconvert := forall₂_getElem? hcolumns hpair hcolumn
  obtain ⟨series', -, -, hitem, -⟩ := convertColumn_eq_ok hconvert
  cases getItem_of_mem hitem (List.mem_of_getElem? hpair)
  have hfield : (columns.map (·.field))[j]? = some columns[j].field := by
    rw [List.getElem?_map, hcolumn, Option.map_some]
  refine ⟨columns[j], hcolumn, hconvert, hitem, ?_, ?_⟩
  · rw [(RecordBatch.tryNew_eq_ok hbatch).1]
    exact hfield
  · refine RecordBatch.column_tryNew hbatch hfield ?_ (convertColumn_field hconvert).1
    rw [List.getElem?_map, hcolumn, Option.map_some]

end
end Pydart
