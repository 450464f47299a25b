import Pydart.Parquet.Names

/-! # Names with dots

A name with a dot in it passes the statistics lookup of a flat schema and selects
nothing in the projection mask: the row predicate then has no column to look at,
and a projection misses what it asked for.
-/

namespace Pydart

section

variable {C : Crates} {schema : Schema} {filter : FilterExpr}

/-! ## The batch of a predicate -/

theorem projectionMask_dotless (hflat : FlatNames schema) {i : Nat} {field : Field}
    (hfield : schema[i]? = some field) (hdot : dotless field.name = true) :
    ∃ rest, C.projectionMask schema [field.name] = i :: rest := by
  have hindex := indexOf_eq_ok.mp (indexOf_of_distinct hflat.distinct hfield)
  rw [← head?_projectionMask_dotless (C := C) hdot] at hindex
  exact List.head?_eq_some_iff.mp hindex

theorem projectedBatch_dotted (hflat : FlatNames schema) (hdot : dotless filter.column = false)
    (rows : List (LocatedRow schema)) :
    (projectedBatch (toPredicate C schema filter).projection rows).column 0 = none := by
  rw [toPredicate, projectionMask_dotted hflat hdot]
  exact RecordBatch.column_eq_none rfl

/-- The predicate of a filter sees the filter's column, unless there is a dot in
its name. -/
theorem projectedBatch_filter_iff (hflat : FlatNames schema) {i : Nat} {field : Field}
    (hfield : schema[i]? = some field) (hname : field.name = filter.column)
    (rows : List (LocatedRow schema)) :
    (∃ column, (projectedBatch (toPredicate C schema filter).projection rows).column 0 =
        some column ∧ column.dataType = field.dataType ∧
          column.slots = rows.map (·.row.slot i)) ↔ dotless filter.column = true := by
  constructor
  · rintro ⟨column, hcolumn, -⟩
    by_contra hdot
    rw [projectedBatch_dotted hflat (Bool.eq_false_of_not_eq_true hdot)] at hcolumn
    cases hcolumn
  · intro hdot
    rw [← hname] at hdot
    obtain ⟨rest, hmask⟩ := projectionMask_dotless (C := C) hflat hfield hdot
    rw [toPredicate, ← hname, hmask]
    exact projectedBatch_column hfield rest rows

/-! ## Panics -/

theorem evaluatePredicate_not_panicked {K : ArrowKernels} {batch : RecordBatch}
    {column : ArrowArray} (hcolumn : batch.column 0 = some column) (op : Op)
    (value : ScalarValue) : evaluatePredicate K batch op value ≠ .error .panicked := by
  unfold evaluatePredicate
  simp only [hcolumn]
  split
  · intro h
    cases h
  · intro h
    rcases Except.bind_eq_error.mp h with h | ⟨casted, -, h⟩
    · obtain ⟨e, -, h⟩ := liftArrow_eq_error.mp h
      cases h
    · obtain ⟨e, -, h⟩ := liftArrow_eq_error.mp h
      cases h

theorem runPredicate_panicked_iff (hflat : FlatNames schema)
    (hpresent : filter.column ∈ schema.map Field.name) (rows : List (LocatedRow schema)) :
    runPredicate (toPredicate C schema filter) rows = .error .panicked ↔
      dotless filter.column = false := by
  obtain ⟨field, hmem, hname⟩ := List.mem_map.mp hpresent
  obtain ⟨i, hfield⟩ := List.mem_iff_getElem?.mp hmem
  cases hdot : dotless filter.column with
  | false =>
      have hpanic : (toPredicate C schema filter).evaluate
          (projectedBatch (toPredicate C schema filter).projection rows) = .error .panicked :=
        evaluatePredicate_no_column (projectedBatch_dotted hflat hdot rows) _ _
      simp [runPredicate, hpanic]
  | true =>
      obtain ⟨column, hcolumn, -⟩ :=
        (projectedBatch_filter_iff (C := C) hflat hfield hname rows).mpr hdot
      simp only [Bool.true_eq_false, iff_false]
      intro h
      rcases Except.bind_eq_error.mp h with h | ⟨flags, -, h⟩
      · exact evaluatePredicate_not_panicked hcolumn _ _ h
      · split at h <;> cases h

theorem mapM_runPredicate_panicked_iff (hflat : FlatNames schema)
    (hpresent : filter.column ∈ schema.map Field.name) {rows : List (LocatedRow schema)}
    {sizes : List Nat} (hsum : sizes.sum = rows.length) (hpos : ∀ size ∈ sizes, 0 < size) :
    (splitSizes sizes rows).mapM (runPredicate (toPredicate C schema filter)) =
        .error .panicked ↔ rows ≠ [] ∧ dotless filter.column = false := by
  rw [Except.mapM_eq_error]
  simp only [runPredicate_panicked_iff hflat hpresent]
  constructor
  · rintro ⟨before, chunk, rest, hsplit, -, hdot⟩
    refine ⟨fun hnil => ?_, hdot⟩
    rw [(splitSizes_eq_nil_iff hsum hpos).mpr hnil] at hsplit
    simp at hsplit
  · rintro ⟨hne, hdot⟩
    cases hsplit : splitSizes sizes rows with
    | nil => exact absurd ((splitSizes_eq_nil_iff hsum hpos).mp hsplit) hne
    | cons chunk chunks => exact ⟨[], chunk, chunks, rfl, by simp, hdot⟩

/-- A filter with a dot in its name gets rows to look at, after the filters before
it have run. -/
def DottedReached (C : Crates) : List FilterExpr → List (Row schema) → Prop
  | [], _ => False
  | filter :: filters, rows =>
      (rows ≠ [] ∧ dotless filter.column = false) ∨
        ((rows ≠ [] → (filterPredicate C schema filter).isSome = true) ∧
          DottedReached C filters (rows.filter (passes C filter)))

theorem runRowFilter_panicked_iff (hflat : FlatNames schema)
    {sizes : Nat → List (Nat × Nat) → List Nat}
    (hsum : ∀ stage selected, (sizes stage selected).sum = selected.length)
    (hpos : ∀ stage selected, ∀ size ∈ sizes stage selected, 0 < size)
    {filters : List FilterExpr} (hpresent : ∀ f ∈ filters, f.column ∈ schema.map Field.name)
    {stage : Nat} {rows : List (LocatedRow schema)} :
    runRowFilter sizes stage (buildRowFilter C schema filters) rows = .error .panicked ↔
      DottedReached C filters (rows.map (·.row)) := by
  induction filters generalizing stage rows with
  | nil =>
      simp only [buildRowFilter_eq, List.map_nil, runRowFilter, DottedReached, iff_false]
      intro h
      cases h
  | cons filter filters ih =>
      have hlen : (sizes stage (rows.map LocatedRow.position)).sum = rows.length := by
        rw [hsum, List.length_map]
      have hmap : (rows.filter (fun located => passes C filter located.row)).map (·.row) =
          (rows.map (·.row)).filter (passes C filter) := by
        rw [List.filter_map]
        rfl
      rw [buildRowFilter_eq, List.map_cons, runRowFilter, Except.bind_eq_error,
        mapM_runPredicate_panicked_iff hflat (hpresent filter List.mem_cons_self) hlen (hpos _ _)]
      simp only [mapM_runPredicate hlen (hpos _ _), DottedReached, ne_eq, List.map_eq_nil_iff]
      refine or_congr_right ?_
      constructor
      · rintro ⟨kept, ⟨hrun, rfl⟩, hrest⟩
        rw [map_filter_flatten, splitSizes_flatten hlen, ← buildRowFilter_eq,
          ih fun f hf => hpresent f (List.mem_cons_of_mem _ hf), hmap] at hrest
        exact ⟨hrun, hrest⟩
      · rintro ⟨hrun, hrest⟩
        refine ⟨_, ⟨hrun, rfl⟩, ?_⟩
        rw [map_filter_flatten, splitSizes_flatten hlen, ← buildRowFilter_eq,
          ih fun f hf => hpresent f (List.mem_cons_of_mem _ hf), hmap]
        exact hrest

/-! ## Reads -/

theorem mem_names_of_bounds {file : ParquetFile} {bounds : ArrowArray × ArrowArray}
    (h : rowGroupBounds C file filter = .ok bounds) :
    filter.column ∈ file.schema.map Field.name := by
  obtain ⟨converter, hconverter, -⟩ := Except.bind_eq_ok.mp h
  cases hindex : indexOf file.schema filter.column with
  | error e =>
      obtain ⟨e', he'⟩ := C.statisticsConverter_error hindex
      rw [he'] at hconverter
      cases hconverter
  | ok i =>
      obtain ⟨field, hfield, hname⟩ := indexOf_lt hindex
      exact hname ▸ List.mem_map_of_mem (List.mem_of_getElem? hfield)

theorem emitRows_not_panicked (columns : Option (List String)) (rows : List (Row schema)) :
    emitRows C schema columns rows ≠ .error .panicked := by
  intro h
  cases columns with
  | none =>
      rw [emitRows_none] at h
      cases h
  | some names =>
      rw [emitRows, reorderColumns] at h
      rcases Except.bind_eq_error.mp h with h | ⟨indices, -, h⟩
      · obtain ⟨-, name, -, -, -, hname⟩ := Except.mapM_eq_error.mp h
        obtain ⟨e, -, he⟩ := liftArrow_eq_error.mp hname
        cases he
      · obtain ⟨e, -, he⟩ := liftArrow_eq_error.mp h
        cases he

variable {Path : Type} {disk : Disk Path} {path : Path} {file : ParquetFile}

/-- A read of a flat file panics when a filter with a dot in its name is accepted
and gets rows to look at. -/
theorem readParquet_panicked_iff (hopen : disk.openFile path = .ok file)
    (hflat : FlatNames file.schema) {columns : Option (List String)}
    {filters : List FilterExpr} :
    readParquet C disk path columns filters = .error .panicked ↔
      ∃ groups, survivingRowGroups C file filters = .ok groups ∧
        DottedReached C filters ((file.locatedRows groups).map (·.row)) := by
  have hfile : liftParquet (disk.openFile path) = .ok file := liftParquet_eq_ok.mpr hopen
  rw [readParquet, hfile, Except.ok_bind]
  cases hgroups : survivingRowGroups C file filters with
  | error e =>
      simp only [reduceCtorEq, false_and, exists_false, iff_false]
      intro h
      cases h
  | ok groups =>
      have hpresent : ∀ f ∈ filters, f.column ∈ file.schema.map Field.name := by
        intro f hf
        obtain ⟨bounds, hbounds⟩ := (survivingRowGroups_eq_ok.mp hgroups).1 f hf
        exact mem_names_of_bounds hbounds
      have hlift : liftParquet (Except.ok groups) = .ok groups := rfl
      rw [hlift, Except.ok_bind, readRowGroups_eq, Except.bind_eq_error, selectRows,
        runRowFilter_panicked_iff hflat (C.batchSizes_sum file groups)
          (C.batchSizes_pos file groups) hpresent]
      simp only [Except.ok.injEq, exists_eq_left', or_iff_left_iff_imp]
      rintro ⟨selected, -, h⟩
      exact absurd h (emitRows_not_panicked columns _)

/-! ## Panics under any schema -/

theorem runPredicate_panics {rows : List (LocatedRow schema)}
    (h : runPredicate (toPredicate C schema filter) rows = .error .panicked) :
    C.projectionMask schema [filter.column] = [] := by
  cases hmask : C.projectionMask schema [filter.column] with
  | nil => rfl
  | cons i rest =>
      have hi : i < schema.length := projectionMask_lt i (hmask ▸ List.mem_cons_self)
      obtain ⟨column, hcolumn, -⟩ :=
        projectedBatch_column (List.getElem?_eq_getElem hi) rest rows
      rw [← hmask] at hcolumn
      rcases Except.bind_eq_error.mp h with h | ⟨flags, -, h⟩
      · exact absurd h (evaluatePredicate_not_panicked hcolumn _ _)
      · split at h <;> cases h

theorem runRowFilter_panics {sizes : Nat → List (Nat × Nat) → List Nat}
    {filters : List FilterExpr} {stage : Nat} {rows : List (LocatedRow schema)}
    (h : runRowFilter sizes stage (buildRowFilter C schema filters) rows = .error .panicked) :
    ∃ filter ∈ filters, C.projectionMask schema [filter.column] = [] := by
  induction filters generalizing stage rows with
  | nil => cases h
  | cons filter filters ih =>
      rw [buildRowFilter_eq, List.map_cons, runRowFilter] at h
      rcases Except.bind_eq_error.mp h with h | ⟨kept, -, h⟩
      · obtain ⟨-, chunk, -, -, -, hchunk⟩ := Except.mapM_eq_error.mp h
        exact ⟨filter, List.mem_cons_self, runPredicate_panics hchunk⟩
      · rw [← buildRowFilter_eq] at h
        obtain ⟨other, hmem, hmask⟩ := ih h
        exact ⟨other, List.mem_cons_of_mem _ hmem, hmask⟩

/-- Whatever the schema, a read only panics for a filter that names a column of the file
and selects none of its leaves, which takes a dot in the name. -/
theorem readParquet_panics {columns : Option (List String)} {filters : List FilterExpr}
    (h : readParquet C disk path columns filters = .error .panicked) :
    ∃ file, disk.openFile path = .ok file ∧ ∃ filter ∈ filters,
      filter.column ∈ file.schema.map Field.name ∧ dotless filter.column = false ∧
        C.projectionMask file.schema [filter.column] = [] := by
  have hlift : ∀ {α : Type} {x : Except ParquetError α}, liftParquet x ≠ .error .panicked := by
    intro α x hx
    cases x <;> cases hx
  rcases Except.bind_eq_error.mp h with h | ⟨file, hopen, h⟩
  · exact absurd h hlift
  rcases Except.bind_eq_error.mp h with h | ⟨groups, hgroups, h⟩
  · exact absurd h hlift
  refine ⟨file, liftParquet_eq_ok.mp hopen, ?_⟩
  rw [readRowGroups_eq] at h
  rcases Except.bind_eq_error.mp h with h | ⟨selected, -, h⟩
  · obtain ⟨filter, hmem, hmask⟩ := runRowFilter_panics h
    obtain ⟨bounds, hbounds⟩ :=
      (survivingRowGroups_eq_ok.mp (liftParquet_eq_ok.mp hgroups)).1 filter hmem
    have hpresent := mem_names_of_bounds hbounds
    refine ⟨filter, hmem, hpresent, ?_, hmask⟩
    by_contra hdot
    have hhead : (C.projectionMask file.schema [filter.column]).head? =
        file.schema.findIdx? fun field => decide (field.name = filter.column) :=
      head?_projectionMask_dotless (Bool.eq_true_of_not_eq_false hdot)
    obtain ⟨field, hfield, hname⟩ := List.mem_map.mp hpresent
    rw [hmask, List.head?_nil, eq_comm, List.findIdx?_eq_none_iff] at hhead
    exact absurd (hhead field hfield) (by simp [hname])
  · exact absurd h (emitRows_not_panicked columns _)

theorem readParquet_names_iff (hopen : disk.openFile path = .ok file)
    (hflat : FlatNames file.schema) {names : List String}
    (hpresent : ∀ name ∈ names, name ∈ file.schema.map Field.name) :
    (∃ batch, readParquet C disk path (some names) [] = .ok batch ∧
        batch.schema.map Field.name = names) ↔ ∀ name ∈ names, dotless name = true := by
  obtain ⟨rows, -, hrows⟩ := readParquet_columns hopen (readParquet_unfiltered (C := C) hopen)
  rw [hrows]
  constructor
  · rintro ⟨result, hresult, -⟩ name hname
    by_contra hdot
    have hmissing := indexOf_projected_dotted (C := C) hflat names (Bool.eq_false_of_not_eq_true hdot)
    obtain ⟨e, he⟩ := emitRows_error hname hmissing rows
    rw [he] at hresult
    cases hresult
  · intro hdot
    exact ⟨_, emitRows_select hflat hpresent hdot rows, RecordBatch.select_names hpresent⟩

/-- The three lookups of a name agree exactly for names without dots: in the batch
of an accepted filter's predicate, in a projection, and in whether a read panics. -/
theorem names_resolve_iff (hopen : disk.openFile path = .ok file)
    (hflat : FlatNames file.schema) :
    (∀ filters groups, survivingRowGroups C file filters = .ok groups →
      ∀ (k : Nat) filter, filters[k]? = some filter →
        ∃ predicate i field, (buildRowFilter C file.schema filters)[k]? = some predicate ∧
          file.schema[i]? = some field ∧ field.name = filter.column ∧
          ∀ rows : List (LocatedRow file.schema),
            (∃ column, (projectedBatch predicate.projection rows).column 0 = some column ∧
              column.dataType = field.dataType ∧ column.slots = rows.map (·.row.slot i)) ↔
              dotless filter.column = true) ∧
    (∀ names, (∀ name ∈ names, name ∈ file.schema.map Field.name) →
      ((∃ batch, readParquet C disk path (some names) [] = .ok batch ∧
          batch.schema.map Field.name = names) ↔ ∀ name ∈ names, dotless name = true)) ∧
    ∀ columns filters, readParquet C disk path columns filters = .error .panicked ↔
      ∃ groups, survivingRowGroups C file filters = .ok groups ∧
        DottedReached C filters ((file.locatedRows groups).map (·.row)) := by
  refine ⟨?_, fun names hpresent => readParquet_names_iff hopen hflat hpresent,
    fun columns filters => readParquet_panicked_iff hopen hflat⟩
  intro filters groups hgroups k filter hk
  obtain ⟨bounds, hbounds⟩ :=
    (survivingRowGroups_eq_ok.mp hgroups).1 filter (List.mem_of_getElem? hk)
  obtain ⟨field, hmem, hname⟩ := List.mem_map.mp (mem_names_of_bounds hbounds)
  obtain ⟨i, hfield⟩ := List.mem_iff_getElem?.mp hmem
  refine ⟨toPredicate C file.schema filter, i, field, ?_, hfield, hname,
    projectedBatch_filter_iff hflat hfield hname⟩
  rw [buildRowFilter_eq, List.getElem?_map, hk]
  rfl

end

/-! ## A column named with a dot -/

def dottedField : Field := ⟨"a.b", .int64, true, false, []⟩

def dottedFile : ParquetFile where
  schema := [dottedField]
  rowGroups := [columnGroup dottedField [some (.int 1)] ⟨some (.int 1), some (.int 1)⟩
    (by decide) (by decide)]

def dottedFilter : FilterExpr := ⟨"a.b", .eq, .int64 1⟩

theorem names_resolve_iff_dottedFile :
    readParquet referenceCrates (oneFile dottedFile) () none [dottedFilter] =
        .error .panicked ↔
      ∃ groups, survivingRowGroups referenceCrates dottedFile [dottedFilter] = .ok groups ∧
        DottedReached referenceCrates [dottedFilter]
          ((dottedFile.locatedRows groups).map (·.row)) := by
  have hopen : (oneFile dottedFile).openFile () = .ok dottedFile := rfl
  have hflat : FlatNames dottedFile.schema := ⟨by decide, by decide⟩
  exact (names_resolve_iff hopen hflat).2.2 none [dottedFilter]

/-- The filter is accepted and panics on its first batch; the projection is
refused. -/
theorem dotted_name_panics :
    FlatNames dottedFile.schema ∧ "a.b" ∈ dottedFile.schema.map Field.name ∧
      survivingRowGroups referenceCrates dottedFile [dottedFilter] = .ok [0] ∧
      readParquet referenceCrates (oneFile dottedFile) () none [dottedFilter] =
        .error .panicked ∧
      readParquet referenceCrates (oneFile dottedFile) () (some ["a.b"]) [] =
        .error (.parquet (.arrowError (.schemaError "a.b"))) := by
  refine ⟨⟨by decide, by decide⟩, by decide, ?_, ?_, ?_⟩
  · decide +kernel
  · rfl
  · rfl

end Pydart
