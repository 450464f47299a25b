import Pydart.Parquet.Multi
import Pydart.Parquet.Typed

/-! # Queries

What a filtered and projected read means: a restriction of the rows followed by a
choice of columns. A typed query never fails, and what is read of one file or of
several is the query evaluated on the rows the files comprise.
-/

namespace Pydart

/-! ## Batches as relations -/

namespace RecordBatch

def restrict (batch : RecordBatch) (keep : List Slot → Bool) : RecordBatch where
  schema := batch.schema
  rows := batch.rows.filter keep
  typed row hrow := batch.typed row (List.mem_of_mem_filter hrow)

/-- The columns asked for, which are all of them where none are named. -/
def narrow (batch : RecordBatch) : Option (List String) → RecordBatch
  | none => batch
  | some names => batch.select names

/-- The rows of the parts one after the other, under the schema of the first, which
the others match. -/
structure Comprises (whole : RecordBatch) (parts : List RecordBatch) : Prop where
  schema : parts.head?.map RecordBatch.schema = some whole.schema
  matching : ∀ part ∈ parts, SchemasMatch whole.schema part.schema
  rows : whole.rows = parts.flatMap (·.rows)

theorem comprises_single (batch : RecordBatch) : batch.Comprises [batch] where
  schema := rfl
  matching := by
    intro part hpart
    rw [List.mem_singleton.mp hpart]
    exact schemasMatch_equivalence.refl _
  rows := by simp

end RecordBatch

/-! ## Evaluation -/

structure Query where
  filters : List FilterExpr
  columns : Option (List String)

namespace Query

variable (query : Query)

def keeps (schema : Schema) (slots : List Slot) : Bool :=
  query.filters.all (·.holds schema slots)

def eval (batch : RecordBatch) : RecordBatch :=
  (batch.restrict (query.keeps batch.schema)).narrow query.columns

/-- The filters suit the columns they name, and the columns asked for are there. -/
structure Typed (K : ArrowKernels) (schema : Schema) : Prop where
  filters : ∀ filter ∈ query.filters, filter.Typed K schema
  columns : ∀ names ∈ query.columns, ∀ name ∈ names,
    dotless name = true ∧ name ∈ schema.map Field.name

/-- What the query shows of the entries of a schema or of a row. -/
def view {α : Type} (schema : Schema) (entries : List α) : List α :=
  match query.columns with
  | none => entries
  | some names => pick entries (requestedIndices schema names)

variable {query}

theorem eval_schema (batch : RecordBatch) :
    (query.eval batch).schema = query.view batch.schema batch.schema := by
  unfold eval RecordBatch.narrow view
  split <;> rfl

theorem eval_rows (batch : RecordBatch) :
    (query.eval batch).rows =
      (batch.rows.filter (query.keeps batch.schema)).map (query.view batch.schema) := by
  unfold eval RecordBatch.narrow view
  split
  · exact (List.map_id _).symm
  · rfl

theorem holds_congr {a b : Schema} (h : SchemasMatch a b) (filter : FilterExpr) :
    filter.holds a = filter.holds b := by
  funext slots
  unfold FilterExpr.holds
  rw [indexOf_congr h]

theorem keeps_congr {a b : Schema} (h : SchemasMatch a b) : query.keeps a = query.keeps b := by
  funext slots
  unfold keeps
  simp only [holds_congr h]

theorem view_congr {α : Type} {a b : Schema} (h : SchemasMatch a b) (entries : List α) :
    query.view a entries = query.view b entries := by
  unfold view requestedIndices
  simp only [indexOf_congr h]

theorem names_congr {a b : Schema} (h : SchemasMatch a b) :
    a.map Field.name = b.map Field.name := by
  induction h with
  | nil => rfl
  | cons hhead _ ih => rw [List.map_cons, List.map_cons, hhead.1, ih]

theorem typed_filter_congr {K : ArrowKernels} {a b : Schema} (h : SchemasMatch a b)
    {filter : FilterExpr} (ht : filter.Typed K a) : filter.Typed K b := by
  obtain ⟨hdot, i, field, hi, hf, hsuits⟩ := ht
  have hlt : i < b.length := h.length_eq ▸ (List.getElem?_eq_some_iff.mp hf).1
  have hfield := forall₂_getElem? h hf (List.getElem?_eq_getElem hlt)
  exact ⟨hdot, i, b[i], indexOf_congr h filter.column ▸ hi, List.getElem?_eq_getElem hlt,
    hfield.2.1 ▸ hsuits⟩

theorem Typed.congr {K : ArrowKernels} {a b : Schema} (h : SchemasMatch a b)
    (ht : query.Typed K a) : query.Typed K b where
  filters filter hfilter := typed_filter_congr h (ht.filters filter hfilter)
  columns names hnames name hname := names_congr h ▸ ht.columns names hnames name hname

/-- A query of the whole is the query of its parts, one after the other. -/
theorem eval_comprises {whole : RecordBatch} {parts : List RecordBatch}
    (h : whole.Comprises parts) :
    (query.eval whole).rows = parts.flatMap fun part => (query.eval part).rows := by
  rw [eval_rows, h.rows, List.filter_flatMap, List.map_flatMap]
  refine List.flatMap_congr fun part hpart => ?_
  have hmatch := h.matching part hpart
  rw [eval_rows, keeps_congr hmatch]
  exact List.map_congr_left fun row _ => view_congr hmatch row

end Query

theorem FlatNames.congr {a b : Schema} (h : SchemasMatch a b) (hflat : FlatNames a) :
    FlatNames b where
  distinct := Query.names_congr h ▸ hflat.distinct
  flat field hfield := by
    obtain ⟨other, hother, hmatch⟩ := forall₂_exists_of_mem h.flip hfield
    rw [← hmatch.2.1]
    exact hflat.flat other hother

/-! ## Queries of queries -/

section

variable {schema : Schema} {names : List String}

theorem requestedIndices_lt : ∀ i ∈ requestedIndices schema names, i < schema.length := by
  intro i hi
  obtain ⟨name, -, hname⟩ := List.mem_filterMap.mp hi
  cases hindex : indexOf schema name with
  | error e =>
      rw [hindex] at hname
      cases hname
  | ok j =>
      rw [hindex] at hname
      cases hname
      obtain ⟨field, hfield, -⟩ := indexOf_lt hindex
      exact (List.getElem?_eq_some_iff.mp hfield).1

theorem indexOf_requested (hdistinct : (schema.map Field.name).Nodup) {name : String} {j : Nat}
    (hj : indexOf (pick schema (requestedIndices schema names)) name = .ok j) :
    ∃ i, (requestedIndices schema names)[j]? = some i ∧ indexOf schema name = .ok i ∧
      (pick schema (requestedIndices schema names))[j]? = schema[i]? := by
  obtain ⟨field, hfield, rfl⟩ := indexOf_lt hj
  have hpicked := hfield
  rw [pick_getElem? requestedIndices_lt] at hpicked
  obtain ⟨i, hi, hschema⟩ := Option.bind_eq_some_iff.mp hpicked
  exact ⟨i, hi, indexOf_of_distinct hdistinct hschema, hfield.trans hschema.symm⟩

theorem FlatNames.requested (hflat : FlatNames schema) (hnodup : names.Nodup)
    (hpresent : ∀ name ∈ names, name ∈ schema.map Field.name) :
    FlatNames (pick schema (requestedIndices schema names)) where
  distinct := by
    have hnames : (pick schema (requestedIndices schema names)).map Field.name = names :=
      @RecordBatch.select_names (RecordBatch.newEmpty schema) names hpresent
    exact hnames.symm ▸ hnodup
  flat field hfield := by
    obtain ⟨i, -, hi⟩ := List.mem_filterMap.mp hfield
    exact hflat.flat field (List.mem_of_getElem? hi)

end

namespace Query

def fuse (inner outer : Query) : Query where
  filters := inner.filters ++ outer.filters
  columns := outer.columns.or inner.columns

def Distinct (query : Query) : Prop := ∀ names ∈ query.columns, names.Nodup

variable {K : ArrowKernels} {inner outer : Query} {schema : Schema}

theorem view_flatNames (hflat : FlatNames schema) (hinner : inner.Typed K schema)
    (hdistinct : inner.Distinct) : FlatNames (inner.view schema schema) := by
  unfold view
  cases hcolumns : inner.columns with
  | none => exact hflat
  | some names =>
      exact hflat.requested (hdistinct names hcolumns) fun name hname =>
        (hinner.columns names hcolumns name hname).2

theorem indexOf_view (hflat : FlatNames schema) {name : String} {j : Nat}
    (hj : indexOf (inner.view schema schema) name = .ok j) :
    ∃ i, indexOf schema name = .ok i ∧ (inner.view schema schema)[j]? = schema[i]? ∧
      ∀ {α : Type} (entries : List α), entries.length = schema.length →
        (inner.view schema entries)[j]? = entries[i]? := by
  unfold view at hj ⊢
  cases hcolumns : inner.columns with
  | none =>
      simp only [hcolumns] at hj
      exact ⟨j, hj, rfl, fun entries _ => rfl⟩
  | some names =>
      simp only [hcolumns] at hj
      obtain ⟨i, hi, hindex, hfield⟩ := indexOf_requested hflat.distinct hj
      refine ⟨i, hindex, hfield, fun entries hlength => ?_⟩
      have hlt : ∀ k ∈ requestedIndices schema names, k < entries.length := by
        rw [hlength]
        exact requestedIndices_lt
      show (pick entries (requestedIndices schema names))[j]? = entries[i]?
      rw [pick_getElem? hlt, hi, Option.bind_some]

theorem typed_filter_view (hflat : FlatNames schema) {filter : FilterExpr}
    (h : filter.Typed K (inner.view schema schema)) : filter.Typed K schema := by
  obtain ⟨hdot, j, field, hj, hfield, hsuits⟩ := h
  obtain ⟨i, hi, hsame, -⟩ := indexOf_view hflat hj
  exact ⟨hdot, i, field, hi, hsame ▸ hfield, hsuits⟩

/-- The fused query suits what both queries suit one after the other. -/
theorem Typed.fuse (hflat : FlatNames schema) (hinner : inner.Typed K schema)
    (houter : outer.Typed K (inner.view schema schema)) : (inner.fuse outer).Typed K schema where
  filters filter hfilter := by
    rcases List.mem_append.mp hfilter with h | h
    · exact hinner.filters filter h
    · exact typed_filter_view hflat (houter.filters filter h)
  columns names hnames name hname := by
    cases hcolumns : outer.columns with
    | none =>
        rw [Query.fuse, hcolumns, Option.none_or] at hnames
        exact hinner.columns names hnames name hname
    | some wanted =>
        rw [Query.fuse, hcolumns, Option.some_or] at hnames
        cases hnames
        obtain ⟨hdot, hpresent⟩ := houter.columns names hcolumns name hname
        obtain ⟨j, hj⟩ := indexOf_of_mem hpresent
        obtain ⟨i, hi, -⟩ := indexOf_view hflat hj
        obtain ⟨field, hfield, hfieldName⟩ := indexOf_lt hi
        exact ⟨hdot, List.mem_map.mpr ⟨field, List.mem_of_getElem? hfield, hfieldName⟩⟩

theorem keeps_view (hflat : FlatNames schema) (houter : outer.Typed K (inner.view schema schema))
    {slots : List Slot} (hlength : slots.length = schema.length) :
    outer.keeps (inner.view schema schema) (inner.view schema slots) =
      outer.keeps schema slots := by
  unfold keeps
  rw [Bool.eq_iff_iff, List.all_eq_true, List.all_eq_true]
  refine forall₂_congr fun filter hfilter => ?_
  obtain ⟨-, j, -, hj, -⟩ := houter.filters filter hfilter
  obtain ⟨i, hi, -, hentries⟩ := indexOf_view hflat hj
  have hslot : (inner.view schema slots).getD j none = slots.getD i none := by
    rw [List.getD_eq_getElem?_getD, List.getD_eq_getElem?_getD, hentries slots hlength]
  simp only [FilterExpr.holds, hj, hi, hslot]

theorem view_view (hflat : FlatNames schema) (houter : outer.Typed K (inner.view schema schema))
    {α : Type} {entries : List α} (hlength : entries.length = schema.length) :
    outer.view (inner.view schema schema) (inner.view schema entries) =
      (inner.fuse outer).view schema entries := by
  cases hcolumns : outer.columns with
  | none => simp only [view, fuse, hcolumns, Option.none_or]
  | some wanted =>
      have hview : outer.view (inner.view schema schema) (inner.view schema entries) =
          wanted.filterMap fun name => (indexOf (inner.view schema schema) name).toOption.bind
            ((inner.view schema entries)[·]?) := by
        simp only [view, hcolumns, pick, requestedIndices, List.filterMap_filterMap]
      have hfused : (inner.fuse outer).view schema entries =
          wanted.filterMap fun name => (indexOf schema name).toOption.bind (entries[·]?) := by
        simp only [view, fuse, hcolumns, Option.some_or, pick, requestedIndices,
          List.filterMap_filterMap]
      rw [hview, hfused]
      refine List.filterMap_congr fun name hname => ?_
      obtain ⟨j, hj⟩ := indexOf_of_mem (houter.columns wanted hcolumns name hname).2
      obtain ⟨i, hi, -, hentries⟩ := indexOf_view hflat hj
      rw [hj, hi]
      exact hentries entries hlength

/-- A query of the result of a query is one query. -/
theorem eval_eval {batch : RecordBatch} (hflat : FlatNames batch.schema)
    (houter : outer.Typed K (inner.eval batch).schema) :
    outer.eval (inner.eval batch) = (inner.fuse outer).eval batch := by
  rw [eval_schema] at houter
  refine RecordBatch.ext_rows ?_ ?_
  · rw [eval_schema, eval_schema, eval_schema]
    exact view_view hflat houter rfl
  · rw [eval_rows, eval_rows, eval_rows, eval_schema, List.filter_map, List.map_map,
      List.filter_filter]
    have hkeep : ∀ slots ∈ batch.rows,
        ((outer.keeps (inner.view batch.schema batch.schema) ∘ inner.view batch.schema) slots &&
          inner.keeps batch.schema slots) = (inner.fuse outer).keeps batch.schema slots := by
      intro slots hslots
      have hlength := (batch.typed slots hslots).length_eq.symm
      rw [Function.comp_apply, keeps_view hflat houter hlength, Bool.and_comm]
      exact List.all_append.symm
    rw [List.filter_congr hkeep]
    refine List.map_congr_left fun slots hslots => ?_
    have hmem := List.mem_of_mem_filter hslots
    exact view_view hflat houter (batch.typed slots hmem).length_eq.symm

end Query

/-! ## Reads -/

/-- The rows of a file, as an unfiltered read returns them. -/
def ParquetFile.contents (file : ParquetFile) : RecordBatch :=
  RecordBatch.ofRows (file.allRows.map (·.row))

theorem locatedRows_rows (file : ParquetFile) (groups : List Nat) :
    (file.locatedRows groups).map (·.row) = (pick file.rowGroups groups).flatMap (·.rows) := by
  have hgroup : ∀ g, (file.groupRows g).map (·.row) =
      (file.rowGroups[g]?).toList.flatMap (·.rows) := by
    intro g
    unfold ParquetFile.groupRows
    cases file.rowGroups[g]? with
    | none => rfl
    | some rowGroup =>
        refine List.ext_getElem? fun i => ?_
        simp [Function.comp_def]
  rw [ParquetFile.locatedRows, List.map_flatMap, funext hgroup, ← List.flatMap_assoc, pick,
    List.filterMap_eq_flatMap_toList]

theorem locatedRows_slots (file : ParquetFile) (groups : List Nat) :
    (file.locatedRows groups).map (·.row.slots) =
      (pick file.rowGroups groups).flatMap fun rowGroup => rowGroup.rows.map Row.slots := by
  have hrows := congrArg (List.map Row.slots) (locatedRows_rows file groups)
  rw [List.map_map, List.map_flatMap] at hrows
  exact hrows

theorem contents_rows (file : ParquetFile) : file.contents.rows =
    file.rowGroups.flatMap fun rowGroup => rowGroup.rows.map Row.slots := by
  calc file.contents.rows
      = file.allRows.map (·.row.slots) := List.map_map
    _ = _ := locatedRows_slots file (List.range file.numRowGroups)
    _ = _ := by
        rw [ParquetFile.numRowGroups, pick_range]

section

variable {C : Crates} {Path : Type} {disk : Disk Path} {query : Query}

/-- A typed query of one file is evaluated on its rows. -/
theorem readParquet_query {path : Path} {file : ParquetFile}
    (hopen : disk.openFile path = .ok file) (hstat : StatisticsBound file)
    (hflat : FlatNames file.schema) (htyped : query.Typed C.toArrowKernels file.schema) :
    readParquet C disk path query.columns query.filters = .ok (query.eval file.contents) := by
  have hread := readParquet_typed hopen hstat htyped.filters
  have hrows : RecordBatch.ofRows ((file.allRows.map (·.row)).filter fun row =>
      query.filters.all (·.holds file.schema row.slots)) =
        file.contents.restrict (query.keeps file.schema) := by
    refine RecordBatch.ext_rows rfl ?_
    exact (List.filter_map (p := query.keeps file.schema) (f := Row.slots)).symm
  cases hcolumns : query.columns with
  | none =>
      rw [hread, hrows]
      simp only [Query.eval, hcolumns, RecordBatch.narrow]
      rfl
  | some names =>
      obtain ⟨rows, hbatch, hemit⟩ := readParquet_columns hopen hread
      have hnames := htyped.columns names hcolumns
      rw [hemit, emitRows_select hflat (fun name hname => (hnames name hname).2)
        (fun name hname => (hnames name hname).1), ← hbatch, hrows]
      simp only [Query.eval, hcolumns, RecordBatch.narrow]
      rfl

theorem readsAs_query {path : Path} {file : ParquetFile} {whole : RecordBatch}
    (hopen : disk.openFile path = .ok file) (hstat : StatisticsBound file)
    (hmatch : SchemasMatch whole.schema file.schema) (hflat : FlatNames whole.schema)
    (htyped : query.Typed C.toArrowKernels whole.schema) :
    ReadsAs C disk query.columns query.filters whole.schema path (query.eval file.contents) :=
  ⟨⟨_, readRawSchema_eq_ok.mpr ⟨file, hopen, rfl⟩, hmatch⟩,
    readParquet_query hopen hstat (hflat.congr hmatch) (htyped.congr hmatch)⟩

/-- A typed query of several matching files is evaluated on the rows they comprise. -/
theorem readParquetMulti_query {paths : List Path} {files : List ParquetFile}
    (hfiles : List.Forall₂
      (fun path file => disk.openFile path = .ok file ∧ StatisticsBound file) paths files)
    {whole : RecordBatch} (hwhole : whole.Comprises (files.map ParquetFile.contents))
    (hflat : FlatNames whole.schema) (htyped : query.Typed C.toArrowKernels whole.schema) :
    readParquetMulti C disk paths query.columns query.filters = .ok (query.eval whole) := by
  have hmatch : ∀ file ∈ files, SchemasMatch whole.schema file.schema :=
    fun file hfile => hwhole.matching _ (List.mem_map_of_mem hfile)
  have hall : List.Forall₂ (ReadsAs C disk query.columns query.filters whole.schema) paths
      (files.map fun file => query.eval file.contents) := by
    rw [List.forall₂_map_right_iff]
    refine List.Forall₂.flip (((List.forall₂_and_left files paths).mpr ⟨hmatch, hfiles.flip⟩).imp ?_)
    rintro file path ⟨hmatches, hopen, hstat⟩
    exact readsAs_query hopen hstat hmatches hflat htyped
  cases hfiles with
  | nil => cases hwhole.schema
  | cons hhead hrest =>
      rename_i first file rest files
      have hcontents : file.contents.schema = whole.schema := by
        simpa using hwhole.schema
      refine readParquetMulti_eq_ok.mpr ⟨whole.schema, _, ?_, hall, ?_, ?_⟩
      · exact readRawSchema_eq_ok.mpr ⟨file, hhead.1, hcontents⟩
      · rw [List.map_cons, List.head?_cons, Option.map_some, Query.eval_schema, Query.eval_schema,
          hcontents]
      · rw [Query.eval_comprises hwhole, List.flatMap_map, List.flatMap_map]

/-- Where each file that opens holds its part, the query of the whole is answered, or the
first file that does not open is reported. -/
theorem readParquetMulti_parts {paths : List Path} {parts : List RecordBatch}
    (hparts : List.Forall₂ (fun path part => ∀ file, disk.openFile path = .ok file →
      file.contents = part ∧ StatisticsBound file) paths parts)
    {whole : RecordBatch} (hwhole : whole.Comprises parts) (hflat : FlatNames whole.schema)
    (htyped : query.Typed C.toArrowKernels whole.schema) :
    ((∀ path ∈ paths, ∃ file, disk.openFile path = .ok file) ∧
        readParquetMulti C disk paths query.columns query.filters = .ok (query.eval whole)) ∨
      ∃ before path after source, paths = before ++ path :: after ∧
        (∀ p ∈ before, ∃ file, disk.openFile p = .ok file) ∧
        disk.openFile path = .error source ∧
        readParquetMulti C disk paths query.columns query.filters =
          .error (.error (.read (disk.display path) source)) := by
  cases hopens : paths.mapM disk.openFile with
  | ok files =>
      have hfiles := Except.mapM_eq_ok.mp hopens
      have hall : List.Forall₂ (fun path file =>
          disk.openFile path = .ok file ∧ StatisticsBound file) paths files ∧
            files.map ParquetFile.contents = parts := by
        clear hwhole hopens
        induction hparts generalizing files with
        | nil =>
            cases hfiles
            exact ⟨List.Forall₂.nil, rfl⟩
        | cons hhead _ ih =>
            cases hfiles with
            | cons hopen hrest =>
                obtain ⟨hcontents, hstat⟩ := hhead _ hopen
                obtain ⟨hfiles, hmap⟩ := ih _ hrest
                exact ⟨List.Forall₂.cons ⟨hopen, hstat⟩ hfiles,
                  by rw [List.map_cons, hcontents, hmap]⟩
      refine Or.inl ⟨fun path hpath => ?_,
        readParquetMulti_query hall.1 (hall.2 ▸ hwhole) hflat htyped⟩
      obtain ⟨file, -, hopen⟩ := forall₂_exists_of_mem hfiles hpath
      exact ⟨file, hopen⟩
  | error source =>
      obtain ⟨before, path, after, hsplit, hbefore, hfails⟩ := Except.mapM_eq_error.mp hopens
      have hraw : readRawSchema disk path = .error source := by
        rw [readRawSchema, hfails]
        rfl
      refine Or.inr ⟨before, path, after, source, hsplit, hbefore, hfails, ?_⟩
      cases before with
      | nil =>
          rw [hsplit]
          exact readParquetMulti_eq_error.mpr (Or.inl ⟨source, hraw, rfl⟩)
      | cons first before =>
          have hreads : ∀ p ∈ first :: before, ∃ batch,
              ReadsAs C disk query.columns query.filters whole.schema p batch := by
            intro p hp
            obtain ⟨file, hopen⟩ := hbefore p hp
            obtain ⟨part, hpart, hholds⟩ :=
              forall₂_exists_of_mem hparts (hsplit ▸ List.mem_append_left _ hp)
            obtain ⟨hcontents, hstat⟩ := hholds file hopen
            have hmatch : SchemasMatch whole.schema file.contents.schema :=
              hcontents ▸ hwhole.matching part hpart
            exact ⟨_, readsAs_query hopen hstat hmatch hflat htyped⟩
          have hschema : readRawSchema disk first = .ok whole.schema := by
            obtain ⟨file, hopen⟩ := hbefore first List.mem_cons_self
            rw [hsplit] at hparts
            cases hparts with
            | cons hhead _ =>
                have hfirst := hwhole.schema
                rw [List.head?_cons, Option.map_some, ← (hhead file hopen).1] at hfirst
                exact readRawSchema_eq_ok.mpr ⟨file, hopen, Option.some.inj hfirst⟩
          rw [hsplit]
          exact readParquetMulti_eq_error.mpr (Or.inr ⟨whole.schema, hschema, first :: before, path,
            after, rfl, hreads, Or.inl ⟨source, hraw, rfl⟩⟩)

end
end Pydart
