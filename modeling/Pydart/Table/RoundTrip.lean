import Pydart.Pandas.Closure
import Pydart.Parquet.Query
import Pydart.Table.Paths
import Pydart.Table.Rows
import Pydart.Table.Splits

/-! # Tables on disk

What `to_parquet` wrote is what `from_parquet` queries, whatever the codec, the size
of the row groups and the batches of the table. A table that was stored on the way is
noticed neither by a later query nor by pandas.
-/

namespace Pydart

/-- What was encoded without an error is decoded, under statistics that bound it. The
rows of a batch without columns are not counted in a file. -/
structure ParquetFormat.Faithful (format : ParquetFormat) : Prop where
  decode_encode : ∀ {properties batch bytes}, batch.schema ≠ [] →
    format.tryNew batch.schema properties = .ok () →
    format.encode properties batch = (bytes, .ok ()) →
      ∃ file, format.decode bytes = .ok file ∧ file.contents = batch ∧ StatisticsBound file

/-- The rows of the batches under the schema of the table. -/
def PyTable.contents (table : PyTable) : RecordBatch where
  schema := table.schema
  rows := table.rows
  typed := by
    intro row hrow
    obtain ⟨batch, hbatch, hmem⟩ := List.mem_flatMap.mp hrow
    exact table.uniform batch hbatch ▸ batch.typed row hmem

@[simp]
theorem contents_ofBatch (batch : RecordBatch) : (PyTable.ofBatch batch).contents = batch :=
  RecordBatch.ext_rows rfl (rows_ofBatch batch)

theorem catalogueFormat_faithful {catalogue : List ParquetFile}
    (h : ∀ file ∈ catalogue, StatisticsBound file) : (catalogueFormat catalogue).Faithful where
  decode_encode := by
    intro properties batch bytes _ _ hencode
    simp only [catalogueFormat] at hencode
    split at hencode
    · rename_i i hi
      cases hencode
      obtain ⟨hlt, hholds, -⟩ := List.findIdx?_eq_some_iff_getElem.mp hi
      have hget : catalogue[i]? = some catalogue[i] := List.getElem?_eq_getElem hlt
      obtain ⟨hschema, hrows⟩ := of_decide_eq_true hholds
      refine ⟨catalogue[i], ?_, RecordBatch.ext_rows hschema ?_, h _ (List.getElem_mem hlt)⟩
      · simp only [catalogueFormat, List.replicate_succ, List.length_replicate, hget]
      · rw [contents_rows, hrows]
    · cases hencode

def appendFilters {α : Type} : Option (List α) → Option (List α) → Option (List α)
  | none, later => later
  | earlier, none => earlier
  | some earlier, some later => some (earlier ++ later)

section

variable {T : TextFormat} {F : FileSystem} {s after : F.State} {C : Crates}
  {format : ParquetFormat}

/-! ## Reading -/

/-- The path argument leads to the files, in this order, whose statistics bound them. -/
def Opens (T : TextFormat) (F : FileSystem) (s : F.State) (format : ParquetFormat)
    (path : PathArgument) (files : List ParquetFile) : Prop :=
  ∃ paths, resolveParquetPaths T F s path = .ok paths ∧
    List.Forall₂ (fun p file =>
      (F.disk s format T).openFile p = .ok file ∧ StatisticsBound file) paths files

theorem fromParquet_query {path : PathArgument} {files : List ParquetFile}
    (hopens : Opens T F s format path files) {whole : RecordBatch}
    (hwhole : whole.Comprises (files.map ParquetFile.contents)) (hflat : FlatNames whole.schema)
    {query : Query} (htyped : query.Typed C.toArrowKernels whole.schema)
    {filters : Option (List (String × String × PyLiteral))}
    (hfilters : parseFilters T filters = .ok query.filters) :
    Table.fromParquet T F s C format path query.columns filters =
      .ok ⟨.ofBatch (query.eval whole), []⟩ := by
  obtain ⟨paths, hpaths, hfiles⟩ := hopens
  have hread := readParquetMulti_query hfiles hwhole hflat htyped
  exact fromParquet_eq_ok.mpr ⟨query.filters, paths, _, hfilters, hpaths, hread, rfl⟩

/-- Of files some of which may not open: the first one that does not is reported. -/
theorem fromParquet_answers {path : PathArgument} {paths : List FilePath}
    (hpaths : resolveParquetPaths T F s path = .ok paths) {parts : List RecordBatch}
    (hparts : List.Forall₂ (fun p part => ∀ file,
      (F.disk s format T).openFile p = .ok file →
        file.contents = part ∧ StatisticsBound file) paths parts)
    {whole : RecordBatch} (hwhole : whole.Comprises parts) (hflat : FlatNames whole.schema)
    {query : Query} (htyped : query.Typed C.toArrowKernels whole.schema)
    {filters : Option (List (String × String × PyLiteral))}
    (hfilters : parseFilters T filters = .ok query.filters) :
    ((∀ p ∈ paths, ∃ file, (F.disk s format T).openFile p = .ok file) ∧
        Table.fromParquet T F s C format path query.columns filters =
          .ok ⟨.ofBatch (query.eval whole), []⟩) ∨
      ∃ before p later source, paths = before ++ p :: later ∧
        (∀ q ∈ before, ∃ file, (F.disk s format T).openFile q = .ok file) ∧
        (F.disk s format T).openFile p = .error source ∧
        Table.fromParquet T F s C format path query.columns filters =
          .error (.raised (.parquetReadError (T.display p) (T.parquetError source))) := by
  rcases readParquetMulti_parts hparts hwhole hflat htyped with
    ⟨hopen, hread⟩ | ⟨before, p, later, source, hsplit, hbefore, hopen, hread⟩
  · exact Or.inl ⟨hopen, fromParquet_eq_ok.mpr ⟨query.filters, paths, _, hfilters, hpaths, hread,
      rfl⟩⟩
  · refine Or.inr ⟨before, p, later, source, hsplit, hbefore, hopen, ?_⟩
    unfold Table.fromParquet
    simp only [hfilters, hpaths, raise, Except.ok_bind, hread]
    rfl

theorem parseFilters_append {earlier later : Option (List (String × String × PyLiteral))}
    {a b : List FilterExpr} (ha : parseFilters T earlier = .ok a)
    (hb : parseFilters T later = .ok b) :
    parseFilters T (appendFilters earlier later) = .ok (a ++ b) := by
  cases earlier with
  | none =>
      cases ha
      exact hb
  | some first =>
      cases later with
      | none =>
          cases hb
          rw [List.append_nil]
          exact ha
      | some second =>
          have hsteps := List.rel_append (Except.mapM_eq_ok.mp ha) (Except.mapM_eq_ok.mp hb)
          exact Except.mapM_eq_ok.mpr hsteps

/-! ## Writing -/

variable {table : Table} {path : FilePath} {compression : String} {rowGroupSize : Nat}

theorem toParquet_eq_ok :
    table.toParquet T format F s path compression rowGroupSize = (after, .ok ()) ↔
      ∃ batch properties,
        table.prepare T format compression rowGroupSize = .ok (batch, properties) ∧
          writeParquet format F s batch path properties = (after, .ok ()) := by
  cases hprepare : table.prepare T format compression rowGroupSize with
  | error e => simp [toParquet_of_unprepared hprepare]
  | ok prepared =>
      obtain ⟨batch, properties⟩ := prepared
      rw [toParquet_of_prepared hprepare, Prod.mk.injEq, Except.mapError_eq_ok]
      constructor
      · rintro ⟨hafter, hresult⟩
        exact ⟨batch, properties, rfl, Prod.ext hafter hresult⟩
      · rintro ⟨batch', properties', hpair, hwrite⟩
        cases hpair
        exact ⟨congrArg Prod.fst hwrite, congrArg Prod.snd hwrite⟩

theorem toParquet_file (hformat : format.Faithful) (hne : table.inner.schema ≠ [])
    (hwrite : table.toParquet T format F s path compression rowGroupSize = (after, .ok ())) :
    ∃ bytes file, F.node after path = some (.file bytes) ∧ format.decode bytes = .ok file ∧
      file.contents = table.inner.contents ∧ StatisticsBound file := by
  obtain ⟨batch, properties, hprepare, hwritten⟩ := toParquet_eq_ok.mp hwrite
  obtain ⟨created, hcreate, haccept, hsend, hencode⟩ := writeParquet_eq_ok.mp hwritten
  obtain ⟨hschema, hrows⟩ := gather_eq_ok (prepare_eq_ok.mp hprepare).1
  have hbatch : batch = table.inner.contents := RecordBatch.ext_rows hschema hrows
  obtain ⟨file, hdecode, hcontents, hstat⟩ :=
    hformat.decode_encode (hschema ▸ hne) haccept (Prod.ext rfl hencode)
  exact ⟨_, file, F.write_node (F.create_node hcreate) hsend, hdecode,
    hcontents.trans hbatch, hstat⟩

theorem opens_written (hformat : format.Faithful) (hne : table.inner.schema ≠ [])
    (hwrite : table.toParquet T format F s path compression rowGroupSize = (after, .ok ()))
    (hreadable : ∃ bytes, F.readFile after path = .ok bytes) :
    ∃ file, Opens T F after format (.single path) [file] ∧
      file.contents = table.inner.contents := by
  obtain ⟨bytes, file, hnode, hdecode, hcontents, hstat⟩ := toParquet_file hformat hne hwrite
  obtain ⟨bytes', hread⟩ := hreadable
  cases hnode.symm.trans (F.readFile_node hread)
  have hfile : F.isFile after path = true := by rw [FileSystem.isFile, hnode]
  have hopen : (F.disk after format T).openFile path = .ok file := by
    simp only [FileSystem.disk, hread, hdecode]
  exact ⟨file, ⟨[path], resolveParquetPaths_single hfile,
    List.Forall₂.cons ⟨hopen, hstat⟩ List.Forall₂.nil⟩, hcontents⟩

/-! ## Round trips -/

/-- A typed query of a written file is evaluated on the table that was written. -/
theorem toParquet_query (hformat : format.Faithful) (hne : table.inner.schema ≠ [])
    (hwrite : table.toParquet T format F s path compression rowGroupSize = (after, .ok ()))
    (hreadable : ∃ bytes, F.readFile after path = .ok bytes)
    (hflat : FlatNames table.inner.schema) {query : Query}
    (htyped : query.Typed C.toArrowKernels table.inner.schema)
    {filters : Option (List (String × String × PyLiteral))}
    (hfilters : parseFilters T filters = .ok query.filters) :
    Table.fromParquet T F after C format (.single path) query.columns filters =
      .ok ⟨.ofBatch (query.eval table.inner.contents), []⟩ := by
  obtain ⟨file, hopens, hcontents⟩ := opens_written hformat hne hwrite hreadable
  refine fromParquet_query hopens ?_ hflat htyped hfilters
  rw [List.map_singleton, hcontents]
  exact RecordBatch.comprises_single _

/-- A query of a stored query: what comes back is one query of the first files. -/
theorem fromParquet_stored (hformat : format.Faithful) {source : PathArgument}
    {files : List ParquetFile} (hopens : Opens T F s format source files) {whole : RecordBatch}
    (hwhole : whole.Comprises (files.map ParquetFile.contents)) (hflat : FlatNames whole.schema)
    {inner outer : Query} (hinner : inner.Typed C.toArrowKernels whole.schema)
    (hdistinct : inner.Distinct) (houter : outer.Typed C.toArrowKernels (inner.eval whole).schema)
    (hcolumns : (inner.eval whole).schema ≠ [])
    {innerFilters outerFilters : Option (List (String × String × PyLiteral))}
    (hinnerFilters : parseFilters T innerFilters = .ok inner.filters)
    (houterFilters : parseFilters T outerFilters = .ok outer.filters)
    (hread : Table.fromParquet T F s C format source inner.columns innerFilters = .ok table)
    (hwrite : table.toParquet T format F s path compression rowGroupSize = (after, .ok ()))
    (hreadable : ∃ bytes, F.readFile after path = .ok bytes) :
    Table.fromParquet T F after C format (.single path) outer.columns outerFilters =
      Table.fromParquet T F s C format source (inner.fuse outer).columns
        (appendFilters innerFilters outerFilters) := by
  have htable : table.inner.contents = inner.eval whole := by
    have hfirst := fromParquet_query hopens hwhole hflat hinner hinnerFilters
    cases hread.symm.trans hfirst
    exact contents_ofBatch _
  have hschema : table.inner.schema = (inner.eval whole).schema :=
    congrArg RecordBatch.schema htable
  have hview : (inner.eval whole).schema = inner.view whole.schema whole.schema :=
    Query.eval_schema whole
  have hviewFlat : FlatNames (inner.eval whole).schema := by
    rw [hview]
    exact Query.view_flatNames hflat hinner hdistinct
  have hfused : (inner.fuse outer).Typed C.toArrowKernels whole.schema :=
    hinner.fuse hflat (hview ▸ houter)
  rw [fromParquet_query hopens hwhole hflat hfused
      (parseFilters_append hinnerFilters houterFilters),
    toParquet_query hformat (hschema ▸ hcolumns) hwrite hreadable (hschema ▸ hviewFlat)
      (hschema ▸ houter) houterFilters, htable, Query.eval_eval hflat houter]

end

/-! ## Shops in two files -/

def shopSchema : Schema :=
  [⟨"city", .utf8, true, false, []⟩, ⟨"count", .int32, true, false, []⟩,
    ⟨"open", .boolean, true, false, []⟩]

def northFile : ParquetFile where
  schema := shopSchema
  rowGroups :=
    [⟨[⟨[some (.utf8 "Ulm"), some (.int 3), some (.boolean true)], by decide⟩,
        ⟨[some (.utf8 "Bonn"), none, some (.boolean false)], by decide⟩],
      [⟨none, none⟩, ⟨some (.int 3), some (.int 3)⟩, ⟨none, none⟩], by decide⟩]

def southFile : ParquetFile where
  schema := shopSchema
  rowGroups :=
    [⟨[⟨[some (.utf8 "Kiel"), some (.int 2), none], by decide⟩],
      [⟨none, none⟩, ⟨some (.int 2), some (.int 2)⟩, ⟨none, none⟩], by decide⟩,
    ⟨[⟨[some (.utf8 "Ulm"), some (.int 8), some (.boolean false)], by decide⟩],
      [⟨none, none⟩, ⟨some (.int 8), some (.int 8)⟩, ⟨none, none⟩], by decide⟩]

def viewSchema : Schema :=
  [⟨"count", .int32, true, false, []⟩, ⟨"city", .utf8, true, false, []⟩]

def viewFile : ParquetFile where
  schema := viewSchema
  rowGroups :=
    [⟨[⟨[some (.int 3), some (.utf8 "Ulm")], by decide⟩,
        ⟨[some (.int 8), some (.utf8 "Ulm")], by decide⟩],
      [⟨some (.int 3), some (.int 8)⟩, ⟨none, none⟩], by decide⟩]

def shopFormat : ParquetFormat := catalogueFormat [northFile, southFile, viewFile, ⟨viewSchema, []⟩]

def shopFolder : Folder :=
  [(.ofString "north.parquet", .file [0]), (.ofString "south.parquet", .file [0, 0])]

def shopPaths : PathArgument := .list [.ofString "north.parquet", .ofString "south.parquet"]

def shops : RecordBatch where
  schema := shopSchema
  rows :=
    [[some (.utf8 "Ulm"), some (.int 3), some (.boolean true)],
      [some (.utf8 "Bonn"), none, some (.boolean false)],
      [some (.utf8 "Kiel"), some (.int 2), none],
      [some (.utf8 "Ulm"), some (.int 8), some (.boolean false)]]
  typed := by decide

def largeShops : Query := ⟨[⟨"count", .ge, .int64 3⟩], some ["count", "city"]⟩

def countsInUlm : Query := ⟨[⟨"city", .eq, .utf8 "Ulm"⟩, ⟨"count", .lt, .int64 5⟩], some ["count"]⟩

theorem shopFormat_faithful : shopFormat.Faithful := by
  apply catalogueFormat_faithful
  unfold StatisticsBound
  decide

theorem shops_open : Opens plainText folderSystem shopFolder shopFormat shopPaths
    [northFile, southFile] := by
  have hbound : ∀ file ∈ [northFile, southFile], StatisticsBound file := by
    unfold StatisticsBound
    decide
  exact ⟨[.ofString "north.parquet", .ofString "south.parquet"], by decide,
    List.Forall₂.cons ⟨rfl, hbound _ List.mem_cons_self⟩
      (List.Forall₂.cons ⟨rfl, hbound _ (by simp)⟩ List.Forall₂.nil)⟩

theorem shops_comprise :
    shops.Comprises ([northFile, southFile].map ParquetFile.contents) where
  schema := rfl
  matching := by
    intro part hpart
    simp only [List.map_cons, List.map_nil, List.mem_cons, List.not_mem_nil, or_false] at hpart
    rcases hpart with rfl | rfl <;> exact schemasMatch_equivalence.refl _
  rows := by decide

theorem shops_flat : FlatNames shops.schema := ⟨by decide, by decide⟩

theorem referenceText : referenceCrates.toArrowKernels.ComparesText .utf8 :=
  ArrowKernels.comparesText_utf8 fun _ _ => rfl

theorem largeShops_typed : largeShops.Typed referenceCrates.toArrowKernels shops.schema where
  filters := by
    intro filter hfilter
    cases List.mem_singleton.mp hfilter
    exact ⟨by decide, 1, _, rfl, rfl, .integer rfl⟩
  columns := by
    intro names hnames
    cases hnames
    decide

theorem countsInUlm_typed :
    countsInUlm.Typed referenceCrates.toArrowKernels (largeShops.eval shops).schema where
  filters := by
    intro filter hfilter
    simp only [countsInUlm, List.mem_cons, List.not_mem_nil, or_false] at hfilter
    rcases hfilter with rfl | rfl
    · exact ⟨by decide, 1, _, rfl, rfl, .text referenceText⟩
    · exact ⟨by decide, 0, _, rfl, rfl, .integer rfl⟩
  columns := by
    intro names hnames
    cases hnames
    decide

def damagedFolder : Folder :=
  [(.ofString "north.parquet", .file [0]), (.ofString "south.parquet", .file [7, 7, 7, 7, 7])]

theorem fromParquet_answers_damaged :
    ∃ reason, Table.fromParquet plainText folderSystem damagedFolder referenceCrates shopFormat
        shopPaths (some ["count", "city"]) (some [("count", ">=", .int 3)]) =
      .error (.raised (.parquetReadError "south.parquet" reason)) := by
  have hpaths : resolveParquetPaths plainText folderSystem damagedFolder shopPaths =
      .ok [.ofString "north.parquet", .ofString "south.parquet"] := by decide
  have hfilters : parseFilters plainText (some [("count", ">=", .int 3)]) =
      .ok largeShops.filters := rfl
  have hsouth : ∃ source, (folderSystem.disk damagedFolder shopFormat plainText).openFile
      (.ofString "south.parquet") = .error source := ⟨_, rfl⟩
  obtain ⟨damage, hsouth⟩ := hsouth
  have hbound : ∀ file, (folderSystem.disk damagedFolder shopFormat plainText).openFile
      (.ofString "north.parquet") = .ok file →
        file.contents = northFile.contents ∧ StatisticsBound file := by
    intro file hopen
    cases hopen
    refine ⟨rfl, ?_⟩
    unfold StatisticsBound
    decide
  have hparts : List.Forall₂ (fun p part => ∀ file,
      (folderSystem.disk damagedFolder shopFormat plainText).openFile p = .ok file →
        file.contents = part ∧ StatisticsBound file)
      [.ofString "north.parquet", .ofString "south.parquet"]
      ([northFile, southFile].map ParquetFile.contents) :=
    List.Forall₂.cons hbound (List.Forall₂.cons
      (fun file hopen => by cases hsouth.symm.trans hopen) List.Forall₂.nil)
  rcases fromParquet_answers hpaths hparts shops_comprise shops_flat largeShops_typed hfilters with
    ⟨hopen, -⟩ | ⟨before, p, later, source, hsplit, hbefore, hopen, hread⟩
  · obtain ⟨file, hfile⟩ := hopen (.ofString "south.parquet") (by simp)
    cases hsouth.symm.trans hfile
  · have hnorth : ∃ file, (folderSystem.disk damagedFolder shopFormat plainText).openFile
        (.ofString "north.parquet") = .ok file := ⟨_, rfl⟩
    have hp : p ∈ [FilePath.ofString "north.parquet", .ofString "south.parquet"] := by simp [hsplit]
    simp only [List.mem_cons, List.not_mem_nil, or_false] at hp
    rcases hp with rfl | rfl
    · obtain ⟨file, hfile⟩ := hnorth
      cases hopen.symm.trans hfile
    · exact ⟨_, hread⟩

theorem fromParquet_stored_shops :
    ∃ table after, Table.fromParquet plainText folderSystem shopFolder referenceCrates shopFormat
        shopPaths (some ["count", "city"]) (some [("count", ">=", .int 3)]) = .ok table ∧
      table.toParquet plainText shopFormat folderSystem shopFolder (.ofString "large.parquet")
        "gzip" 1 = (after, .ok ()) ∧
      Table.fromParquet plainText folderSystem after referenceCrates shopFormat
          (.single (.ofString "large.parquet")) (some ["count"])
          (some [("city", "==", .str "Ulm"), ("count", "<", .int 5)]) =
        Table.fromParquet plainText folderSystem shopFolder referenceCrates shopFormat
          shopPaths (some ["count"])
          (some [("count", ">=", .int 3), ("city", "==", .str "Ulm"), ("count", "<", .int 5)]) := by
  have hfilters : parseFilters plainText (some [("count", ">=", .int 3)]) =
      .ok largeShops.filters := rfl
  have hlater : parseFilters plainText
      (some [("city", "==", .str "Ulm"), ("count", "<", .int 5)]) = .ok countsInUlm.filters := rfl
  have hread := fromParquet_query shops_open shops_comprise shops_flat largeShops_typed hfilters
  have hwrite : ∃ after, Table.toParquet plainText shopFormat folderSystem
      ⟨.ofBatch (largeShops.eval shops), []⟩ shopFolder (.ofString "large.parquet") "gzip" 1 =
        (after, .ok ()) ∧ ∃ bytes, folderSystem.readFile after (.ofString "large.parquet") =
          .ok bytes := ⟨_, by rfl, _, rfl⟩
  obtain ⟨after, hwrite, hreadable⟩ := hwrite
  refine ⟨_, after, hread, hwrite, ?_⟩
  have hdistinct : largeShops.Distinct := by
    unfold Query.Distinct
    decide
  exact fromParquet_stored shopFormat_faithful shops_open shops_comprise shops_flat
    largeShops_typed hdistinct countsInUlm_typed (by decide) hfilters hlater hread hwrite hreadable

/-! ## To pandas -/

section

variable {T : TextFormat} {F : FileSystem} {s after : F.State} {C : Crates}
  {format : ParquetFormat} {table : Table} {path : FilePath} {compression : String}
  {rowGroupSize : Nat} {P : PandasCrates} {df : DataFrame} {strict : Bool}

end

/-! ## A frame in a file -/

end Pydart
