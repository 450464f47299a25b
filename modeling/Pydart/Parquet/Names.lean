import Mathlib.Data.List.Nodup
import Pydart.Parquet.Integers

/-! # Names in a flat schema

One name is looked up in three ways: cut at its dots by the projection mask, taken
whole by the statistics and by `index_of`. Over a flat schema with distinct names
the mask finds the column of a name exactly when there is no dot in it.
-/

namespace Pydart

/-! ## Positions -/

theorem pick_getElem? {α : Type} {entries : List α} {mask : List Nat}
    (hmask : ∀ i ∈ mask, i < entries.length) (j : Nat) :
    (pick entries mask)[j]? = (mask[j]?).bind (entries[·]?) := by
  induction mask generalizing j with
  | nil => rfl
  | cons i mask ih =>
      obtain ⟨a, hi⟩ : ∃ a, entries[i]? = some a :=
        ⟨_, List.getElem?_eq_getElem (hmask i List.mem_cons_self)⟩
      rw [pick_cons_of_lt hi]
      cases j with
      | zero => simp [hi]
      | succ j => exact ih (fun k hk => hmask k (List.mem_cons_of_mem _ hk)) j

theorem pick_pick {α : Type} {entries : List α} {mask : List Nat}
    (hmask : ∀ i ∈ mask, i < entries.length) (indices : List Nat) :
    pick (pick entries mask) indices = pick entries (pick mask indices) := by
  rw [pick, funext (pick_getElem? hmask), pick, pick, List.filterMap_filterMap]

/-! ## Flat schemas -/

structure FlatNames (schema : Schema) : Prop where
  distinct : (schema.map Field.name).Nodup
  flat : ∀ field ∈ schema, field.dataType.isNested = false

theorem FlatSchema.toFlatNames {schema : Schema} (h : FlatSchema schema) : FlatNames schema :=
  ⟨h.distinct, h.flat⟩

theorem indexOf_of_distinct {schema : Schema} (h : (schema.map Field.name).Nodup) {i : Nat}
    {field : Field} (hfield : schema[i]? = some field) : indexOf schema field.name = .ok i := by
  obtain ⟨hi, hget⟩ := List.getElem?_eq_some_iff.mp hfield
  rw [indexOf_eq_ok, List.findIdx?_eq_some_iff_getElem]
  refine ⟨hi, by simp [hget], fun j hj => ?_⟩
  have hne := List.nodup_iff_getElem?_ne_getElem?.mp h j i hj (by simpa using hi)
  have hj' : j < schema.length := by omega
  simp only [List.getElem?_map, hfield, List.getElem?_eq_getElem hj', Option.map_some, ne_eq,
    Option.some.injEq] at hne
  simpa using hne

/-- A flat column is selected by its own name, unless there is a dot in it. -/
theorem selectsColumn_flat {field : Field} (hflat : field.dataType.isNested = false)
    (names : List String) :
    selectsColumn names field = true ↔ dotless field.name = true ∧ field.name ∈ names := by
  have hsingle : ∀ name, selectsColumn [name] field = true ↔
      dotless name = true ∧ field.name = name := by
    intro name
    cases hdot : dotless name with
    | true =>
        rw [selectsColumn_dotless hdot]
        simp
    | false =>
        simp only [Bool.false_eq_true, false_and, iff_false]
        intro hsel
        rw [isNested_of_selectsColumn hdot hsel] at hflat
        cases hflat
  have hany : selectsColumn names field = names.any fun name => selectsColumn [name] field := by
    simp [selectsColumn]
  rw [hany, List.any_eq_true]
  simp only [hsingle]
  constructor
  · rintro ⟨name, hmem, hdot, rfl⟩
    exact ⟨hdot, hmem⟩
  · rintro ⟨hdot, hmem⟩
    exact ⟨field.name, hmem, hdot, rfl⟩

section

variable {C : Crates} {schema : Schema}

theorem mem_projectionMask (hflat : FlatNames schema) {names : List String} {i : Nat} :
    i ∈ C.projectionMask schema names ↔
      ∃ field, schema[i]? = some field ∧ dotless field.name = true ∧ field.name ∈ names := by
  rw [C.projectionMask_eq, maskedColumns, List.mem_filter, List.mem_range]
  constructor
  · rintro ⟨hi, hany⟩
    obtain ⟨field, hfield, hsel⟩ := Option.any_eq_true _ _ |>.mp hany
    exact ⟨field, hfield,
      (selectsColumn_flat (hflat.flat field (List.mem_of_getElem? hfield)) names).mp hsel⟩
  · rintro ⟨field, hfield, hname⟩
    refine ⟨(List.getElem?_eq_some_iff.mp hfield).1, ?_⟩
    rw [hfield]
    exact (selectsColumn_flat (hflat.flat field (List.mem_of_getElem? hfield)) names).mpr hname

theorem projectionMask_nodup (names : List String) : (C.projectionMask schema names).Nodup := by
  rw [C.projectionMask_eq]
  exact List.nodup_range.filter _

theorem projectionMask_lt {names : List String} :
    ∀ i ∈ C.projectionMask schema names, i < schema.length := by
  intro i hi
  rw [C.projectionMask_eq, maskedColumns, List.mem_filter, List.mem_range] at hi
  exact hi.1

theorem projectionMask_dotted (hflat : FlatNames schema) {name : String}
    (hdot : dotless name = false) : C.projectionMask schema [name] = [] := by
  rw [List.eq_nil_iff_forall_not_mem]
  intro i hi
  obtain ⟨field, -, hfdot, hname⟩ := (mem_projectionMask hflat).mp hi
  rw [List.mem_singleton] at hname
  rw [hname, hdot] at hfdot
  cases hfdot

/-! ## Requested columns -/

theorem projected_distinct (hflat : FlatNames schema) (names : List String) :
    ((pick schema (C.projectionMask schema names)).map Field.name).Nodup := by
  have hnames : (pick schema (C.projectionMask schema names)).map Field.name =
      (C.projectionMask schema names).filterMap fun i => (schema.map Field.name)[i]? := by
    rw [pick, List.map_filterMap]
    simp only [List.getElem?_map]
  rw [hnames]
  refine List.Nodup.filterMap ?_ (projectionMask_nodup names)
  intro i j name hi hj
  obtain ⟨hlt, -⟩ := List.getElem?_eq_some_iff.mp (Option.mem_def.mp hi)
  by_contra hne
  have hget := (Option.mem_def.mp hi).trans (Option.mem_def.mp hj).symm
  obtain ⟨hlt', -⟩ := List.getElem?_eq_some_iff.mp (Option.mem_def.mp hj)
  rcases Nat.lt_or_gt_of_ne hne with hij | hji
  · exact List.nodup_iff_getElem?_ne_getElem?.mp hflat.distinct i j hij hlt' hget
  · exact List.nodup_iff_getElem?_ne_getElem?.mp hflat.distinct j i hji hlt hget.symm

/-- The second lookup finds, among the decoded columns, the column of the first. -/
theorem indexOf_projected (hflat : FlatNames schema) {names : List String} {name : String}
    (hname : name ∈ names) (hdot : dotless name = true) {i : Nat}
    (hi : indexOf schema name = .ok i) :
    ∃ j, indexOf (pick schema (C.projectionMask schema names)) name = .ok j ∧
      (C.projectionMask schema names)[j]? = some i := by
  obtain ⟨field, hfield, rfl⟩ := indexOf_lt hi
  have hmem : i ∈ C.projectionMask schema names :=
    (mem_projectionMask hflat).mpr ⟨field, hfield, hdot, hname⟩
  obtain ⟨j, hj⟩ := List.mem_iff_getElem?.mp hmem
  have hpicked : (pick schema (C.projectionMask schema names))[j]? = some field := by
    rw [pick_getElem? projectionMask_lt, hj]
    exact hfield
  exact ⟨j, indexOf_of_distinct (projected_distinct hflat names) hpicked, hj⟩

theorem indexOf_projected_dotted (hflat : FlatNames schema) (names : List String) {name : String}
    (hdot : dotless name = false) :
    ∃ e, indexOf (pick schema (C.projectionMask schema names)) name = .error e := by
  cases h : indexOf (pick schema (C.projectionMask schema names)) name with
  | error e => exact ⟨e, rfl⟩
  | ok j =>
      obtain ⟨field, hfield, rfl⟩ := indexOf_lt h
      rw [pick_getElem? projectionMask_lt] at hfield
      obtain ⟨i, hi, hfield⟩ := Option.bind_eq_some_iff.mp hfield
      obtain ⟨field', hfield', hdot', -⟩ :=
        (mem_projectionMask hflat).mp (List.mem_of_getElem? hi)
      cases hfield.symm.trans hfield'
      rw [hdot] at hdot'
      cases hdot'

theorem indexOf_projected_absent {names : List String} {name : String}
    (habsent : name ∉ schema.map Field.name) :
    ∃ e, indexOf (pick schema (C.projectionMask schema names)) name = .error e := by
  cases h : indexOf (pick schema (C.projectionMask schema names)) name with
  | error e => exact ⟨e, rfl⟩
  | ok j =>
      obtain ⟨field, hfield, rfl⟩ := indexOf_lt h
      have hmem := List.mem_of_getElem? hfield
      obtain ⟨i, -, hi⟩ := List.mem_filterMap.mp hmem
      exact absurd (List.mem_map_of_mem (List.mem_of_getElem? hi)) habsent

theorem indexOf_of_mem {name : String} (h : name ∈ schema.map Field.name) :
    ∃ i, indexOf schema name = .ok i := by
  obtain ⟨field, hfield, rfl⟩ := List.mem_map.mp h
  cases hindex : schema.findIdx? (fun other => decide (other.name = field.name)) with
  | some i => exact ⟨i, indexOf_eq_ok.mpr hindex⟩
  | none =>
      rw [List.findIdx?_eq_none_iff] at hindex
      simpa using hindex field hfield

end

def RecordBatch.select (batch : RecordBatch) (names : List String) : RecordBatch where
  schema := pick batch.schema (requestedIndices batch.schema names)
  rows := batch.rows.map (pick · (requestedIndices batch.schema names))
  typed := by
    intro slots hslots
    obtain ⟨row, hrow, rfl⟩ := List.mem_map.mp hslots
    exact (batch.typed row hrow).pick _

theorem requestedIndices_cons {schema : Schema} {name : String} {i : Nat}
    (hi : indexOf schema name = .ok i) (names : List String) :
    requestedIndices schema (name :: names) = i :: requestedIndices schema names := by
  rw [requestedIndices, List.filterMap_cons, hi]
  rfl

theorem RecordBatch.select_names {batch : RecordBatch} {names : List String}
    (hpresent : ∀ name ∈ names, name ∈ batch.schema.map Field.name) :
    (batch.select names).schema.map Field.name = names := by
  simp only [RecordBatch.select]
  induction names with
  | nil => rfl
  | cons name names ih =>
      obtain ⟨i, hi⟩ := indexOf_of_mem (hpresent name List.mem_cons_self)
      obtain ⟨field, hfield, hname⟩ := indexOf_lt hi
      rw [requestedIndices_cons hi, pick_cons_of_lt hfield, List.map_cons, hname,
        ih fun other hother => hpresent other (List.mem_cons_of_mem _ hother)]

section

variable {C : Crates} {schema : Schema}

/-- Both lookups of the request, composed: the positions among the decoded columns
stand for the positions in the schema. -/
theorem mapM_indexOf_projected (hflat : FlatNames schema) {names wanted : List String}
    (hsub : ∀ name ∈ wanted, name ∈ names)
    (hpresent : ∀ name ∈ wanted, name ∈ schema.map Field.name)
    (hdot : ∀ name ∈ wanted, dotless name = true) :
    ∃ indices, (wanted.mapM fun name =>
        liftArrow (indexOf (pick schema (C.projectionMask schema names)) name)) = .ok indices ∧
      pick (C.projectionMask schema names) indices = requestedIndices schema wanted ∧
      ∀ j ∈ indices, j < (pick schema (C.projectionMask schema names)).length := by
  induction wanted with
  | nil => exact ⟨[], rfl, rfl, by simp⟩
  | cons name wanted ih =>
      have hmem := List.mem_cons_self (a := name) (l := wanted)
      obtain ⟨i, hi⟩ := indexOf_of_mem (hpresent name hmem)
      obtain ⟨j, hj, hmask⟩ :=
        indexOf_projected (C := C) hflat (hsub name hmem) (hdot name hmem) hi
      obtain ⟨indices, hindices, hpick, hlt⟩ := ih
        (fun other h => hsub other (List.mem_cons_of_mem _ h))
        (fun other h => hpresent other (List.mem_cons_of_mem _ h))
        (fun other h => hdot other (List.mem_cons_of_mem _ h))
      refine ⟨j :: indices, ?_, ?_, ?_⟩
      · rw [List.mapM_cons, hindices, hj]
        rfl
      · rw [pick_cons_of_lt hmask, hpick, requestedIndices_cons hi]
      · intro k hk
        rcases List.mem_cons.mp hk with rfl | hk
        · obtain ⟨field, hfield, -⟩ := indexOf_lt hj
          exact (List.getElem?_eq_some_iff.mp hfield).1
        · exact hlt k hk

theorem RecordBatch.project_eq_ok {batch : RecordBatch} {indices : List Nat}
    (h : ∀ j ∈ indices, j < batch.schema.length) :
    ∃ result, batch.project indices = .ok result ∧ result.schema = pick batch.schema indices ∧
      result.rows = batch.rows.map (pick · indices) := by
  have hall : (indices.all fun j => decide (j < batch.schema.length)) = true := by simpa using h
  rw [project, if_pos hall]
  exact ⟨_, rfl, rfl, rfl⟩

theorem emitRows_select (hflat : FlatNames schema) {names : List String}
    (hpresent : ∀ name ∈ names, name ∈ schema.map Field.name)
    (hdot : ∀ name ∈ names, dotless name = true) (rows : List (Row schema)) :
    emitRows C schema (some names) rows = .ok ((RecordBatch.ofRows rows).select names) := by
  obtain ⟨indices, hindices, hpick, hlt⟩ :=
    mapM_indexOf_projected (C := C) hflat (fun name h => h) hpresent hdot
  have hschema : ∀ {α : Type} (entries : List α), entries.length = schema.length →
      pick (pick entries (C.projectionMask schema names)) indices =
        pick entries (requestedIndices schema names) := by
    intro α entries hlength
    rw [pick_pick (by rw [hlength]; exact projectionMask_lt), hpick]
  obtain ⟨decoded, hdecoded⟩ : ∃ decoded,
      decoded = RecordBatch.ofRows (rows.map (·.pick (C.projectionMask schema names))) := ⟨_, rfl⟩
  have hdschema : decoded.schema = pick schema (C.projectionMask schema names) := by
    rw [hdecoded]
    rfl
  have hdrows : decoded.rows = rows.map fun row => pick row.slots (C.projectionMask schema names) := by
    rw [hdecoded]
    simp [RecordBatch.ofRows, Row.pick, Function.comp_def]
  rw [← hdschema] at hindices hlt
  obtain ⟨result, hresult, hrschema, hrrows⟩ := RecordBatch.project_eq_ok hlt
  have hemit : emitRows C schema (some names) rows = .ok result := by
    have heq : emitRows C schema (some names) rows = reorderColumns (some names) decoded := by
      rw [hdecoded]
      rfl
    rw [heq, reorderColumns, Except.bind_eq_ok]
    exact ⟨indices, hindices, liftArrow_eq_ok.mpr hresult⟩
  rw [hemit]
  refine congrArg Except.ok (RecordBatch.ext_rows ?_ ?_)
  · rw [hrschema, hdschema]
    exact hschema schema rfl
  · rw [hrrows, hdrows]
    simp only [RecordBatch.select, RecordBatch.ofRows, List.map_map]
    refine List.map_congr_left fun row _ => ?_
    exact hschema row.slots row.typed.length_eq.symm

theorem emitRows_error {names : List String} {name : String} (hname : name ∈ names)
    (hmissing : ∃ e, indexOf (pick schema (C.projectionMask schema names)) name = .error e)
    (rows : List (Row schema)) : ∃ e, emitRows C schema (some names) rows = .error (.parquet e) := by
  have hfails : ∃ e, (names.mapM fun other => liftArrow
      (indexOf (pick schema (C.projectionMask schema names)) other)) = .error (.parquet e) := by
    cases hmap : names.mapM fun other => liftArrow
        (indexOf (pick schema (C.projectionMask schema names)) other) with
    | ok indices =>
        obtain ⟨e, he⟩ := hmissing
        obtain ⟨j, -, hj⟩ := forall₂_exists_of_mem (Except.mapM_eq_ok.mp hmap) hname
        rw [he] at hj
        cases hj
    | error failure =>
        obtain ⟨-, other, -, -, -, hother⟩ := Except.mapM_eq_error.mp hmap
        obtain ⟨e, -, rfl⟩ := liftArrow_eq_error.mp hother
        exact ⟨_, rfl⟩
  obtain ⟨e, he⟩ := hfails
  refine ⟨e, ?_⟩
  rw [emitRows, reorderColumns]
  simp only [RecordBatch.ofRows, outputMask, he, Except.error_bind]

/-! ## Projection and filtering -/

variable {Path : Type} {disk : Disk Path} {path : Path} {file : ParquetFile}

/-- The rows a read selects do not depend on the columns it returns. -/
theorem readParquet_columns (hopen : disk.openFile path = .ok file) {filters : List FilterExpr}
    {batch : RecordBatch} (hread : readParquet C disk path none filters = .ok batch) :
    ∃ rows : List (Row file.schema), batch = RecordBatch.ofRows rows ∧
      ∀ columns, readParquet C disk path columns filters =
        emitRows C file.schema columns rows := by
  obtain ⟨file', hopen', groups, hgroups, hrows⟩ := readParquet_eq_ok.mp hread
  cases hopen.symm.trans hopen'
  rw [readRowGroups_eq, Except.bind_eq_ok] at hrows
  obtain ⟨selected, hselected, hemit⟩ := hrows
  rw [emitRows_none] at hemit
  refine ⟨selected.map (·.row), (Except.ok.inj hemit).symm, fun columns => ?_⟩
  have hsurviving : liftParquet (survivingRowGroups C file filters) = .ok groups :=
    liftParquet_eq_ok.mpr hgroups
  have hfile : liftParquet (disk.openFile path) = .ok file := liftParquet_eq_ok.mpr hopen
  rw [readParquet, hfile, Except.ok_bind, hsurviving, Except.ok_bind, readRowGroups_eq, hselected,
    Except.ok_bind]

/-- A projected read is the full read with its columns selected by name; a name
that is not in the schema fails it. -/
theorem readParquet_select (hopen : disk.openFile path = .ok file)
    (hflat : FlatSchema file.schema) {filters : List FilterExpr} {batch : RecordBatch}
    (hread : readParquet C disk path none filters = .ok batch) (names : List String) :
    ((∀ name ∈ names, name ∈ file.schema.map Field.name) →
      readParquet C disk path (some names) filters = .ok (batch.select names) ∧
        (batch.select names).schema.map Field.name = names ∧
        (batch.select names).numRows = batch.numRows) ∧
      ((∃ name ∈ names, name ∉ file.schema.map Field.name) →
        ∃ e, readParquet C disk path (some names) filters = .error (.parquet e)) := by
  obtain ⟨rows, rfl, hrows⟩ := readParquet_columns hopen hread
  constructor
  · intro hpresent
    have hdot : ∀ name ∈ names, dotless name = true := by
      intro name hname
      obtain ⟨field, hfield, rfl⟩ := List.mem_map.mp (hpresent name hname)
      exact hflat.dotless field hfield
    rw [hrows, emitRows_select hflat.toFlatNames hpresent hdot]
    exact ⟨rfl, RecordBatch.select_names hpresent, List.length_map _⟩
  · rintro ⟨name, hname, habsent⟩
    rw [hrows]
    exact emitRows_error hname (indexOf_projected_absent habsent) rows

end

/-! ## One column, twice -/

theorem readParquet_select_byteFile :
    ∃ batch, readParquet referenceCrates (oneFile byteFile) () none byteFilters = .ok batch ∧
      readParquet referenceCrates (oneFile byteFile) () (some ["b", "b"]) byteFilters =
        .ok (batch.select ["b", "b"]) ∧
      ∃ e, readParquet referenceCrates (oneFile byteFile) () (some ["b", "c"]) byteFilters =
        .error (.parquet e) := by
  have hflat : FlatSchema byteFile.schema := ⟨by decide, by decide, by decide⟩
  obtain ⟨batch, hread⟩ : ∃ batch,
      readParquet referenceCrates (oneFile byteFile) () none byteFilters = .ok batch := ⟨_, rfl⟩
  have hopen : (oneFile byteFile).openFile () = .ok byteFile := rfl
  refine ⟨batch, hread, ?_, ?_⟩
  · exact ((readParquet_select hopen hflat hread ["b", "b"]).1 (by decide)).1
  · exact (readParquet_select hopen hflat hread ["b", "c"]).2 ⟨"c", by decide, by decide⟩

end Pydart
