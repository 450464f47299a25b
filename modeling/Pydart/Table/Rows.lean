import Pydart.Parquet.Conjunction
import Pydart.Parquet.Multi
import Pydart.Table.FromParquet

/-! # The rows of a table that was read

A table read from files holds, file by file, the rows whose groups and values every
filter admits. The schemas of the files agree.
-/

namespace Pydart

section

variable (C : Crates)

def admittedBy (file : ParquetFile) (filters : List FilterExpr)
    (located : LocatedRow file.schema) : Bool :=
  filters.all fun filter =>
    keepsRowGroup C file filter located.group && passes C filter located.row

def emittedRows (file : ParquetFile) (columns : Option (List String))
    (rows : List (LocatedRow file.schema)) : List (List Slot) :=
  match emitRows C file.schema columns (rows.map (·.row)) with
  | .ok batch => batch.rows
  | .error _ => []

variable {C}

theorem emittedRows_none {file : ParquetFile} (rows : List (LocatedRow file.schema)) :
    emittedRows C file none rows = rows.map (·.row.slots) := by
  rw [emittedRows, emitRows_none]
  simp [RecordBatch.ofRows, Function.comp_def]

theorem admittedBy_insert {file : ParquetFile} (before after : List FilterExpr)
    (filter : FilterExpr) (located : LocatedRow file.schema) :
    admittedBy C file (before ++ filter :: after) located =
      (admittedBy C file (before ++ after) located &&
        (keepsRowGroup C file filter located.group && passes C filter located.row)) := by
  rw [Bool.eq_iff_iff]
  simp only [admittedBy, List.all_append, List.all_cons, Bool.and_eq_true]
  tauto

section

variable {Path : Type} {disk : Disk Path} {columns : Option (List String)}
  {filters : List FilterExpr}

theorem readParquet_emitted {path : Path} {batch : RecordBatch}
    (h : readParquet C disk path columns filters = .ok batch) :
    ∃ file, disk.openFile path = .ok file ∧
      batch.rows = emittedRows C file columns (file.allRows.filter (admittedBy C file filters)) := by
  obtain ⟨file, hopen, groups, hgroups, hread⟩ := readParquet_eq_ok.mp h
  obtain ⟨-, hemit⟩ := readRowGroups_eq_ok.mp hread
  refine ⟨file, hopen, ?_⟩
  have hselected : ((file.locatedRows groups).map (·.row)).filter
      (fun row => filters.all (passes C · row)) =
        (file.allRows.filter (admittedBy C file filters)).map (·.row) := by
    rw [List.filter_map]
    exact congrArg _ (selected_eq hgroups)
  rw [hselected] at hemit
  rw [emittedRows, hemit]

theorem readsAs_emitted {schema : Schema} {paths : List Path} {batches : List RecordBatch}
    (h : List.Forall₂ (ReadsAs C disk columns filters schema) paths batches) :
    ∃ files, List.Forall₂ (fun path file => disk.openFile path = .ok file) paths files ∧
      (∀ file ∈ files, SchemasMatch schema file.schema) ∧
      batches.flatMap (·.rows) = files.flatMap fun file =>
        emittedRows C file columns (file.allRows.filter (admittedBy C file filters)) := by
  induction h with
  | nil => exact ⟨[], List.Forall₂.nil, by simp, rfl⟩
  | cons hhead _ ih =>
      obtain ⟨⟨raw, hraw, hmatch⟩, hread⟩ := hhead
      obtain ⟨file, hopen, hemitted⟩ := readParquet_emitted hread
      rw [readRawSchema, hopen] at hraw
      cases hraw
      obtain ⟨files, hopens, hmatches, hrest⟩ := ih
      refine ⟨file :: files, List.Forall₂.cons hopen hopens, ?_, ?_⟩
      · intro other hother
        rcases List.mem_cons.mp hother with rfl | hmem
        · exact hmatch
        · exact hmatches other hmem
      · rw [List.flatMap_cons, List.flatMap_cons, hemitted, hrest]

/-- The files of a read, in the order of their paths, and what it returns of them. -/
theorem readParquetMulti_emitted {paths : List Path} {batch : RecordBatch}
    (h : readParquetMulti C disk paths columns filters = .ok batch) :
    ∃ files schema, List.Forall₂ (fun path file => disk.openFile path = .ok file) paths files ∧
      (∀ file ∈ files, SchemasMatch schema file.schema) ∧
      batch.rows = files.flatMap fun file =>
        emittedRows C file columns (file.allRows.filter (admittedBy C file filters)) := by
  cases paths with
  | nil => cases h
  | cons first rest =>
      obtain ⟨schema, batches, -, hall, -, hrows⟩ := readParquetMulti_eq_ok.mp h
      obtain ⟨files, hopens, hmatches, hemitted⟩ := readsAs_emitted hall
      exact ⟨files, schema, hopens, hmatches, hrows.trans hemitted⟩

end

theorem fromParquet_eq_ok {T : TextFormat} {F : FileSystem} {s : F.State} {format : ParquetFormat}
    {path : PathArgument} {columns : Option (List String)}
    {filters : Option (List (String × String × PyLiteral))} {table : Table} :
    Table.fromParquet T F s C format path columns filters = .ok table ↔
      ∃ exprs paths batch, parseFilters T filters = .ok exprs ∧
        resolveParquetPaths T F s path = .ok paths ∧
        readParquetMulti C (F.disk s format T) paths columns exprs = .ok batch ∧
        table = ⟨.ofBatch batch, []⟩ := by
  have hraise : ∀ {α : Type} {x : Except PydartError α} {a : α},
      raise x = .ok a ↔ x = .ok a := by
    intro α x a
    cases x <;> simp [raise]
  unfold Table.fromParquet
  simp only [Except.bind_eq_ok, hraise, Except.mapError_eq_ok]
  constructor
  · rintro ⟨exprs, hparse, paths, hpaths, batch, hbatch, htable⟩
    cases htable
    exact ⟨exprs, paths, batch, hparse, hpaths, hbatch, rfl⟩
  · rintro ⟨exprs, paths, batch, hparse, hpaths, hbatch, rfl⟩
    exact ⟨exprs, hparse, paths, hpaths, batch, hbatch, rfl⟩

@[simp]
theorem rows_ofBatch (batch : RecordBatch) : (PyTable.ofBatch batch).rows = batch.rows := by
  simp [PyTable.rows, PyTable.ofBatch]

end
end Pydart
