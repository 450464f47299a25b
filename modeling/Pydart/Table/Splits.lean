import Pydart.Parquet.Multi
import Pydart.Parquet.Pruning
import Pydart.Table.FromParquet
import Pydart.Table.Rejected

/-! # Splits of a table

Tables with one schema and one sequence of rows are written alike, whatever their
batches, as long as there is a batch. A table without rows comes back without rows.
-/

namespace Pydart

/-! ## Files without rows -/

section

variable {C : Crates} {Path : Type} {disk : Disk Path} {path : Path} {file : ParquetFile}

theorem allRows_eq_nil (h : ∀ rowGroup ∈ file.rowGroups, rowGroup.rows = []) :
    file.allRows = [] := by
  rw [List.eq_nil_iff_forall_not_mem]
  intro located hmem
  obtain ⟨-, rowGroup, hgroup, hrow⟩ := mem_groupRows (mem_allRows.mp hmem)
  rw [h rowGroup (List.mem_of_getElem? hgroup)] at hrow
  cases hrow

theorem readParquetMulti_one (hopen : disk.openFile path = .ok file) :
    readParquetMulti C disk [path] none [] =
      .ok (RecordBatch.ofRows (file.allRows.map (·.row))) := by
  have hraw : readRawSchema disk path = .ok file.schema := by
    rw [readRawSchema, hopen]
    rfl
  refine readParquetMulti_eq_ok.mpr ⟨file.schema, _, hraw, List.Forall₂.cons
    ⟨⟨file.schema, hraw, schemasMatch_equivalence.refl _⟩, readParquet_unfiltered hopen⟩
    List.Forall₂.nil, rfl, ?_⟩
  simp

end

/-! ## Writing and reading back -/

section

variable {T : TextFormat} {format : ParquetFormat} {F : FileSystem} {s : F.State}
  {path : FilePath} {table : Table} {compression : String} {rowGroupSize : Nat}

theorem gather_of_concat
    (hconcat : ∀ schema batches, batches ≠ [] → (∀ b ∈ batches, b.schema = schema) →
      ∃ batch, format.concatBatches schema batches = .ok batch)
    (hne : table.batches ≠ []) : ¬ Ungathered format table := by
  rintro (h | ⟨-, e, h⟩)
  · exact hne h
  · obtain ⟨batch, hbatch⟩ := hconcat table.inner.schema table.batches hne table.inner.uniform
    cases hbatch.symm.trans h

theorem gather_congr {table' : Table} (hschema : table.inner.schema = table'.inner.schema)
    (hrows : table.inner.rows = table'.inner.rows) (h : ¬ Ungathered format table)
    (h' : ¬ Ungathered format table') :
    ∃ batch, table.gather format = .ok batch ∧ table'.gather format = .ok batch ∧
      batch.schema = table.inner.schema ∧ batch.rows = table.inner.rows := by
  cases hgather : table.gather format with
  | error e => exact absurd (gather_eq_error.mp ⟨e, hgather⟩) h
  | ok batch =>
      cases hgather' : table'.gather format with
      | error e => exact absurd (gather_eq_error.mp ⟨e, hgather'⟩) h'
      | ok batch' =>
          obtain ⟨hs, hr⟩ := gather_eq_ok hgather
          obtain ⟨hs', hr'⟩ := gather_eq_ok hgather'
          have heq : batch' = batch := RecordBatch.ext_rows
            (hs'.trans (hschema.symm.trans hs.symm)) (hr'.trans (hrows.symm.trans hr.symm))
          exact ⟨batch, rfl, congrArg _ heq, hs, hr⟩

theorem toParquet_congr {table' : Table} (h : table.gather format = table'.gather format) :
    table.toParquet T format F s path compression rowGroupSize =
      table'.toParquet T format F s path compression rowGroupSize := by
  unfold Table.toParquet Table.prepare
  rw [h]

theorem toParquet_batchless (hsize : rowGroupSize ≠ 0) (hcodec : compression ∈ codecs)
    (hnone : table.batches = []) :
    table.toParquet T format F s path compression rowGroupSize =
      (s, .error (.raised
        (.other "cannot write an empty Table with no record batches to Parquet"))) := by
  obtain ⟨properties, hbuild⟩ := buildWriterProperties_eq_ok (T := T) (h := hsize).mpr hcodec
  have hgather : table.gather format =
      .error (.other "cannot write an empty Table with no record batches to Parquet") := by
    rw [Table.gather, hnone]
  apply toParquet_of_unprepared
  rw [Table.prepare, dif_neg hsize, hbuild, hgather]
  rfl

theorem toParquet_empty (hearly : ¬ RefusedEarly format table compression rowGroupSize)
    (hschema : ¬ SchemaRefused T format F s path table compression rowGroupSize)
    (hio : ¬ IoFailure T format F s path table compression rowGroupSize)
    (hrows : table.inner.rows = []) :
    ∃ after bytes file, table.toParquet T format F s path compression rowGroupSize =
        (after, .ok ()) ∧ F.node after path = some (.file bytes) ∧
      format.decode bytes = .ok file ∧ file.schema = table.inner.schema ∧
      ∀ rowGroup ∈ file.rowGroups, rowGroup.rows = [] := by
  obtain ⟨batch, properties, hprepare, hbatch, hbatchRows⟩ := exists_prepared (T := T) hearly
  obtain ⟨-, hsize, hbuild⟩ := prepare_eq_ok.mp hprepare
  cases hcreate : F.create s path with
  | error reason =>
      exact absurd ⟨batch, properties, hprepare, Or.inl ⟨reason, hcreate⟩⟩ hio
  | ok created =>
      cases haccept : format.tryNew batch.schema properties with
      | error e =>
          rw [hbatch] at haccept
          exact absurd ⟨hearly, ⟨created, hcreate⟩, hsize, properties, e, hbuild, haccept⟩ hschema
      | ok _ =>
          obtain ⟨bytes, file, hencode, hdecode, hfile, hempty⟩ :=
            format.encode_empty haccept (hbatchRows.trans hrows)
          cases hwrite : F.write created path bytes with
          | mk after result =>
              cases result with
              | error reason =>
                  have hfails : (F.write created path (format.encode properties batch).1).2 =
                      .error reason := by rw [hencode, hwrite]
                  exact absurd ⟨batch, properties, hprepare,
                    Or.inr ⟨created, reason, hcreate, haccept, hfails⟩⟩ hio
              | ok _ =>
                  have hwritten : writeParquet format F s batch path properties =
                      (after, .ok ()) := by
                    refine writeParquet_eq_ok.mpr ⟨created, hcreate, haccept, ?_, ?_⟩
                    · rw [hencode, hwrite]
                    · rw [hencode]
                  refine ⟨after, bytes, file, ?_, ?_, hdecode, hfile.trans hbatch, hempty⟩
                  · rw [toParquet_of_prepared hprepare, hwritten]
                    rfl
                  · exact F.write_node (F.create_node hcreate) hwrite

theorem fromParquet_empty {after : F.State} {bytes : List UInt8} {file : ParquetFile}
    (hread : F.readFile after path = .ok bytes) (hdecode : format.decode bytes = .ok file)
    (hempty : ∀ rowGroup ∈ file.rowGroups, rowGroup.rows = []) (C : Crates) :
    ∃ back, Table.fromParquet T F after C format (.single path) none none = .ok back ∧
      back.inner.schema = file.schema ∧ back.inner.rows = [] := by
  have hopen : (F.disk after format T).openFile path = .ok file := by
    simp only [FileSystem.disk, hread, hdecode]
  have hfile : F.isFile after path = true := by
    rw [FileSystem.isFile, F.readFile_node hread]
  have hpaths : resolveParquetPaths T F after (.single path) = .ok [path] := by
    rw [resolveParquetPaths, F.isDir_of_isFile hfile]
    rfl
  have hmulti := readParquetMulti_one (C := C) hopen
  rw [allRows_eq_nil hempty] at hmulti
  refine ⟨⟨.ofBatch (RecordBatch.newEmpty file.schema), []⟩, ?_, rfl, rfl⟩
  unfold Table.fromParquet
  simp only [parseFilters, raise, hpaths, Except.ok_bind, hmulti]
  rfl

end

/-- Tables that differ only in how they are split are written as the same batch, and
a table without rows comes back as such; only a table without batches is refused. -/
theorem toParquet_splits (T : TextFormat) (format : ParquetFormat)
    (hconcat : ∀ schema batches, batches ≠ [] → (∀ b ∈ batches, b.schema = schema) →
      ∃ batch, format.concatBatches schema batches = .ok batch) :
    (∀ table table' : Table, table.inner.schema = table'.inner.schema →
      table.inner.rows = table'.inner.rows → table.batches ≠ [] → table'.batches ≠ [] →
        (∃ batch, table.gather format = .ok batch ∧ table'.gather format = .ok batch ∧
          batch.schema = table.inner.schema ∧ batch.rows = table.inner.rows) ∧
        ∀ (F : FileSystem) (s : F.State) path compression rowGroupSize,
          table.toParquet T format F s path compression rowGroupSize =
            table'.toParquet T format F s path compression rowGroupSize) ∧
    (∀ (F : FileSystem) (s : F.State) path (table : Table) compression rowGroupSize,
      rowGroupSize ≠ 0 → compression ∈ codecs → table.batches ≠ [] → table.inner.rows = [] →
      ¬ SchemaRefused T format F s path table compression rowGroupSize →
      ¬ IoFailure T format F s path table compression rowGroupSize →
        ∃ after, table.toParquet T format F s path compression rowGroupSize = (after, .ok ()) ∧
          ∀ bytes, F.readFile after path = .ok bytes → ∀ C, ∃ back,
            Table.fromParquet T F after C format (.single path) none none = .ok back ∧
              back.inner.schema = table.inner.schema ∧ back.inner.rows = []) ∧
    ∀ (F : FileSystem) (s : F.State) path (table : Table) compression rowGroupSize,
      rowGroupSize ≠ 0 → compression ∈ codecs → table.batches = [] →
        table.toParquet T format F s path compression rowGroupSize =
          (s, .error (.raised
            (.other "cannot write an empty Table with no record batches to Parquet"))) := by
  refine ⟨?_, ?_, ?_⟩
  · intro table table' hschema hrows hne hne'
    obtain ⟨batch, hbatch, hbatch', hspec⟩ := gather_congr hschema hrows
      (gather_of_concat hconcat hne) (gather_of_concat hconcat hne')
    exact ⟨⟨batch, hbatch, hbatch', hspec⟩, fun F s path compression rowGroupSize =>
      toParquet_congr (hbatch.trans hbatch'.symm)⟩
  · intro F s path table compression rowGroupSize hsize hcodec hne hrows hschema hio
    have hearly : ¬ RefusedEarly format table compression rowGroupSize := by
      rintro (h | h | h)
      · exact hsize h
      · exact h hcodec
      · exact gather_of_concat hconcat hne h
    obtain ⟨after, bytes, file, hcall, hnode, hdecode, hfile, hempty⟩ :=
      toParquet_empty hearly hschema hio hrows
    refine ⟨after, hcall, fun bytes' hread C => ?_⟩
    have hbytes := F.readFile_node hread
    rw [hnode, Option.some.injEq, Node.file.injEq] at hbytes
    rw [hbytes] at hdecode
    obtain ⟨back, hback, hbackSchema, hbackRows⟩ := fromParquet_empty hread hdecode hempty C
    exact ⟨back, hback, hbackSchema.trans hfile, hbackRows⟩
  · intro F s path table compression rowGroupSize
    exact toParquet_batchless

/-! ## An empty table -/

def emptyField : Field := ⟨"n", .int64, true, false, []⟩

def emptyFile : ParquetFile := ⟨[emptyField], []⟩

def twoEmptyBatches : Table :=
  ⟨⟨[emptyField], [RecordBatch.newEmpty [emptyField], RecordBatch.newEmpty [emptyField]],
    by simp [RecordBatch.newEmpty, RecordBatch.ofRows]⟩, []⟩

def oneEmptyBatch : Table := ⟨.ofBatch (RecordBatch.newEmpty [emptyField]), []⟩

def noBatches : Table := ⟨⟨[emptyField], [], by simp⟩, []⟩

theorem toParquet_splits_empty :
    twoEmptyBatches.toParquet plainText (catalogueFormat [emptyFile]) folderSystem []
        (.ofString "out.parquet") "zstd" 10 =
      oneEmptyBatch.toParquet plainText (catalogueFormat [emptyFile]) folderSystem []
        (.ofString "out.parquet") "zstd" 10 ∧
      ∃ after back, twoEmptyBatches.toParquet plainText (catalogueFormat [emptyFile]) folderSystem
          [] (.ofString "out.parquet") "zstd" 10 = (after, .ok ()) ∧
        Table.fromParquet plainText folderSystem after referenceCrates
          (catalogueFormat [emptyFile]) (.single (.ofString "out.parquet")) none none = .ok back ∧
        back.inner.schema = [emptyField] ∧ back.inner.rows = [] := by
  have hconcat : ∀ schema batches, batches ≠ [] → (∀ b ∈ batches, b.schema = schema) →
      ∃ batch, (catalogueFormat [emptyFile]).concatBatches schema batches = .ok batch := by
    intro schema batches _ huniform
    refine ⟨_, dif_pos fun b hb => ?_⟩
    rw [huniform b hb]
    exact sameColumns_refl schema
  obtain ⟨hsame, hempty, -⟩ :=
    toParquet_splits plainText (catalogueFormat [emptyFile]) hconcat
  obtain ⟨-, hcalls⟩ := hsame twoEmptyBatches oneEmptyBatch rfl rfl (by simp [twoEmptyBatches, Table.batches])
    (by simp [oneEmptyBatch, Table.batches, PyTable.ofBatch])
  refine ⟨hcalls folderSystem [] (.ofString "out.parquet") "zstd" 10, ?_⟩
  obtain ⟨after, hcall, hback⟩ := hempty folderSystem [] (.ofString "out.parquet")
    twoEmptyBatches "zstd" 10 (by decide) (by decide) (by simp [twoEmptyBatches, Table.batches]) rfl
    (by
      rintro ⟨-, -, -, properties, e, -, hrefuse⟩
      cases hrefuse)
    (by
      rintro ⟨batch, properties, -, ⟨reason, hcreate⟩ | ⟨created, reason, hcreate, -, hwrite⟩⟩
      · cases hcreate
      · cases hcreate
        simp [folderSystem, Folder.write, Folder.node_store] at hwrite)
  obtain ⟨bytes, hread⟩ : ∃ bytes,
      folderSystem.readFile after (.ofString "out.parquet") = .ok bytes := by
    have hafter : after = (twoEmptyBatches.toParquet plainText (catalogueFormat [emptyFile])
        folderSystem [] (.ofString "out.parquet") "zstd" 10).1 := by rw [hcall]
    rw [hafter]
    exact ⟨_, rfl⟩
  obtain ⟨back, hread, hschema, hrows⟩ := hback bytes hread referenceCrates
  exact ⟨after, back, hcall, hread, hschema, hrows⟩

/-- Two tables without rows and with one schema: one is written, the other refused. -/
theorem batchless_table_refused :
    oneEmptyBatch.inner.schema = noBatches.inner.schema ∧
      oneEmptyBatch.inner.rows = noBatches.inner.rows ∧
      (oneEmptyBatch.toParquet plainText (catalogueFormat [emptyFile]) folderSystem []
        (.ofString "out.parquet") "snappy" 1048576).2 = .ok () ∧
      (noBatches.toParquet plainText (catalogueFormat [emptyFile]) folderSystem []
        (.ofString "out.parquet") "snappy" 1048576).2 =
          .error (.raised
            (.other "cannot write an empty Table with no record batches to Parquet")) := by
  refine ⟨rfl, rfl, ?_, ?_⟩
  · decide +kernel
  · decide +kernel

end Pydart
