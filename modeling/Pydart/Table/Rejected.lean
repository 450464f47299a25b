import Pydart.Table.Reference
import Pydart.Table.ToParquet

/-! # Rejected writes

The arguments, the batches and their concatenation are checked before the file is
created, the schema only afterwards. A write refused for its schema has already
emptied the file.
-/

namespace Pydart

section

variable {T : TextFormat} {format : ParquetFormat} {F : FileSystem} {s : F.State}
  {path : FilePath} {table : Table} {compression : String} {rowGroupSize : Nat}

/-! ## The checks -/

def Ungathered (format : ParquetFormat) (table : Table) : Prop :=
  table.batches = [] ∨ (2 ≤ table.batches.length ∧
    ∃ e, format.concatBatches table.inner.schema table.batches = .error e)

/-- What is refused before the file is touched. -/
def RefusedEarly (format : ParquetFormat) (table : Table) (compression : String)
    (rowGroupSize : Nat) : Prop :=
  rowGroupSize = 0 ∨ compression ∉ codecs ∨ Ungathered format table

/-- The file can be created and the arrow writer does not accept the schema: it returns
an error, or panics. -/
def SchemaRefused (T : TextFormat) (format : ParquetFormat) (F : FileSystem) (s : F.State)
    (path : FilePath) (table : Table) (compression : String) (rowGroupSize : Nat) : Prop :=
  ¬ RefusedEarly format table compression rowGroupSize ∧
    (∃ created, F.create s path = .ok created) ∧
    ∃ (h : rowGroupSize ≠ 0) (properties : WriterProperties) (failure : Failure),
      buildWriterProperties T compression rowGroupSize h = .ok properties ∧
        format.tryNew table.inner.schema properties = .error failure

def IoFailure (T : TextFormat) (format : ParquetFormat) (F : FileSystem) (s : F.State)
    (path : FilePath) (table : Table) (compression : String) (rowGroupSize : Nat) : Prop :=
  ∃ batch properties, table.prepare T format compression rowGroupSize = .ok (batch, properties) ∧
    ((∃ reason, F.create s path = .error reason) ∨
      ∃ created reason, F.create s path = .ok created ∧
        format.tryNew batch.schema properties = .ok () ∧
        (F.write created path (format.encode properties batch).1).2 = .error reason)

theorem gather_eq_error :
    (∃ e, table.gather format = .error e) ↔ Ungathered format table := by
  have huniform : ∀ b ∈ table.batches, b.schema = table.inner.schema := table.inner.uniform
  unfold Table.gather Ungathered
  split
  · rename_i hbatches
    simp [hbatches]
  · rename_i single hbatches
    simp [hbatches]
  · rename_i first rest hmany hbatches
    have hschema : first.schema = table.inner.schema :=
      huniform first (hbatches ▸ List.mem_cons_self)
    have hlen : 2 ≤ (first :: rest).length := by
      cases rest with
      | nil => exact absurd rfl hmany
      | cons second rest => simp
    rw [hbatches, hschema]
    constructor
    · rintro ⟨e, h⟩
      obtain ⟨reason, h, -⟩ := Except.mapError_eq_error.mp h
      exact Or.inr ⟨hlen, reason, h⟩
    · rintro (h | ⟨-, e, h⟩)
      · cases h
      · exact ⟨_, Except.mapError_eq_error.mpr ⟨e, h, rfl⟩⟩

theorem prepare_eq_error :
    (∃ e, table.prepare T format compression rowGroupSize = .error e) ↔
      RefusedEarly format table compression rowGroupSize := by
  unfold Table.prepare RefusedEarly
  rw [← gather_eq_error]
  split
  · rename_i hsize
    exact ⟨fun _ => Or.inl hsize, fun _ => ⟨_, rfl⟩⟩
  · rename_i hsize
    cases hbuild : buildWriterProperties T compression rowGroupSize hsize with
    | error e =>
        have hcodec : compression ∉ codecs := by
          intro hmem
          obtain ⟨properties, hok⟩ := buildWriterProperties_eq_ok.mpr hmem
          cases hok.symm.trans hbuild
        exact ⟨fun _ => Or.inr (Or.inl hcodec), fun _ => ⟨_, rfl⟩⟩
    | ok properties =>
        have hcodec : compression ∈ codecs := buildWriterProperties_eq_ok.mp ⟨properties, hbuild⟩
        cases hgather : table.gather format with
        | error e => exact ⟨fun _ => Or.inr (Or.inr ⟨e, rfl⟩), fun _ => ⟨e, rfl⟩⟩
        | ok batch =>
            constructor
            · rintro ⟨e, h⟩
              cases h
            · rintro (h | h | ⟨e, h⟩)
              · exact absurd h hsize
              · exact absurd hcodec h
              · cases h

/-- Past the early checks there is a batch of the table's schema and rows. -/
theorem exists_prepared (h : ¬ RefusedEarly format table compression rowGroupSize) :
    ∃ batch properties,
      table.prepare T format compression rowGroupSize = .ok (batch, properties) ∧
        batch.schema = table.inner.schema ∧ batch.rows = table.inner.rows := by
  cases hprepare : table.prepare T format compression rowGroupSize with
  | error e => exact absurd (prepare_eq_error.mp ⟨e, hprepare⟩) h
  | ok prepared =>
      obtain ⟨hgather, -⟩ := prepare_eq_ok.mp hprepare
      exact ⟨prepared.1, prepared.2, rfl, gather_eq_ok hgather⟩

/-! ## The file -/

theorem toParquet_refusedEarly (h : RefusedEarly format table compression rowGroupSize) :
    ∃ e, table.toParquet T format F s path compression rowGroupSize = (s, .error e) := by
  obtain ⟨e, he⟩ := prepare_eq_error.mpr h
  exact ⟨.raised e, toParquet_of_unprepared he⟩

theorem toParquet_schemaRefused
    (h : SchemaRefused T format F s path table compression rowGroupSize) :
    ∃ created e, F.create s path = .ok created ∧
      table.toParquet T format F s path compression rowGroupSize = (created, .error e) := by
  obtain ⟨hearly, ⟨created, hcreate⟩, hsize, properties, e, hbuild, hrefuse⟩ := h
  obtain ⟨batch, properties', hprepare, hschema, -⟩ := exists_prepared (T := T) hearly
  obtain ⟨-, hsize', hbuild'⟩ := prepare_eq_ok.mp hprepare
  cases hbuild.symm.trans hbuild'
  rw [← hschema] at hrefuse
  have hcall : table.toParquet T format F s path compression rowGroupSize = _ :=
    toParquet_of_prepared hprepare
  rw [writeParquet_refused hcreate hrefuse] at hcall
  exact ⟨created, _, hcreate, hcall⟩

end

/-- A rejected write raises and leaves the file as it was, exactly if the schema is not
what is refused, or the file was there and empty. -/
theorem toParquet_rejected_iff (T : TextFormat) (format : ParquetFormat) (F : FileSystem)
    (s : F.State) (path : FilePath) (table : Table) (compression : String) (rowGroupSize : Nat) :
    (RefusedEarly format table compression rowGroupSize ∨
        SchemaRefused T format F s path table compression rowGroupSize →
      (∃ e, (table.toParquet T format F s path compression rowGroupSize).2 = .error e) ∧
        F.node (table.toParquet T format F s path compression rowGroupSize).1 path =
          F.node s path) ↔
    (SchemaRefused T format F s path table compression rowGroupSize →
      F.node s path = some (.file [])) := by
  constructor
  · intro h hrefused
    obtain ⟨created, e, hcreate, hcall⟩ := toParquet_schemaRefused hrefused
    obtain ⟨-, hnode⟩ := h (Or.inr hrefused)
    rw [hcall] at hnode
    exact hnode.symm.trans (F.create_node hcreate)
  · rintro h (hearly | hrefused)
    · obtain ⟨e, hcall⟩ : ∃ e,
          table.toParquet T format F s path compression rowGroupSize = (s, .error e) :=
        toParquet_refusedEarly hearly
      rw [hcall]
      exact ⟨⟨e, rfl⟩, rfl⟩
    · obtain ⟨created, e, hcreate, hcall⟩ := toParquet_schemaRefused hrefused
      rw [hcall]
      exact ⟨⟨e, rfl⟩, (F.create_node hcreate).trans (h hrefused).symm⟩

/-! ## A struct without fields -/

def emptyStructTable : Table :=
  ⟨.ofBatch (columnBatch ⟨"s", .emptyStruct, true, false, []⟩ [some (.raw "empty")] (by decide)), []⟩

/-- The previous contents of the file are gone, though the call only reports that
the schema has no Parquet form. -/
theorem refused_schema_empties_file :
    folderSystem.node [(.ofString "out.parquet", .file [80, 65, 82, 49])]
        (.ofString "out.parquet") = some (.file [80, 65, 82, 49]) ∧
      (emptyStructTable.toParquet plainText (catalogueFormat []) folderSystem
        [(.ofString "out.parquet", .file [80, 65, 82, 49])] (.ofString "out.parquet")
        "snappy" 1048576).2 =
          .error (.raised (.other ("failed to write Parquet file \"out.parquet\": " ++
            "Arrow: Parquet does not support writing empty structs"))) ∧
      folderSystem.node (emptyStructTable.toParquet plainText (catalogueFormat []) folderSystem
        [(.ofString "out.parquet", .file [80, 65, 82, 49])] (.ofString "out.parquet")
        "snappy" 1048576).1 (.ofString "out.parquet") = some (.file []) := by
  refine ⟨?_, ?_, ?_⟩
  · decide +kernel
  · decide +kernel
  · decide +kernel

end Pydart
