import Pydart.Pandas.Convert
import Pydart.Table.FileSystem

/-! # Writing a table

`Table.to_parquet`: the arguments are checked and the batches gathered into one,
and then `write_parquet` creates the file and hands it to the arrow writer.
-/

namespace Pydart

section

variable (T : TextFormat) (format : ParquetFormat)

def buildWriterProperties (codec : String) (rowGroupSize : Nat) (h : rowGroupSize ≠ 0) :
    Except ParquetError WriterProperties :=
  match codec with
  | "snappy" => .ok ⟨.snappy, rowGroupSize, h⟩
  | "zstd" => .ok ⟨.zstd 1, rowGroupSize, h⟩
  | "gzip" => .ok ⟨.gzip 6, rowGroupSize, h⟩
  | "uncompressed" => .ok ⟨.uncompressed, rowGroupSize, h⟩
  | other => .error (.general ("unsupported compression codec " ++ T.debug other))

/-- The table's rows as one batch. -/
def Table.gather (table : Table) : Except PydartError RecordBatch :=
  match table.batches with
  | [] => .error (.other "cannot write an empty Table with no record batches to Parquet")
  | [batch] => .ok batch
  | batch :: batches =>
      (format.concatBatches batch.schema (batch :: batches)).mapError .arrow

/-- What a call checks and gathers before it touches the file. -/
def Table.prepare (table : Table) (compression : String) (rowGroupSize : Nat) :
    Except PydartError (RecordBatch × WriterProperties) :=
  if h : rowGroupSize = 0 then .error (.other "row_group_size must be greater than 0")
  else do
    let properties ← (buildWriterProperties T compression rowGroupSize h).mapError fun _ =>
      .unsupportedCodec compression
    let batch ← table.gather format
    pure (batch, properties)

variable (F : FileSystem)

def writeParquet (s : F.State) (batch : RecordBatch) (path : FilePath)
    (properties : WriterProperties) : F.State × Outcome Unit :=
  match F.create s path with
  | .error reason => (s, .error (.parquet (.external reason)))
  | .ok created =>
      match format.tryNew batch.schema properties with
      | .error failure => (created, .error failure)
      | .ok () =>
          match F.write created path (format.encode properties batch).1 with
          | (written, .error reason) => (written, .error (.parquet (.external reason)))
          | (written, .ok ()) => (written, (format.encode properties batch).2)

def mapWriteErr (path : FilePath) : Failure → CallFailure
  | .parquet err =>
      .raised (.other ("failed to write Parquet file " ++ T.debugPath path ++ ": " ++
        T.parquetError err))
  | .panicked => .panicked

/-- The state after the call and how the call ends. -/
def Table.toParquet (table : Table) (s : F.State) (path : FilePath) (compression : String)
    (rowGroupSize : Nat) : F.State × Except CallFailure Unit :=
  match table.prepare T format compression rowGroupSize with
  | .error e => (s, .error (.raised e))
  | .ok (batch, properties) =>
      let (after, result) := writeParquet format F s batch path properties
      (after, result.mapError (mapWriteErr T path))

end

/-! ## What each step does -/

section

variable {T : TextFormat} {format : ParquetFormat}

def codecs : List String := ["snappy", "zstd", "gzip", "uncompressed"]

theorem buildWriterProperties_eq_ok {codec : String} {rowGroupSize : Nat} {h : rowGroupSize ≠ 0} :
    (∃ properties, buildWriterProperties T codec rowGroupSize h = .ok properties) ↔
      codec ∈ codecs := by
  simp only [codecs, List.mem_cons, List.not_mem_nil, or_false]
  constructor
  · rintro ⟨properties, hok⟩
    unfold buildWriterProperties at hok
    split at hok
    · exact Or.inl rfl
    · exact Or.inr (Or.inl rfl)
    · exact Or.inr (Or.inr (Or.inl rfl))
    · exact Or.inr (Or.inr (Or.inr rfl))
    · cases hok
  · rintro (rfl | rfl | rfl | rfl) <;> exact ⟨_, rfl⟩

theorem gather_eq_ok {table : Table} {batch : RecordBatch}
    (h : table.gather format = .ok batch) :
    batch.schema = table.inner.schema ∧ batch.rows = table.inner.rows := by
  have huniform : ∀ b ∈ table.batches, b.schema = table.inner.schema := table.inner.uniform
  unfold Table.gather at h
  unfold PyTable.rows
  change _ ∧ batch.rows = table.batches.flatMap (·.rows)
  split at h
  · cases h
  · rename_i single hbatches
    cases h
    rw [hbatches] at huniform ⊢
    exact ⟨huniform batch List.mem_cons_self, by simp⟩
  · rename_i first rest _ hbatches
    obtain ⟨hschema, hrows⟩ := format.concatBatches_appends (Except.mapError_eq_ok.mp h)
    rw [hbatches] at huniform ⊢
    exact ⟨hschema.trans (huniform first List.mem_cons_self), hrows⟩

theorem prepare_eq_ok {table : Table} {compression : String} {rowGroupSize : Nat}
    {batch : RecordBatch} {properties : WriterProperties} :
    table.prepare T format compression rowGroupSize = .ok (batch, properties) ↔
      table.gather format = .ok batch ∧ ∃ h : rowGroupSize ≠ 0,
        buildWriterProperties T compression rowGroupSize h = .ok properties := by
  unfold Table.prepare
  split
  · simp_all
  · rename_i hsize
    simp only [Except.bind_eq_ok, Except.mapError_eq_ok]
    constructor
    · rintro ⟨found, hfound, gathered, hgathered, hpair⟩
      cases hpair
      exact ⟨hgathered, hsize, hfound⟩
    · rintro ⟨hgathered, _, hfound⟩
      exact ⟨properties, hfound, batch, hgathered, rfl⟩

variable {F : FileSystem} {s : F.State} {path : FilePath} {table : Table} {compression : String}
  {rowGroupSize : Nat} {batch : RecordBatch} {properties : WriterProperties}

theorem toParquet_of_prepared
    (h : table.prepare T format compression rowGroupSize = .ok (batch, properties)) :
    table.toParquet T format F s path compression rowGroupSize =
      ((writeParquet format F s batch path properties).1,
        (writeParquet format F s batch path properties).2.mapError (mapWriteErr T path)) := by
  rw [Table.toParquet, h]

theorem toParquet_of_unprepared {e : PydartError}
    (h : table.prepare T format compression rowGroupSize = .error e) :
    table.toParquet T format F s path compression rowGroupSize = (s, .error (.raised e)) := by
  rw [Table.toParquet, h]

theorem writeParquet_refused {created : F.State} {failure : Failure}
    (hcreate : F.create s path = .ok created)
    (hrefuse : format.tryNew batch.schema properties = .error failure) :
    writeParquet format F s batch path properties = (created, .error failure) := by
  rw [writeParquet, hcreate]
  simp only [hrefuse]

theorem writeParquet_eq_ok {after : F.State} :
    writeParquet format F s batch path properties = (after, .ok ()) ↔
      ∃ created, F.create s path = .ok created ∧ format.tryNew batch.schema properties = .ok () ∧
        F.write created path (format.encode properties batch).1 = (after, .ok ()) ∧
        (format.encode properties batch).2 = .ok () := by
  unfold writeParquet
  split
  · rename_i hcreate
    simp [hcreate]
  · rename_i created hcreate
    split
    · rename_i hrefuse
      simp [hcreate, hrefuse]
    · rename_i haccept
      split
      · rename_i hwrite
        simp [hcreate, haccept, hwrite]
      · rename_i hwrite
        simp [hcreate, haccept, hwrite]

end
end Pydart
