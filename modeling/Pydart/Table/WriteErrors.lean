import Pydart.Table.Errors
import Pydart.Table.Rejected

/-! # How a write fails

`to_parquet` refuses its arguments in a fixed order, before the file is touched: the
size of the row groups, the codec, the batches. After that each failure is reported
under the path, and the file is left as the failing step left it.
-/

namespace Pydart

section

variable (format : ParquetFormat) (table : Table) (compression : String) (rowGroupSize : Nat)

/-- What a table is refused for, before the file is touched. -/
inductive WriteRefused : PydartError → Prop where
  | rowGroupSize (h : rowGroupSize = 0) :
      WriteRefused (.other "row_group_size must be greater than 0")
  | codec (hsize : rowGroupSize ≠ 0) (h : compression ∉ codecs) :
      WriteRefused (.unsupportedCodec compression)
  | empty (hsize : rowGroupSize ≠ 0) (hcodec : compression ∈ codecs) (h : table.batches = []) :
      WriteRefused (.other "cannot write an empty Table with no record batches to Parquet")
  | concat {e : ArrowError} (hsize : rowGroupSize ≠ 0) (hcodec : compression ∈ codecs)
      (hmany : 2 ≤ table.batches.length)
      (h : format.concatBatches table.inner.schema table.batches = .error e) :
      WriteRefused (.arrow e)

variable (F : FileSystem) (s : F.State) (path : FilePath)

/-- The step a write stops at, the state it leaves and the error underneath. -/
inductive WriteStopped (batch : RecordBatch) (properties : WriterProperties) :
    F.State → Failure → Prop where
  | create {reason : String} (h : F.create s path = .error reason) :
      WriteStopped batch properties s (.parquet (.external reason))
  | schema {created : F.State} {failure : Failure} (hcreate : F.create s path = .ok created)
      (h : format.tryNew batch.schema properties = .error failure) :
      WriteStopped batch properties created failure
  | write {created after : F.State} {reason : String} (hcreate : F.create s path = .ok created)
      (haccept : format.tryNew batch.schema properties = .ok ())
      (h : F.write created path (format.encode properties batch).1 = (after, .error reason)) :
      WriteStopped batch properties after (.parquet (.external reason))
  | encode {created after : F.State} {failure : Failure}
      (hcreate : F.create s path = .ok created)
      (haccept : format.tryNew batch.schema properties = .ok ())
      (hsend : F.write created path (format.encode properties batch).1 = (after, .ok ()))
      (h : (format.encode properties batch).2 = .error failure) :
      WriteStopped batch properties after failure

inductive WriteFails (T : TextFormat) : F.State → CallFailure → Prop where
  | refused {e : PydartError} (h : WriteRefused format table compression rowGroupSize e) :
      WriteFails T s (.raised e)
  | stopped {batch : RecordBatch} {properties : WriterProperties} {after : F.State}
      {failure : Failure}
      (hprepare : table.prepare T format compression rowGroupSize = .ok (batch, properties))
      (h : WriteStopped format F s path batch properties after failure) :
      WriteFails T after (mapWriteErr T path failure)

/-- The arrow writer panics on what it is given, over the schema or over the rows. -/
def WriterPanics (T : TextFormat) : Prop :=
  ∃ batch properties created,
    table.prepare T format compression rowGroupSize = .ok (batch, properties) ∧
      F.create s path = .ok created ∧
      (format.tryNew batch.schema properties = .error .panicked ∨
        (format.tryNew batch.schema properties = .ok () ∧
          (F.write created path (format.encode properties batch).1).2 = .ok () ∧
          (format.encode properties batch).2 = .error .panicked))

end

section

variable {T : TextFormat} {format : ParquetFormat} {table : Table} {compression : String}
  {rowGroupSize : Nat}

theorem gather_fails_iff {e : PydartError} :
    table.gather format = .error e ↔
      (table.batches = [] ∧
        e = .other "cannot write an empty Table with no record batches to Parquet") ∨
      (2 ≤ table.batches.length ∧ ∃ reason,
        format.concatBatches table.inner.schema table.batches = .error reason ∧
          e = .arrow reason) := by
  have huniform : ∀ b ∈ table.batches, b.schema = table.inner.schema := table.inner.uniform
  unfold Table.gather
  split
  · rename_i hbatches
    simp [hbatches, eq_comm]
  · rename_i single hbatches
    simp [hbatches]
  · rename_i first rest hmany hbatches
    have hschema : first.schema = table.inner.schema :=
      huniform first (hbatches ▸ List.mem_cons_self)
    have hlength : 2 ≤ (first :: rest).length := by
      cases rest with
      | nil => exact absurd rfl hmany
      | cons second rest => simp
    rw [hbatches, hschema, Except.mapError_eq_error]
    constructor
    · rintro ⟨reason, h, rfl⟩
      exact Or.inr ⟨hlength, reason, h, rfl⟩
    · rintro (⟨h, -⟩ | ⟨-, reason, h, rfl⟩)
      · cases h
      · exact ⟨reason, h, rfl⟩

theorem prepare_fails_iff {e : PydartError} :
    table.prepare T format compression rowGroupSize = .error e ↔
      WriteRefused format table compression rowGroupSize e := by
  unfold Table.prepare
  split
  · rename_i hsize
    constructor
    · intro h
      cases h
      exact .rowGroupSize hsize
    · intro h
      cases h with
      | rowGroupSize => rfl
      | codec hne | empty hne | concat hne => exact absurd hsize hne
  · rename_i hsize
    cases hbuild : buildWriterProperties T compression rowGroupSize hsize with
    | error reason =>
        have hcodec : compression ∉ codecs := by
          intro hmem
          obtain ⟨properties, hok⟩ := buildWriterProperties_eq_ok.mpr hmem
          cases hok.symm.trans hbuild
        constructor
        · intro h
          cases h
          exact .codec hsize hcodec
        · intro h
          cases h with
          | rowGroupSize hzero => exact absurd hzero hsize
          | codec => rfl
          | empty _ hmem | concat _ hmem => exact absurd hmem hcodec
    | ok properties =>
        have hcodec : compression ∈ codecs := buildWriterProperties_eq_ok.mp ⟨properties, hbuild⟩
        have hgather : (do
            let batch ← table.gather format
            pure (batch, properties) : Except PydartError _) = .error e ↔
              table.gather format = .error e := by
          cases table.gather format <;> simp [pure, Except.pure]
        refine hgather.trans (gather_fails_iff.trans ?_)
        constructor
        · rintro (⟨hnil, rfl⟩ | ⟨hmany, reason, h, rfl⟩)
          · exact .empty hsize hcodec hnil
          · exact .concat hsize hcodec hmany h
        · intro h
          cases h with
          | rowGroupSize hzero => exact absurd hzero hsize
          | codec _ hnot => exact absurd hcodec hnot
          | empty _ _ hnil => exact Or.inl ⟨hnil, rfl⟩
          | concat _ _ hmany h => exact Or.inr ⟨hmany, _, h, rfl⟩

variable {F : FileSystem} {s after : F.State} {path : FilePath}

theorem writeParquet_eq_error {batch : RecordBatch} {properties : WriterProperties}
    {failure : Failure} :
    writeParquet format F s batch path properties = (after, .error failure) ↔
      WriteStopped format F s path batch properties after failure := by
  unfold writeParquet
  constructor
  · intro h
    split at h
    · rename_i hcreate
      cases h
      exact .create hcreate
    · rename_i hcreate
      split at h
      · rename_i hrefuse
        cases h
        exact .schema hcreate hrefuse
      · rename_i haccept
        split at h
        · rename_i hsend
          cases h
          exact .write hcreate haccept hsend
        · rename_i hsend
          obtain ⟨rfl, hencode⟩ := Prod.mk.inj h
          exact .encode hcreate haccept hsend hencode
  · intro h
    cases h with
    | create hcreate => simp only [hcreate]
    | schema hcreate hrefuse => simp only [hcreate, hrefuse]
    | write hcreate haccept hsend => simp only [hcreate, haccept, hsend]
    | encode hcreate haccept hsend hencode => simp only [hcreate, haccept, hsend, hencode]

theorem toParquet_fails_iff {failure : CallFailure} :
    table.toParquet T format F s path compression rowGroupSize = (after, .error failure) ↔
      WriteFails format table compression rowGroupSize F s path T after failure := by
  cases hprepare : table.prepare T format compression rowGroupSize with
  | error refusal =>
      rw [toParquet_of_unprepared hprepare]
      constructor
      · intro h
        cases h
        exact .refused (prepare_fails_iff.mp hprepare)
      · intro h
        cases h with
        | refused hrefused =>
            cases hprepare.symm.trans (prepare_fails_iff.mpr hrefused)
            rfl
        | stopped hprepared => cases hprepare.symm.trans hprepared
  | ok prepared =>
      obtain ⟨batch, properties⟩ := prepared
      rw [toParquet_of_prepared hprepare, Prod.mk.injEq, Except.mapError_eq_error]
      constructor
      · rintro ⟨rfl, err, herr, rfl⟩
        exact .stopped hprepare (writeParquet_eq_error.mp (Prod.ext rfl herr))
      · intro h
        cases h with
        | refused hrefused => cases hprepare.symm.trans (prepare_fails_iff.mpr hrefused)
        | stopped hprepared hstopped =>
            cases hprepare.symm.trans hprepared
            have hwrite := writeParquet_eq_error.mpr hstopped
            exact ⟨congrArg Prod.fst hwrite, _, congrArg Prod.snd hwrite, rfl⟩

theorem WriteStopped.panics {batch : RecordBatch} {properties : WriterProperties}
    (hprepare : table.prepare T format compression rowGroupSize = .ok (batch, properties))
    (h : WriteStopped format F s path batch properties after .panicked) :
    WriterPanics format table compression rowGroupSize F s path T := by
  cases h with
  | schema hcreate hpanic => exact ⟨batch, properties, _, hprepare, hcreate, Or.inl hpanic⟩
  | encode hcreate haccept hsend hpanic =>
      exact ⟨batch, properties, _, hprepare, hcreate,
        Or.inr ⟨haccept, congrArg Prod.snd hsend, hpanic⟩⟩

theorem WriterPanics.stopped (h : WriterPanics format table compression rowGroupSize F s path T) :
    ∃ batch properties after,
      table.prepare T format compression rowGroupSize = .ok (batch, properties) ∧
        WriteStopped format F s path batch properties after .panicked := by
  obtain ⟨batch, properties, created, hprepare, hcreate, hpanic | ⟨haccept, hsend, hpanic⟩⟩ := h
  · exact ⟨batch, properties, created, hprepare, .schema hcreate hpanic⟩
  · exact ⟨batch, properties, _, hprepare, .encode hcreate haccept (Prod.ext rfl hsend) hpanic⟩

theorem mapWriteErr_panicked {failure : Failure} :
    mapWriteErr T path failure = .panicked ↔ failure = .panicked := by
  cases failure with
  | parquet e => exact iff_of_false (fun h => by cases h) (fun h => by cases h)
  | panicked => exact iff_of_true rfl rfl

theorem toParquet_panics_iff :
    (table.toParquet T format F s path compression rowGroupSize).2 = .error .panicked ↔
      WriterPanics format table compression rowGroupSize F s path T := by
  constructor
  · intro h
    generalize hcall : table.toParquet T format F s path compression rowGroupSize = ended at h
    obtain ⟨after, result⟩ := ended
    cases h
    generalize hpanicked : CallFailure.panicked = failure at hcall
    cases toParquet_fails_iff.mp hcall with
    | refused => cases hpanicked
    | stopped hprepare hstopped =>
        cases mapWriteErr_panicked.mp hpanicked.symm
        exact hstopped.panics hprepare
  · intro h
    obtain ⟨batch, properties, after, hprepare, hstopped⟩ := h.stopped
    exact congrArg Prod.snd (toParquet_fails_iff.mpr (.stopped hprepare hstopped))

/-- The crate's own exception is raised for the codec, once the row groups have a size,
and a panic is the writer's. -/
theorem WriteFails.pyClass {failure : CallFailure}
    (h : WriteFails format table compression rowGroupSize F s path T after failure) :
    (failure.pyClass = .pydartError ∧ rowGroupSize ≠ 0 ∧ compression ∉ codecs ∧ after = s) ∨
      (failure.pyClass = .valueError ∧ (rowGroupSize = 0 ∨ compression ∈ codecs)) ∨
      (failure = .panicked ∧
        WriterPanics format table compression rowGroupSize F s path T) := by
  cases h with
  | refused hrefused =>
      cases hrefused with
      | rowGroupSize hzero => exact Or.inr (Or.inl ⟨rfl, Or.inl hzero⟩)
      | codec hsize hcodec => exact Or.inl ⟨rfl, hsize, hcodec, rfl⟩
      | empty _ hcodec | concat _ hcodec => exact Or.inr (Or.inl ⟨rfl, Or.inr hcodec⟩)
  | @stopped batch properties after failure hprepare hstopped =>
      obtain ⟨-, hsize, hproperties⟩ := prepare_eq_ok.mp hprepare
      have hcodec := buildWriterProperties_eq_ok.mp ⟨_, hproperties⟩
      cases failure with
      | parquet e => exact Or.inr (Or.inl ⟨rfl, Or.inr hcodec⟩)
      | panicked => exact Or.inr (Or.inr ⟨rfl, hstopped.panics hprepare⟩)

/-- Every way a write can fail, the state it leaves and the class of its exception. -/
theorem toParquet_failures (T : TextFormat) (format : ParquetFormat) (F : FileSystem)
    (s : F.State) (path : FilePath) (table : Table) (compression : String) (rowGroupSize : Nat)
    (after : F.State) (failure : CallFailure) :
    (table.toParquet T format F s path compression rowGroupSize = (after, .error failure) ↔
        WriteFails format table compression rowGroupSize F s path T after failure) ∧
      (table.toParquet T format F s path compression rowGroupSize = (after, .error failure) →
        (failure.pyClass = .pydartError ∧ rowGroupSize ≠ 0 ∧ compression ∉ codecs ∧ after = s) ∨
          (failure.pyClass = .valueError ∧ (rowGroupSize = 0 ∨ compression ∈ codecs)) ∨
          (failure = .panicked ∧
            WriterPanics format table compression rowGroupSize F s path T)) :=
  ⟨toParquet_fails_iff, fun h => (toParquet_fails_iff.mp h).pyClass⟩

end
end Pydart
