import Pydart.Pandas.Columns
import Pydart.Pandas.Reference

/-! # Copy records and the strict check

A record says zero-copy exactly when the column's array was borrowed, or came as
one Arrow batch at most. The strict check reads the records and nothing else.
-/

namespace Pydart

section

variable {P : PandasCrates} {df : DataFrame} {label : Label} {series : Series}
    {column : ConvertedColumn} {backend : DtypeBackend} {batchCount : Nat}

theorem Classified.arrow_iff {kind : ArrowKind} (h : Classified series.dtype backend kind) :
    backend = .arrow ↔ ∃ array, series = .arrow array := by
  cases series <;> simp only [Series.dtype] at h <;> cases h <;> simp

theorem Classified.categorical_iff {dtype : Dtype} {kind : ArrowKind}
    (h : Classified dtype backend kind) : kind = .categorical ↔ backend = .categorical := by
  cases h <;> simp_all

/-! ## One record -/

theorem Borrowed.shared (h : Borrowed label series column) : column.array.copied = false := by
  obtain ⟨values, t, ht, -, -, -, -, -, harray⟩ := h
  rw [harray]

theorem StreamedRecord.names {record : ColumnConversionRecord}
    (h : StreamedRecord P label series backend batchCount record) :
    record.column = label.text ∧ record.dtype = P.str series.dtype := by
  obtain ⟨kind, flag, -, -, -, hrecord⟩ := h
  rw [hrecord]
  cases planColumn backend kind flag <;> split <;> exact ⟨rfl, rfl⟩

theorem StreamedRecord.zeroCopy_iff {record : ColumnConversionRecord}
    (h : StreamedRecord P label series backend batchCount record) :
    (record.zeroCopy = true ↔ backend = .arrow ∧ batchCount ≤ 1) ∧
      (record.reason.isSome = true ↔ record.zeroCopy = false) := by
  obtain ⟨kind, flag, hclassified, -, hstream, hrecord⟩ := h
  rw [hrecord]
  by_cases hcount : batchCount > 1
  · rw [if_pos hcount]
    simp only [ColumnConversionRecord.corrected, Option.isSome_some, Bool.false_eq_true, false_iff,
      not_and, and_true]
    omega
  · rw [if_neg hcount]
    have hplan : planColumn backend kind flag = .zeroCopyBorrow ↔ _ :=
      planColumn_eq_zeroCopyBorrow_iff
    cases hp : planColumn backend kind flag with
    | zeroCopyBorrow =>
        rcases hplan.mp hp with ⟨harrow, -⟩ | hnumpy
        · simp only [id, ColumnConversionRecord.fromPlan, harrow, true_and, true_iff,
            Option.isSome_none, Bool.false_eq_true, Bool.true_eq_false, iff_self, and_true]
          omega
        · exact absurd hnumpy hstream
    | requiresCopy reason =>
        have hnot : backend ≠ .arrow := by
          intro harrow
          have hkind : kind ≠ .categorical := by
            rw [ne_eq, hclassified.categorical_iff, harrow]
            decide
          rw [hplan.mpr (Or.inl ⟨harrow, hkind⟩)] at hp
          cases hp
        simp [ColumnConversionRecord.fromPlan, hnot]

/-- Where the column's record does not promise zero-copy, its buffers were copied,
unless there is nothing to copy. -/
theorem Streamed.copied (h : Streamed P label series backend batchCount column)
    (hstated : StreamedRecord P label series backend batchCount column.record) :
    (column.record.zeroCopy = true → column.array.copied = false) ∧
      (column.record.zeroCopy = false →
        column.array.copied = true ∨ column.array.array.slots = []) := by
  have hzero := hstated.zeroCopy_iff.1
  obtain ⟨table, kind, flag, htable, hlen, hclassified, -, -, hjoined, -⟩ := h
  have hcopied := hjoined.copied
  have hslots := hjoined.slots
  match hbatches : table.batches with
  | [] =>
      rw [hbatches] at hcopied hslots
      exact ⟨fun _ => hcopied, fun _ => Or.inr hslots⟩
  | [batch] =>
      rw [hbatches] at hcopied hlen
      have hbatch : batch ∈ table.batches := by rw [hbatches]; exact List.mem_cons_self
      constructor
      · intro hrecord
        obtain ⟨array, rfl⟩ := hclassified.arrow_iff.mp (hzero.mp hrecord).1
        rw [hcopied]
        exact P.stream_shares htable batch hbatch
      · intro hrecord
        refine Or.inl ?_
        rw [hcopied]
        apply P.stream_copies _ htable batch hbatch
        rintro array rfl
        have harrow := hclassified.arrow_iff.mpr ⟨array, rfl⟩
        rw [hzero.mpr ⟨harrow, by simp [← hlen]⟩] at hrecord
        cases hrecord
  | first :: second :: rest =>
      rw [hbatches] at hcopied hlen
      constructor
      · intro hrecord
        have := (hzero.mp hrecord).2
        simp [← hlen] at this
      · exact fun _ => Or.inl hcopied

/-! ## One arm for each column -/

theorem Streamed.not_borrowed {column' : ConvertedColumn}
    (h : Streamed P label series backend batchCount column) : ¬ Borrowed label series column' := by
  rintro ⟨values, t, ht, rfl, hflat, -⟩
  obtain ⟨table, kind, flag, -, -, hclassified, hcontiguous, hnot, -⟩ := h
  cases hclassified
  rw [isContiguous, Series.cContiguous, hflat, Except.ok.injEq] at hcontiguous
  exact hnot ⟨rfl, rfl, hcontiguous.symm⟩

/-- The export of a column decides its batches, and its dtype whether it is Arrow memory. -/
theorem Streamed.unique {column' : ConvertedColumn} {batchCount' : Nat}
    (h : Streamed P label series backend batchCount column)
    (h' : Streamed P label series .arrow batchCount' column') :
    backend = .arrow ∧ batchCount = batchCount' := by
  obtain ⟨table, kind, flag, htable, rfl, hclassified, -⟩ := h
  obtain ⟨table', kind', flag', htable', rfl, hclassified', -⟩ := h'
  cases htable.symm.trans htable'
  exact ⟨hclassified.arrow_iff.mpr (hclassified'.arrow_iff.mp rfl), rfl⟩

/-- The column was borrowed, or is Arrow memory that came as one batch at most. -/
def WithoutCopy (P : PandasCrates) (label : Label) (series : Series) (column : ConvertedColumn) :
    Prop :=
  Borrowed label series column ∨ ∃ batchCount ≤ 1, Streamed P label series .arrow batchCount column

structure Honest (P : PandasCrates) (label : Label) (series : Series) (column : ConvertedColumn) :
    Prop where
  name : column.record.column = label.text
  dtype : column.record.dtype = P.str series.dtype
  zeroCopy : column.record.zeroCopy = true ↔ WithoutCopy P label series column
  reason : column.record.reason.isSome = true ↔ column.record.zeroCopy = false
  shared : column.record.zeroCopy = true → column.array.copied = false
  copied : column.record.zeroCopy = false →
    column.array.copied = true ∨ column.array.array.slots = []

theorem honest_of_convertColumn (hmem : (label, series) ∈ df.columns)
    (h : convertColumn P df label = .ok column.state) : Honest P label series column := by
  obtain ⟨series', backend, column', hitem, hstate, -, harm⟩ := convertColumn_eq_ok h
  cases getItem_of_mem hitem hmem
  cases ConvertedColumn.state_injective hstate
  rcases harm with ⟨-, hborrowed, hrecord⟩ | ⟨count, hstreamed, hrecord⟩
  · have hcopy : column.record.zeroCopy = true := by rw [hrecord]; rfl
    refine ⟨by rw [hrecord]; rfl, by rw [hrecord]; rfl,
      ⟨fun _ => Or.inl hborrowed, fun _ => hcopy⟩, by rw [hrecord]; simp [borrowedRecord],
      fun _ => hborrowed.shared, ?_⟩
    intro hfalse
    rw [hcopy] at hfalse
    cases hfalse
  · obtain ⟨hname, hdtype⟩ := hrecord.names
    obtain ⟨hiff, hreason⟩ := hrecord.zeroCopy_iff
    refine ⟨hname, hdtype, ⟨fun hcopy => ?_, ?_⟩, hreason, (hstreamed.copied hrecord).1,
      (hstreamed.copied hrecord).2⟩
    · obtain ⟨rfl, hcount⟩ := hiff.mp hcopy
      exact Or.inr ⟨count, hcount, hstreamed⟩
    · rintro (hborrowed | ⟨count', hcount, hshared⟩)
      · exact absurd hborrowed hstreamed.not_borrowed
      · obtain ⟨harrow, rfl⟩ := hstreamed.unique hshared
        exact hiff.mpr ⟨harrow, hcount⟩

/-! ## The strict check -/

theorem checkStrict_eq_ok {records : List ColumnConversionRecord} :
    checkStrict P records = .ok () ↔ ∀ record ∈ records, record.zeroCopy = true := by
  have hnone : records.find? (fun record => !record.zeroCopy) = none ↔
      ∀ record ∈ records, record.zeroCopy = true := by
    rw [List.find?_eq_none]
    simp
  rw [← hnone]
  unfold checkStrict
  split
  · simp_all
  · simp_all

/-- The message of the strict check for a record. -/
def copyRequired (P : PandasCrates) (record : ColumnConversionRecord) (reason : String) :
    PydartError :=
  .zeroCopyRequired ("column " ++ P.debug record.column ++ " (dtype=" ++ record.dtype ++
    ") requires a copy: " ++ reason)

theorem checkStrict_error {before after : List ColumnConversionRecord}
    {record : ColumnConversionRecord} (hbefore : ∀ r ∈ before, r.zeroCopy = true)
    (hrecord : record.zeroCopy = false) {reason : String} (hreason : record.reason = some reason) :
    checkStrict P (before ++ record :: after) = .error (copyRequired P record reason) := by
  have hfind : (before ++ record :: after).find? (fun record => !record.zeroCopy) = some record := by
    rw [List.find?_append, List.find?_eq_none.mpr (by simpa using hbefore)]
    simp [hrecord]
  unfold checkStrict
  rw [hfind]
  simp only [hreason, Option.getD_some]
  rfl

variable (P)

/-- Every record is honest and independent of the others, and the strict import
succeeds exactly when all are zero-copy. -/
theorem fromPandas_records (df : DataFrame) {outcome : FromPandasOutcome}
    (h : fromPandas P df = .ok outcome) :
    (∀ state columnName next, fromPandasStep P df state columnName = .ok next →
      ∃ record, next.records = state.records ++ [record]) ∧
    outcome.records.length = df.columns.length ∧
    (∀ (j : Nat) label series record, df.columns[j]? = some (label, series) →
      outcome.records[j]? = some record →
        ∃ column, convertColumn P df label = .ok column.state ∧ column.record = record ∧
          outcome.batch.column j = some column.array.array ∧ Honest P label series column) ∧
    (∀ table, Table.fromPandas P df true = .ok table ↔
      (∀ record ∈ outcome.records, record.zeroCopy = true) ∧
        Table.fromPandas P df false = .ok table) ∧
    (∀ before record after, outcome.records = before ++ record :: after →
      (∀ r ∈ before, r.zeroCopy = true) → record.zeroCopy = false →
        ∃ reason, record.reason = some reason ∧
          Table.fromPandas P df true = .error (copyRequired P record reason)) := by
  obtain ⟨columns, hcolumns, hbatch, hrecords⟩ := fromPandas_eq_ok.mp h
  have hstrict : ∀ strict, Table.fromPandas P df strict =
      (if strict then checkStrict P outcome.records else .ok ()) >>= fun _ =>
        .ok ⟨.ofBatch outcome.batch, outcome.records⟩ := by
    intro strict
    unfold Table.fromPandas
    rw [h]
    cases strict <;> rfl
  refine ⟨?_, ?_, ?_, ?_, ?_⟩
  · intro state columnName next hstep
    rw [fromPandasStep_eq, Except.map_eq_ok] at hstep
    obtain ⟨single, hsingle, rfl⟩ := hstep
    obtain ⟨-, -, column, -, rfl, -⟩ := convertColumn_eq_ok hsingle
    exact ⟨column.record, rfl⟩
  · rw [hrecords, List.length_map, hcolumns.length_eq]
  · intro j label series record hpair hrecord
    rw [hrecords, List.getElem?_map, Option.map_eq_some_iff] at hrecord
    obtain ⟨column, hcolumn, rfl⟩ := hrecord
    obtain ⟨column', hcolumn', hconvert, -, -, harray⟩ := hcolumns.column hbatch hpair
    cases hcolumn.symm.trans hcolumn'
    exact ⟨column, hconvert, rfl, harray, honest_of_convertColumn (List.mem_of_getElem? hpair) hconvert⟩
  · intro table
    rw [hstrict true, hstrict false, ← checkStrict_eq_ok (P := P), Except.bind_eq_ok]
    constructor
    · rintro ⟨_, hcheck, htable⟩
      exact ⟨hcheck, htable⟩
    · rintro ⟨hcheck, htable⟩
      exact ⟨_, hcheck, htable⟩
  · intro before record after hsplit hbefore hrecord
    have hmem : record ∈ outcome.records := by simp [hsplit]
    rw [hrecords] at hmem
    obtain ⟨column, hcolumn, rfl⟩ := List.mem_map.mp hmem
    obtain ⟨j, hj⟩ := List.mem_iff_getElem?.mp hcolumn
    obtain ⟨⟨label, series⟩, hpair⟩ : ∃ pair, df.columns[j]? = some pair := by
      have hlen := hcolumns.length_eq
      obtain ⟨hlt, -⟩ := List.getElem?_eq_some_iff.mp hj
      exact ⟨df.columns[j], List.getElem?_eq_getElem (by omega)⟩
    have hconvert := forall₂_getElem? hcolumns hpair hj
    have hreason :=
      (honest_of_convertColumn (List.mem_of_getElem? hpair) hconvert).reason.mpr hrecord
    obtain ⟨reason, hreason⟩ := Option.isSome_iff_exists.mp hreason
    refine ⟨reason, hreason, ?_⟩
    rw [hstrict true, hsplit, if_pos rfl, checkStrict_error hbefore hrecord hreason]
    rfl

/-! ## A flat column before a chunked one -/

def flatIntegers : NumpyArray where
  dtype := .int64
  native := true
  values := [.int 1, .int 2]
  cContiguous := true
  typed := by
    intro t h
    cases h
    decide
  flat _ := rfl

def chunkedIntegers : ChunkedArray where
  dataType := .int64
  chunks := [[some (.int 3)], [some (.int 4)]]
  typed := by
    intro chunk hchunk v hv
    have hslots : ∀ chunk ∈ [[some (Value.int 3)], [some (.int 4)]], ∀ slot ∈ chunk,
        slot.all (Value.hasType .int64) = true := by decide
    exact hslots chunk hchunk (some v) hv

def mixedFrame : DataFrame where
  columns := [(.str "a", .numeric flatIntegers), (.str "b", .arrow chunkedIntegers)]
  numRows := 2
  sized := by decide

theorem fromPandas_records_mixedFrame :
    ∃ outcome reason, fromPandas referencePandas mixedFrame = .ok outcome ∧
      outcome.records =
        [⟨"a", "int64", true, none⟩, ⟨"b", "int64[pyarrow]", false, some reason⟩] ∧
      Table.fromPandas referencePandas mixedFrame true =
        .error (copyRequired referencePandas ⟨"b", "int64[pyarrow]", false, some reason⟩ reason) := by
  obtain ⟨outcome, reason, hok, hrecords⟩ :
      ∃ outcome reason, fromPandas referencePandas mixedFrame = .ok outcome ∧
        outcome.records =
          [⟨"a", "int64", true, none⟩, ⟨"b", "int64[pyarrow]", false, some reason⟩] :=
    ⟨_, _, by rfl, by rfl⟩
  obtain ⟨-, -, -, -, hstrict⟩ := fromPandas_records referencePandas mixedFrame hok
  obtain ⟨_, hreason, herror⟩ := hstrict [_] _ [] hrecords (by simp) rfl
  cases hreason
  exact ⟨outcome, reason, hok, hrecords, herror⟩

end
end Pydart
