import Pydart.Parquet.Reference
import Pydart.Parquet.Select

/-! # Reading several files

`read_parquet_multi` stops at the first file that cannot be opened, has another
schema than the first file, or cannot be read; otherwise it concatenates.
-/

namespace Pydart

/-! ## Matching schemas -/

def FieldMatch (a b : Field) : Prop :=
  a.name = b.name ∧ a.dataType = b.dataType ∧ a.nullable = b.nullable ∧
    a.dictIsOrdered = b.dictIsOrdered

def SchemasMatch (a b : Schema) : Prop := List.Forall₂ FieldMatch a b

/-- The schemas agree before some position and differ there; `name` is the field's
there, from the first schema if it reaches that far. -/
def FirstDifference (a b : Schema) (name : String) : Prop :=
  ∃ i, SchemasMatch (a.take i) (b.take i) ∧
    ((∃ x y, a[i]? = some x ∧ b[i]? = some y ∧ ¬ FieldMatch x y ∧ name = x.name) ∨
      (∃ x, a[i]? = some x ∧ b[i]? = none ∧ name = x.name) ∨
      (∃ y, a[i]? = none ∧ b[i]? = some y ∧ name = y.name))

theorem fieldsMatch_iff {a b : Field} : fieldsMatch a b = true ↔ FieldMatch a b := by
  simp [fieldsMatch, FieldMatch, and_assoc]

theorem schemasMatch_equivalence : Equivalence SchemasMatch where
  refl a := List.forall₂_same.mpr fun _ _ => ⟨rfl, rfl, rfl, rfl⟩
  symm h := List.Forall₂.flip (h.imp fun _ _ ⟨h₁, h₂, h₃, h₄⟩ => ⟨h₁.symm, h₂.symm, h₃.symm, h₄.symm⟩)
  trans := by
    intro a b c hab hbc
    induction hab generalizing c with
    | nil =>
        cases hbc
        exact List.Forall₂.nil
    | cons hhead _ ih =>
        cases hbc with
        | cons hhead' hrest' =>
            obtain ⟨h₁, h₂, h₃, h₄⟩ := hhead
            obtain ⟨k₁, k₂, k₃, k₄⟩ := hhead'
            exact List.Forall₂.cons
              ⟨h₁.trans k₁, h₂.trans k₂, h₃.trans k₃, h₄.trans k₄⟩ (ih hrest')

theorem firstSchemaMismatch_eq_none {a b : Schema} :
    firstSchemaMismatch a b = none ↔ SchemasMatch a b := by
  induction a generalizing b with
  | nil => cases b <;> simp [firstSchemaMismatch, SchemasMatch]
  | cons x a ih =>
      cases b with
      | nil => simp [firstSchemaMismatch, SchemasMatch]
      | cons y b =>
          rw [firstSchemaMismatch, SchemasMatch, List.forall₂_cons, ← fieldsMatch_iff]
          split
          · rename_i hmatch
            rw [ih, SchemasMatch]
            simp [hmatch]
          · rename_i hmatch
            simp [hmatch]

theorem firstDifference_cons {x y : Field} {a b : Schema} {name : String} :
    FirstDifference (x :: a) (y :: b) name ↔
      (¬ FieldMatch x y ∧ name = x.name) ∨ (FieldMatch x y ∧ FirstDifference a b name) := by
  constructor
  · rintro ⟨i, hbefore, hdiff⟩
    cases i with
    | zero =>
        simp only [List.getElem?_cons_zero, Option.some.injEq, reduceCtorEq, false_and,
          and_false, exists_false, or_false] at hdiff
        obtain ⟨x', y', rfl, rfl, hne, rfl⟩ := hdiff
        exact Or.inl ⟨hne, rfl⟩
    | succ i =>
        rw [List.take_succ_cons, List.take_succ_cons, SchemasMatch, List.forall₂_cons] at hbefore
        simp only [List.getElem?_cons_succ] at hdiff
        exact Or.inr ⟨hbefore.1, i, hbefore.2, hdiff⟩
  · rintro (⟨hne, rfl⟩ | ⟨hmatch, i, hbefore, hdiff⟩)
    · exact ⟨0, List.Forall₂.nil, Or.inl ⟨x, y, rfl, rfl, hne, rfl⟩⟩
    · refine ⟨i + 1, List.Forall₂.cons hmatch hbefore, ?_⟩
      simpa only [List.getElem?_cons_succ] using hdiff

theorem firstSchemaMismatch_eq_some {a b : Schema} {name : String} :
    firstSchemaMismatch a b = some name ↔ FirstDifference a b name := by
  induction a generalizing b with
  | nil =>
      cases b with
      | nil => simp [firstSchemaMismatch, FirstDifference]
      | cons y b =>
          simp only [firstSchemaMismatch, Option.some.injEq]
          constructor
          · rintro rfl
            exact ⟨0, List.Forall₂.nil, Or.inr (Or.inr ⟨y, rfl, rfl, rfl⟩)⟩
          · rintro ⟨i, hbefore, hdiff⟩
            cases i with
            | zero => simpa [eq_comm] using hdiff
            | succ i => simp [SchemasMatch] at hbefore
  | cons x a ih =>
      cases b with
      | nil =>
          simp only [firstSchemaMismatch, Option.some.injEq]
          constructor
          · rintro rfl
            exact ⟨0, List.Forall₂.nil, Or.inr (Or.inl ⟨x, rfl, rfl, rfl⟩)⟩
          · rintro ⟨i, hbefore, hdiff⟩
            cases i with
            | zero => simpa [eq_comm] using hdiff
            | succ i => simp [SchemasMatch] at hbefore
      | cons y b =>
          rw [firstSchemaMismatch, firstDifference_cons, ← fieldsMatch_iff, ← ih]
          split
          · rename_i hmatch
            simp [hmatch]
          · rename_i hmatch
            simp [hmatch, eq_comm]

/-! ## Matching files read alike -/

section

variable {C : Crates}

theorem SchemasMatch.sameColumns {a b : Schema} (h : SchemasMatch a b) : SameColumns a b :=
  h.imp fun _ _ ⟨_, htype, hnull, _⟩ => ⟨htype, hnull⟩

theorem selectsColumn_congr {names : List String} {a b : Field} (h : FieldMatch a b) :
    selectsColumn names a = selectsColumn names b := by
  unfold selectsColumn leafPaths
  rw [h.1, h.2.1]

theorem maskedColumns_congr {names : List String} {a b : Schema} (h : SchemasMatch a b) :
    maskedColumns names a = maskedColumns names b := by
  have hlen := h.length_eq
  unfold maskedColumns
  rw [hlen]
  apply List.filter_congr
  intro i hi
  rw [List.mem_range] at hi
  have ha : a[i]? = some a[i] := List.getElem?_eq_getElem (by omega)
  have hb : b[i]? = some b[i] := List.getElem?_eq_getElem hi
  rw [ha, hb, Option.any_some, Option.any_some]
  exact selectsColumn_congr (forall₂_getElem? h ha hb)

theorem indexOf_congr {a b : Schema} (h : SchemasMatch a b) (name : String) :
    indexOf a name = indexOf b name := by
  have hfind : a.findIdx? (fun field => decide (field.name = name)) =
      b.findIdx? (fun field => decide (field.name = name)) := by
    induction h with
    | nil => rfl
    | cons hhead _ ih => rw [List.findIdx?_cons, List.findIdx?_cons, hhead.1, ih]
  unfold indexOf
  rw [hfind]

theorem columnView_match {a b : Schema} (h : SchemasMatch a b) (columns : Option (List String)) :
    SchemasMatch (columnView C a columns a) (columnView C b columns b) := by
  cases columns with
  | none => exact h
  | some names =>
      have hmask : C.projectionMask a names = C.projectionMask b names := by
        rw [C.projectionMask_eq, C.projectionMask_eq, maskedColumns_congr h]
      have hpick : SchemasMatch (pick a (C.projectionMask b names))
          (pick b (C.projectionMask b names)) := forall₂_pick h _
      have hindices : requestedIndices (pick a (C.projectionMask b names)) names =
          requestedIndices (pick b (C.projectionMask b names)) names := by
        unfold requestedIndices
        simp only [indexOf_congr hpick]
      simp only [columnView, hmask, hindices]
      exact forall₂_pick hpick _

end

/-! ## The loop over the files -/

section

variable (C : Crates) {Path : Type} (disk : Disk Path) (columns : Option (List String))
    (filters : List FilterExpr)

def ReadsAs (schema : Schema) (path : Path) (batch : RecordBatch) : Prop :=
  (∃ raw, readRawSchema disk path = .ok raw ∧ SchemasMatch schema raw) ∧
    readParquet C disk path columns filters = .ok batch

/-- How the first file that fails ends the call: it does not open, its schema
differs, or its own read fails, in this order. -/
def FailsAs (first : Path) (schema : Schema) (path : Path) (failure : MultiFailure) : Prop :=
  (∃ source, readRawSchema disk path = .error source ∧
      failure = .error (.read (disk.display path) source)) ∨
    ∃ raw, readRawSchema disk path = .ok raw ∧
      ((∃ column, FirstDifference schema raw column ∧
          failure = .error (.schemaMismatch (disk.display first) (disk.display path) column)) ∨
        (SchemasMatch schema raw ∧
          ((∃ source, readParquet C disk path columns filters = .error (.parquet source) ∧
              failure = .error (.read (disk.display path) source)) ∨
            (readParquet C disk path columns filters = .error .panicked ∧ failure = .panicked))))

variable {C disk columns filters}

theorem readMatching_eq_ok {first path : Path} {schema : Schema} {batch : RecordBatch} :
    readMatching C disk first schema columns filters path = .ok batch ↔
      ReadsAs C disk columns filters schema path batch := by
  unfold readMatching ReadsAs
  cases hraw : readRawSchema disk path with
  | error source => simp [liftParquet, mapReadErr]
  | ok raw =>
      simp only [liftParquet, mapReadErr, Except.ok_bind, Except.ok.injEq, exists_eq_left',
        ← firstSchemaMismatch_eq_none]
      cases hdiff : firstSchemaMismatch schema raw with
      | some column => simp [throw, throwThe, MonadExceptOf.throw]
      | none =>
          cases readParquet C disk path columns filters with
          | ok batch' => simp
          | error failure => cases failure <;> simp

theorem readMatching_eq_error {first path : Path} {schema : Schema} {failure : MultiFailure} :
    readMatching C disk first schema columns filters path = .error failure ↔
      FailsAs C disk columns filters first schema path failure := by
  unfold readMatching FailsAs
  cases hraw : readRawSchema disk path with
  | error source => simp [liftParquet, mapReadErr, eq_comm]
  | ok raw =>
      simp only [liftParquet, mapReadErr, Except.ok_bind, reduceCtorEq, false_and, exists_false,
        false_or, Except.ok.injEq, exists_eq_left', ← firstSchemaMismatch_eq_some,
        ← firstSchemaMismatch_eq_none]
      cases hdiff : firstSchemaMismatch schema raw with
      | some column => simp [throw, throwThe, MonadExceptOf.throw, eq_comm]
      | none =>
          cases readParquet C disk path columns filters with
          | ok batch => simp
          | error failure' => cases failure' <;> simp [eq_comm]

theorem readRawSchema_eq_ok {path : Path} {schema : Schema} :
    readRawSchema disk path = .ok schema ↔
      ∃ file, disk.openFile path = .ok file ∧ file.schema = schema := by
  unfold readRawSchema
  rw [Except.bind_eq_ok]
  constructor
  · rintro ⟨file, hopen, h⟩
    cases h
    exact ⟨file, hopen, rfl⟩
  · rintro ⟨file, hopen, rfl⟩
    exact ⟨file, hopen, rfl⟩

theorem ReadsAs.schema_match {schema : Schema} {path : Path} {batch : RecordBatch}
    (h : ReadsAs C disk columns filters schema path batch) :
    SchemasMatch (columnView C schema columns schema) batch.schema := by
  obtain ⟨⟨raw, hraw, hmatch⟩, hread⟩ := h
  obtain ⟨file, hopen, rfl⟩ := readRawSchema_eq_ok.mp hraw
  obtain ⟨file', hopen', groups, -, hrows⟩ := readParquet_eq_ok.mp hread
  rw [hopen] at hopen'
  cases hopen'
  obtain ⟨-, hemit⟩ := readRowGroups_eq_ok.mp hrows
  rw [(emitRows_view hemit).1]
  exact columnView_match hmatch columns

theorem joinBatches_readsAs (first : Path) {schema : Schema} {paths : List Path}
    {batch : RecordBatch} {batches : List RecordBatch}
    (h : List.Forall₂ (ReadsAs C disk columns filters schema) paths (batch :: batches)) :
    ∃ result, joinBatches C disk first (batch :: batches) = .ok result ∧
      result.schema = batch.schema ∧ result.rows = (batch :: batches).flatMap (·.rows) := by
  cases batches with
  | nil => exact ⟨batch, rfl, rfl, by simp⟩
  | cons second batches =>
      have hschemas : ∀ b ∈ batch :: second :: batches,
          SchemasMatch (columnView C schema columns schema) b.schema := by
        intro b hb
        obtain ⟨i, hi, rfl⟩ := List.getElem_of_mem hb
        have hlen := h.length_eq
        exact (forall₂_getElem? h (List.getElem?_eq_getElem (hlen ▸ hi))
          (List.getElem?_eq_getElem hi)).schema_match
      have hsame : ∀ b ∈ batch :: second :: batches, SameColumns b.schema batch.schema := by
        intro b hb
        exact (schemasMatch_equivalence.trans (schemasMatch_equivalence.symm (hschemas b hb))
          (hschemas batch List.mem_cons_self)).sameColumns
      obtain ⟨result, hok, hschema, hrows⟩ := C.concatBatches_ok (by simp) hsame
      exact ⟨result, by simp only [joinBatches, hok, liftArrow, mapReadErr], hschema, hrows⟩

/-- A call succeeds when every file reads with a matching schema; the result holds
the files' rows in list order. -/
theorem readParquetMulti_eq_ok {first : Path} {rest : List Path} {batch : RecordBatch} :
    readParquetMulti C disk (first :: rest) columns filters = .ok batch ↔
      ∃ schema batches, readRawSchema disk first = .ok schema ∧
        List.Forall₂ (ReadsAs C disk columns filters schema) (first :: rest) batches ∧
        batches.head?.map RecordBatch.schema = some batch.schema ∧
        batch.rows = batches.flatMap (·.rows) := by
  rw [readParquetMulti]
  cases hraw : readRawSchema disk first with
  | error source =>
      simp only [liftParquet, mapReadErr, Except.error_bind, reduceCtorEq, false_and, exists_false]
  | ok schema =>
      simp only [liftParquet, mapReadErr, Except.ok_bind, Except.bind_eq_ok, Except.mapM_eq_ok,
        readMatching_eq_ok, Except.ok.injEq, exists_eq_left', exists_and_left]
      apply exists_congr
      intro batches
      constructor
      · rintro ⟨hall, hjoin⟩
        cases batches with
        | nil => cases hall
        | cons b batches =>
            obtain ⟨result, hok, hschema, hrows⟩ := joinBatches_readsAs first hall
            rw [hjoin] at hok
            cases hok
            exact ⟨hall, by simp [hschema], hrows⟩
      · rintro ⟨hall, hschema, hrows⟩
        refine ⟨hall, ?_⟩
        cases batches with
        | nil => cases hall
        | cons b batches =>
            obtain ⟨result, hok, hschema', hrows'⟩ := joinBatches_readsAs first hall
            rw [hok]
            congr 1
            apply RecordBatch.ext_rows
            · rw [hschema']
              simpa using hschema
            · rw [hrows', hrows]

theorem readParquetMulti_eq_error {first : Path} {rest : List Path} {failure : MultiFailure} :
    readParquetMulti C disk (first :: rest) columns filters = .error failure ↔
      (∃ source, readRawSchema disk first = .error source ∧
          failure = .error (.read (disk.display first) source)) ∨
        ∃ schema, readRawSchema disk first = .ok schema ∧
          ∃ before path after, first :: rest = before ++ path :: after ∧
            (∀ p ∈ before, ∃ batch, ReadsAs C disk columns filters schema p batch) ∧
            FailsAs C disk columns filters first schema path failure := by
  rw [readParquetMulti]
  cases hraw : readRawSchema disk first with
  | error source =>
      simp only [liftParquet, mapReadErr, Except.error_bind, Except.error.injEq, reduceCtorEq,
        false_and, exists_false, or_false, exists_eq_left']
      exact eq_comm
  | ok schema =>
      simp only [liftParquet, mapReadErr, Except.ok_bind, reduceCtorEq, false_and, exists_false,
        false_or, Except.ok.injEq, exists_eq_left']
      have hfails : (∃ before path after, first :: rest = before ++ path :: after ∧
          (∀ p ∈ before, ∃ batch, ReadsAs C disk columns filters schema p batch) ∧
          FailsAs C disk columns filters first schema path failure) ↔
            (first :: rest).mapM (readMatching C disk first schema columns filters) =
              .error failure := by
        simp only [Except.mapM_eq_error, readMatching_eq_ok, readMatching_eq_error]
      rw [hfails]
      cases hmap : (first :: rest).mapM (readMatching C disk first schema columns filters) with
      | error e => simp only [Except.error_bind, Except.error.injEq]
      | ok batches =>
          have hall := Except.mapM_eq_ok.mp hmap
          simp only [readMatching_eq_ok] at hall
          cases batches with
          | nil => cases hall
          | cons b batches =>
              obtain ⟨result, hok, -⟩ := joinBatches_readsAs first hall
              simp only [Except.ok_bind, hok, reduceCtorEq]

def fileRows (C : Crates) (disk : Disk Path) (columns : Option (List String))
    (filters : List FilterExpr) (path : Path) : List (List Slot) :=
  match readParquet C disk path columns filters with
  | .ok batch => batch.rows
  | .error _ => []

/-- Success is a matter of the set of files: each pair matches and each one reads. -/
theorem readParquetMulti_isOk_iff {first : Path} {rest : List Path} :
    (∃ batch, readParquetMulti C disk (first :: rest) columns filters = .ok batch) ↔
      ∀ p ∈ first :: rest, (∃ batch, readParquet C disk p columns filters = .ok batch) ∧
        ∃ schema, readRawSchema disk p = .ok schema ∧
          ∀ q ∈ first :: rest, ∃ other, readRawSchema disk q = .ok other ∧
            SchemasMatch schema other := by
  simp only [readParquetMulti_eq_ok]
  constructor
  · rintro ⟨batch, schema, batches, -, hall, -, -⟩ p hp
    have hone : ∀ q ∈ first :: rest, ∃ b, ReadsAs C disk columns filters schema q b :=
      fun q hq => (forall₂_exists_of_mem hall hq).imp fun _ h => h.2
    obtain ⟨b, ⟨raw, hraw, hmatch⟩, hread⟩ := hone p hp
    refine ⟨⟨b, hread⟩, raw, hraw, ?_⟩
    intro q hq
    obtain ⟨b', ⟨raw', hraw', hmatch'⟩, -⟩ := hone q hq
    exact ⟨raw', hraw', schemasMatch_equivalence.trans
      (schemasMatch_equivalence.symm hmatch) hmatch'⟩
  · intro h
    obtain ⟨-, schema, hschema, hothers⟩ := h first List.mem_cons_self
    have hbatches : ∀ paths : List Path, (∀ p ∈ paths, p ∈ first :: rest) →
        ∃ batches, List.Forall₂ (ReadsAs C disk columns filters schema) paths batches := by
      intro paths hpaths
      induction paths with
      | nil => exact ⟨[], List.Forall₂.nil⟩
      | cons p paths ih =>
          obtain ⟨batches, hrest⟩ := ih (fun q hq => hpaths q (List.mem_cons_of_mem _ hq))
          obtain ⟨⟨b, hread⟩, -⟩ := h p (hpaths p List.mem_cons_self)
          exact ⟨b :: batches, List.Forall₂.cons
            ⟨hothers p (hpaths p List.mem_cons_self), hread⟩ hrest⟩
    obtain ⟨batches, hall⟩ := hbatches (first :: rest) (fun p hp => hp)
    cases batches with
    | nil => cases hall
    | cons b batches =>
        obtain ⟨result, -, hresult, hrows⟩ := joinBatches_readsAs first hall
        exact ⟨result, schema, b :: batches, hschema, hall, by simp [hresult], hrows⟩

theorem readParquetMulti_rows {first : Path} {rest : List Path} {batch : RecordBatch}
    (h : readParquetMulti C disk (first :: rest) columns filters = .ok batch) :
    batch.rows = (first :: rest).flatMap (fileRows C disk columns filters) := by
  obtain ⟨schema, batches, -, hall, -, hrows⟩ := readParquetMulti_eq_ok.mp h
  rw [hrows]
  generalize first :: rest = paths at hall
  clear hrows
  induction hall with
  | nil => rfl
  | cons hhead _ ih =>
      rw [List.flatMap_cons, List.flatMap_cons, ih]
      simp only [fileRows, hhead.2]

end

variable (C : Crates) {Path : Type} (disk : Disk Path)

/-- The strict read of several files: when it succeeds and with which rows, how it
fails, and that neither success nor a file's rows depend on the order. -/
theorem readParquetMulti_strict (first : Path) (rest : List Path)
    (columns : Option (List String)) (filters : List FilterExpr) :
    (∀ batch, readParquetMulti C disk (first :: rest) columns filters = .ok batch ↔
        ∃ schema batches, readRawSchema disk first = .ok schema ∧
          List.Forall₂ (ReadsAs C disk columns filters schema) (first :: rest) batches ∧
          batches.head?.map RecordBatch.schema = some batch.schema ∧
          batch.rows = batches.flatMap (·.rows)) ∧
      (∀ failure, readParquetMulti C disk (first :: rest) columns filters = .error failure ↔
        (∃ source, readRawSchema disk first = .error source ∧
            failure = .error (.read (disk.display first) source)) ∨
          ∃ schema, readRawSchema disk first = .ok schema ∧
            ∃ before path after, first :: rest = before ++ path :: after ∧
              (∀ p ∈ before, ∃ batch, ReadsAs C disk columns filters schema p batch) ∧
              FailsAs C disk columns filters first schema path failure) ∧
      Equivalence SchemasMatch ∧
      (∀ batch, readParquetMulti C disk (first :: rest) columns filters = .ok batch →
        ∀ p ∈ first :: rest, ∀ q ∈ first :: rest, ∃ a b, readRawSchema disk p = .ok a ∧
          readRawSchema disk q = .ok b ∧ SchemasMatch a b) ∧
      ∀ first' rest', (first' :: rest').Perm (first :: rest) →
        ((∃ batch, readParquetMulti C disk (first' :: rest') columns filters = .ok batch) ↔
          ∃ batch, readParquetMulti C disk (first :: rest) columns filters = .ok batch) ∧
        ∀ batch batch', readParquetMulti C disk (first :: rest) columns filters = .ok batch →
          readParquetMulti C disk (first' :: rest') columns filters = .ok batch' →
          batch.rows = (first :: rest).flatMap (fileRows C disk columns filters) ∧
          batch'.rows = (first' :: rest').flatMap (fileRows C disk columns filters) := by
  refine ⟨fun _ => readParquetMulti_eq_ok, fun _ => readParquetMulti_eq_error,
    schemasMatch_equivalence, ?_, ?_⟩
  · intro batch h p hp q hq
    obtain ⟨-, a, ha, hothers⟩ := readParquetMulti_isOk_iff.mp ⟨batch, h⟩ p hp
    obtain ⟨b, hb, hmatch⟩ := hothers q hq
    exact ⟨a, b, ha, hb, hmatch⟩
  · intro first' rest' hperm
    refine ⟨?_, fun batch batch' h h' => ⟨readParquetMulti_rows h, readParquetMulti_rows h'⟩⟩
    simp only [readParquetMulti_isOk_iff, hperm.mem_iff]

end Pydart
