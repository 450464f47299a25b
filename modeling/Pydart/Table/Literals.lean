import Pydart.Parquet.Integers
import Pydart.Table.Reference
import Pydart.Table.Rows

/-! # Integer literals past 64 bits

An integer that is no `i64` reaches the filter as a float: rounded, then cast to
the column's type, and null when it does not fit. The read is exact on the rows
where the rounding makes no difference and nothing else is lost.
-/

namespace Pydart

open Ieee Ieee.Format

/-! ## The literal -/

def Op.text : Op → String
  | .eq => "=="
  | .ne => "!="
  | .lt => "<"
  | .le => "<="
  | .gt => ">"
  | .ge => ">="

theorem parseFilterOperator_text (column : String) (op : Op) :
    parseFilterOperator column op.text = .ok op := by
  cases op <;> rfl

def roundedFilter (column : String) (op : Op) (n : Int) : FilterExpr :=
  ⟨column, op, .float64 (Binary.ofInt binary64 n)⟩

def roundedLiteral (n : Int) : Int := (Binary.ofInt binary64 n).truncate

theorem intAsFloat_eq_some {n : Int} {x : Binary binary64} (h : intAsFloat n = some x) :
    x = Binary.ofInt binary64 n ∧ x.isFinite = true := by
  unfold intAsFloat at h
  split at h
  · rename_i hfin
    cases h
    exact ⟨rfl, hfin⟩
  · cases h

theorem parseFilterValue_wide {T : TextFormat} {n : Int} (hn : fitsI64 n = false)
    {value : ScalarValue} (h : parseFilterValue T (.int n) = .ok value) :
    ∃ x, intAsFloat n = some x ∧ value = .float64 x := by
  have hint : PyLiteral.asInt64 (.int n) = none := by simp [PyLiteral.asInt64, hn]
  have hfloat : PyLiteral.asFloat64 (.int n) = intAsFloat n := rfl
  unfold parseFilterValue at h
  rw [hint, hfloat] at h
  cases hx : intAsFloat n with
  | none =>
      rw [hx] at h
      cases h
  | some x =>
      rw [hx] at h
      cases h
      exact ⟨x, rfl, rfl⟩

/-- The literal is rounded, and refused when that leaves the finite numbers. -/
theorem parseFilter_wide {T : TextFormat} {column : String} {op : Op} {n : Int}
    (hn : fitsI64 n = false) {filter : FilterExpr}
    (h : parseFilter T (column, op.text, .int n) = .ok filter) :
    filter = roundedFilter column op n ∧ (Binary.ofInt binary64 n).isFinite = true := by
  rw [parseFilter, parseFilterOperator_text, Except.ok_bind] at h
  obtain ⟨value, hvalue, h⟩ := Except.bind_eq_ok.mp h
  obtain ⟨x, hx, rfl⟩ := parseFilterValue_wide hn hvalue
  obtain ⟨rfl, hfin⟩ := intAsFloat_eq_some hx
  exact ⟨(Except.ok.inj h).symm, hfin⟩

/-! ## Where rounding makes no difference -/

/-- The value compares alike with the literal and with what it is rounded to. -/
def RoundingHarmless (op : Op) (n m x : Int) : Prop :=
  match op with
  | .eq | .ne => n = m ∨ (x ≠ n ∧ x ≠ m)
  | .lt | .ge => ¬ (min n m ≤ x ∧ x < max n m)
  | .le | .gt => ¬ (min n m < x ∧ x ≤ max n m)

theorem roundingHarmless_iff {op : Op} {n m x : Int} :
    RoundingHarmless op n m x ↔ (op.Holds x m ↔ op.Holds x n) := by
  cases op <;> simp only [RoundingHarmless, Op.Holds] <;> omega

section

variable {C : Crates}

theorem passes_rounded_iff {schema : Schema} {row : Row schema} {column : String} {op : Op}
    {n x : Int} (hfin : (Binary.ofInt binary64 n).isFinite = true) {i : Nat} {field : Field}
    (hi : indexOf schema column = .ok i) (hf : schema[i]? = some field)
    (ht : field.dataType.isInteger = true) (hx : row.slot i = some (.int x)) :
    passes C (roundedFilter column op n) row = true ↔
      dotless column = true ∧ field.dataType.fits (roundedLiteral n) = true ∧
        op.Holds x (roundedLiteral n) := by
  have hliteral := literalSlot_float64_integer (K := C.toArrowKernels) ht (Binary.ofInt binary64 n)
  rw [hfin, Bool.true_and] at hliteral
  have hguard : outOfRangeMatch field.dataType op (.float64 (Binary.ofInt binary64 n)) = none := rfl
  obtain ⟨verdict, hverdict⟩ := Option.isSome_iff_exists.mp
    (rowPredicate_isSome_of_literal op hliteral (C.comparable_basic (isBasic_of_isInteger ht)))
  have hmatch : verdict (some (.int x)) = some true ↔
      field.dataType.fits (roundedLiteral n) = true ∧ op.Holds x (roundedLiteral n) := by
    rw [rowPredicate_eq_true hverdict, hguard]
    simp only [reduceCtorEq, false_or, true_and]
    constructor
    · rintro ⟨l, hl, htest⟩
      have hslot := hl.unique hliteral
      split at hslot
      · rename_i hfits
        cases hslot
        rw [DataType.storage_of_isInteger ht, C.order_int ht] at htest
        exact ⟨hfits, Op.test_compare.mp htest⟩
      · cases hslot
    · rintro ⟨hfits, hholds⟩
      rw [roundedLiteral] at hfits
      rw [if_pos hfits] at hliteral
      refine ⟨_, hliteral, ?_⟩
      rw [DataType.storage_of_isInteger ht, C.order_int ht]
      exact Op.test_compare.mpr hholds
  cases hdot : dotless column with
  | true =>
      have hpass : passes C (roundedFilter column op n) row = true ↔
          verdict (some (.int x)) = some true := passes_iff hdot hi hf hverdict hx
      rw [hpass, hmatch]
      simp
  | false =>
      simp only [Bool.false_eq_true, false_and, iff_false]
      intro hpass
      have hcolumn := (passes_eq_true.mp hpass).1
      rw [show (roundedFilter column op n).column = column from rfl, hdot] at hcolumn
      cases hcolumn

/-! ## Where the read is exact -/

/-- The value is found exactly if it matches: where the literal reaches the column,
statistics and rounding change nothing; elsewhere there is nothing to find. -/
def LiteralSound (C : Crates) (file : ParquetFile) (column : String) (op : Op) (n : Int)
    (group : Nat) (t : DataType) (x : Int) : Prop :=
  if dotless column = true ∧ t.fits (roundedLiteral n) = true then
    (op.Holds x n → keepsRowGroup C file (roundedFilter column op n) group = true) ∧
      (keepsRowGroup C file (roundedFilter column op n) group = true →
        RoundingHarmless op n (roundedLiteral n) x)
  else ¬ op.Holds x n

variable {file : ParquetFile} {column : String} {op : Op} {n : Int} {i : Nat} {field : Field}

theorem selected_iff_literalSound (hfin : (Binary.ofInt binary64 n).isFinite = true)
    (hi : indexOf file.schema column = .ok i) (hf : file.schema[i]? = some field)
    (ht : field.dataType.isInteger = true) {located : LocatedRow file.schema} {x : Int}
    (hx : located.row.slot i = some (.int x)) :
    ((keepsRowGroup C file (roundedFilter column op n) located.group = true ∧
        passes C (roundedFilter column op n) located.row = true) ↔ op.Holds x n) ↔
      LiteralSound C file column op n located.group field.dataType x := by
  rw [passes_rounded_iff hfin hi hf ht hx, LiteralSound, roundingHarmless_iff]
  split
  · rename_i hreach
    have hpasses : (dotless column = true ∧ field.dataType.fits (roundedLiteral n) = true ∧
        op.Holds x (roundedLiteral n)) ↔ op.Holds x (roundedLiteral n) :=
      ⟨fun h => h.2.2, fun h => ⟨hreach.1, hreach.2, h⟩⟩
    rw [hpasses]
    constructor
    · intro h
      exact ⟨fun hn => (h.mpr hn).1,
        fun hkeep => ⟨fun hm => h.mp ⟨hkeep, hm⟩, fun hn => (h.mpr hn).2⟩⟩
    · rintro ⟨hkeep, hround⟩
      exact ⟨fun h => (hround h.1).mp h.2, fun hn => ⟨hkeep hn, (hround (hkeep hn)).mpr hn⟩⟩
  · rename_i hreach
    constructor
    · intro h hn
      obtain ⟨-, hdot, hfits, -⟩ := h.mpr hn
      exact hreach ⟨hdot, hfits⟩
    · intro h
      exact ⟨fun hpass => absurd ⟨hpass.2.1, hpass.2.2.1⟩ hreach, fun hn => absurd hn h⟩

/-! ## Row by row -/

def IntegerColumn (schema : Schema) (column : String) : Prop :=
  ∃ i field, indexOf schema column = .ok i ∧ schema[i]? = some field ∧
    field.dataType.isInteger = true

def integerMatches (op : Op) (n : Int) : Slot → Bool
  | some (.int x) => decide (op.Holds x n)
  | _ => false

/-- The rows that the other filters admit and whose value matches. -/
def exactRows (C : Crates) (file : ParquetFile) (others : List FilterExpr) (column : String)
    (op : Op) (n : Int) : List (LocatedRow file.schema) :=
  file.allRows.filter fun located => admittedBy C file others located &&
    match indexOf file.schema column with
    | .ok i => integerMatches op n (located.row.slot i)
    | .error _ => false

def RowSound (C : Crates) (file : ParquetFile) (column : String) (op : Op) (n : Int)
    (located : LocatedRow file.schema) : Prop :=
  ∀ i field x, indexOf file.schema column = .ok i → file.schema[i]? = some field →
    located.row.slot i = some (.int x) →
      LiteralSound C file column op n located.group field.dataType x

theorem selected_eq_iff_rowSound (hfin : (Binary.ofInt binary64 n).isFinite = true)
    (hi : indexOf file.schema column = .ok i) (hf : file.schema[i]? = some field)
    (ht : field.dataType.isInteger = true) (located : LocatedRow file.schema) :
    (keepsRowGroup C file (roundedFilter column op n) located.group &&
        passes C (roundedFilter column op n) located.row) =
      integerMatches op n (located.row.slot i) ↔ RowSound C file column op n located := by
  cases hx : located.row.slot i with
  | none =>
      have hfails : ¬ passes C (roundedFilter column op n) located.row = true :=
        not_passes_of_null hi hx
      rw [Bool.eq_false_of_not_eq_true hfails, Bool.and_false]
      refine ⟨fun _ i' field' x hi' _ hx' => ?_, fun _ => rfl⟩
      cases hi.symm.trans hi'
      rw [hx] at hx'
      cases hx'
  | some v =>
      have htype := located.row.slot_hasType hf hx
      rw [Value.hasType, DataType.storage_of_isInteger ht] at htype
      obtain ⟨x, rfl, -⟩ := (Value.hasStorage_int_iff ht).mp htype
      rw [Bool.eq_iff_iff, Bool.and_eq_true, integerMatches, decide_eq_true_eq,
        selected_iff_literalSound hfin hi hf ht hx]
      constructor
      · intro hsound i' field' x' hi' hf' hx'
        cases hi.symm.trans hi'
        cases hf.symm.trans hf'
        cases hx.symm.trans hx'
        exact hsound
      · intro hsound
        exact hsound i field x hi hf hx

end

/-! ## Reads -/

section

variable {C : Crates}

def LiteralsSound (C : Crates) (files : List ParquetFile) (others : List FilterExpr)
    (column : String) (op : Op) (n : Int) : Prop :=
  ∀ file ∈ files, ∀ located ∈ file.allRows, admittedBy C file others located = true →
    RowSound C file column op n located

def ReadsExactly (C : Crates) (files : List ParquetFile) (columns : Option (List String))
    (others : List FilterExpr) (column : String) (op : Op) (n : Int)
    (rows : List (List Slot)) : Prop :=
  rows = files.flatMap fun file =>
    emittedRows C file columns (exactRows C file others column op n)

variable {files : List ParquetFile} {others : List FilterExpr} {column : String} {op : Op}
  {n : Int}

/-- With the rounded filter among the others, the rows are the exact ones if the
literal is sound, and without a projection only then. -/
theorem readsExactly_iff (hfin : (Binary.ofInt binary64 n).isFinite = true) {schema : Schema}
    (hmatch : ∀ file ∈ files, SchemasMatch schema file.schema)
    (hcolumn : ∀ file ∈ files, IntegerColumn file.schema column)
    (before after : List FilterExpr) (columns : Option (List String)) :
    (LiteralsSound C files (before ++ after) column op n →
        ReadsExactly C files columns (before ++ after) column op n
          (files.flatMap fun file => emittedRows C file columns (file.allRows.filter
            (admittedBy C file (before ++ roundedFilter column op n :: after))))) ∧
      (ReadsExactly C files none (before ++ after) column op n
          (files.flatMap fun file => emittedRows C file none (file.allRows.filter
            (admittedBy C file (before ++ roundedFilter column op n :: after)))) →
        LiteralsSound C files (before ++ after) column op n) := by
  constructor
  · intro hsound
    refine List.flatMap_congr fun file hfile => ?_
    obtain ⟨i, field, hi, hf, ht⟩ := hcolumn file hfile
    refine congrArg _ (List.filter_congr fun located hlocated => ?_)
    rw [admittedBy_insert, hi]
    cases hadmit : admittedBy C file (before ++ after) located with
    | false => rfl
    | true =>
        rw [Bool.true_and, Bool.true_and]
        exact (selected_eq_iff_rowSound hfin hi hf ht located).mpr
          (hsound file hfile located hlocated hadmit)
  · intro hexact file hfile located hlocated hadmit
    obtain ⟨i, field, hi, hf, ht⟩ := hcolumn file hfile
    have hindex : ∀ other ∈ files, indexOf other.schema column = .ok i := by
      intro other hother
      rw [← indexOf_congr (hmatch other hother), indexOf_congr (hmatch file hfile), hi]
    have hread : (files.flatMap fun file => emittedRows C file none (file.allRows.filter
        (admittedBy C file (before ++ roundedFilter column op n :: after)))) =
          files.flatMap fun file => (file.allRows.filter fun located =>
            admittedBy C file (before ++ after) located &&
              (keepsRowGroup C file (roundedFilter column op n) located.group &&
                passes C (roundedFilter column op n) located.row)).map (·.row.slots) := by
      refine List.flatMap_congr fun other _ => ?_
      rw [emittedRows_none, funext (admittedBy_insert before after _)]
    have hwanted : (files.flatMap fun file => emittedRows C file none
        (exactRows C file (before ++ after) column op n)) =
          files.flatMap fun file => (file.allRows.filter fun located =>
            admittedBy C file (before ++ after) located &&
              integerMatches op n (located.row.slots.getD i none)).map (·.row.slots) := by
      refine List.flatMap_congr fun other hother => ?_
      rw [emittedRows_none, exactRows, hindex other hother]
      rfl
    rw [ReadsExactly, hread, hwanted] at hexact
    have hrow := (Blocks.flatMap_filter_eq_iff
      (fun (file : ParquetFile) (located : LocatedRow file.schema) => located.row.slots)
      (fun slots => integerMatches op n (slots.getD i none))).mp hexact
    exact (selected_eq_iff_rowSound hfin hi hf ht located).mp
      (hrow file hfile located hlocated hadmit)

variable {T : TextFormat} {F : FileSystem} {s : F.State} {format : ParquetFormat}

/-- A call with an integer past 64 bits among its filters: the files it reads, and
what decides whether its rows are the exact ones. -/
theorem fromParquet_wideInteger_iff {path : PathArgument} {columns : Option (List String)}
    {before after : List (String × String × PyLiteral)} {table : Table}
    (hn : fitsI64 n = false)
    (h : Table.fromParquet T F s C format path columns
      (some (before ++ (column, op.text, .int n) :: after)) = .ok table) :
    ∃ paths others files, resolveParquetPaths T F s path = .ok paths ∧
      parseFilters T (some (before ++ after)) = .ok others ∧
      List.Forall₂ (fun p file => (F.disk s format T).openFile p = .ok file) paths files ∧
      ((∀ file ∈ files, IntegerColumn file.schema column) →
        (LiteralsSound C files others column op n →
          ReadsExactly C files columns others column op n table.inner.rows) ∧
        (columns = none → ReadsExactly C files columns others column op n table.inner.rows →
          LiteralsSound C files others column op n)) := by
  obtain ⟨exprs, paths, batch, hparse, hpaths, hread, rfl⟩ := fromParquet_eq_ok.mp h
  obtain ⟨files, schema, hopens, hmatch, hrows⟩ := readParquetMulti_emitted hread
  rw [parseFilters, List.mapM_append, List.mapM_cons] at hparse
  obtain ⟨parsedBefore, hbefore, hparse⟩ := Except.bind_eq_ok.mp hparse
  obtain ⟨rest, hrest, hparse⟩ := Except.bind_eq_ok.mp hparse
  obtain ⟨filter, hfilter, hrest⟩ := Except.bind_eq_ok.mp hrest
  obtain ⟨parsedAfter, hafter, hrest⟩ := Except.bind_eq_ok.mp hrest
  cases hrest
  cases hparse
  obtain ⟨rfl, hfin⟩ := parseFilter_wide hn hfilter
  have hothers : parseFilters T (some (before ++ after)) = .ok (parsedBefore ++ parsedAfter) := by
    rw [parseFilters, List.mapM_append, hbefore, hafter]
    rfl
  refine ⟨paths, parsedBefore ++ parsedAfter, files, hpaths, hothers, hopens, fun hcolumn => ?_⟩
  obtain ⟨hexact, hsound⟩ := readsExactly_iff hfin hmatch hcolumn parsedBefore parsedAfter
    columns
  rw [rows_ofBatch, hrows]
  refine ⟨hexact, ?_⟩
  rintro rfl hread
  exact hsound hread

end

/-! ## An unsigned column -/

def wideField : Field := ⟨"u", .uint64, true, false, []⟩

def wideFile : ParquetFile where
  schema := [wideField]
  rowGroups :=
    [columnGroup wideField [some (.int 5), some (.int (2 ^ 63)), none, some (.int (2 ^ 64 - 1))]
      ⟨some (.int 5), some (.int (2 ^ 64 - 1))⟩ (by decide) (by decide)]

def wideFolder : Folder := [(.ofString "u.parquet", .file [0])]

theorem fromParquet_wideInteger_wideFile :
    ∃ table, Table.fromParquet plainText folderSystem wideFolder referenceCrates
        (catalogueFormat [wideFile]) (.single (.ofString "u.parquet")) none
        (some [("u", Op.ge.text, .int (2 ^ 63))]) = .ok table ∧
      LiteralsSound referenceCrates [wideFile] [] "u" .ge (2 ^ 63) := by
  obtain ⟨table, htable, hrows⟩ : ∃ table,
      Table.fromParquet plainText folderSystem wideFolder referenceCrates
        (catalogueFormat [wideFile]) (.single (.ofString "u.parquet")) none
        (some ([] ++ ("u", Op.ge.text, .int (2 ^ 63)) :: [])) = .ok table ∧
      table.inner.rows = [[some (.int (2 ^ 63))], [some (.int (2 ^ 64 - 1))]] :=
    Except.map_eq_ok.mp (by decide +kernel)
  obtain ⟨paths, others, files, hpaths, hothers, hopens, hiff⟩ :=
    fromParquet_wideInteger_iff (by decide) htable
  cases hothers
  have hresolved : paths = [.ofString "u.parquet"] := (Except.ok.inj hpaths).symm
  subst hresolved
  obtain ⟨file, rest, hopen, hrest, rfl⟩ := List.forall₂_cons_left_iff.mp hopens
  cases hrest
  cases (hopen.symm.trans (rfl : _ = Except.ok wideFile))
  have hcolumn : ∀ file ∈ [wideFile], IntegerColumn file.schema "u" := by
    intro file hfile
    rw [List.mem_singleton] at hfile
    rw [hfile]
    exact ⟨0, wideField, rfl, rfl, rfl⟩
  refine ⟨table, htable, (hiff hcolumn).2 rfl ?_⟩
  rw [ReadsExactly, hrows]
  decide +kernel

/-- The greatest value of the column is not found by its own literal, which rounds to
`2 ^ 64` and becomes null. -/
theorem wide_literal_loses_row :
    fitsI64 (2 ^ 64 - 1) = false ∧ IntegerColumn wideFile.schema "u" ∧
      ∃ table, Table.fromParquet plainText folderSystem wideFolder referenceCrates
          (catalogueFormat [wideFile]) (.single (.ofString "u.parquet")) none
          (some [("u", "==", .int (2 ^ 64 - 1))]) = .ok table ∧
        table.inner.rows = [] ∧
        ¬ ReadsExactly referenceCrates [wideFile] none [] "u" .eq (2 ^ 64 - 1)
          table.inner.rows := by
  refine ⟨by decide, ⟨0, wideField, rfl, rfl, rfl⟩, ?_⟩
  obtain ⟨table, htable, hrows⟩ : ∃ table,
      Table.fromParquet plainText folderSystem wideFolder referenceCrates
        (catalogueFormat [wideFile]) (.single (.ofString "u.parquet")) none
        (some [("u", "==", .int (2 ^ 64 - 1))]) = .ok table ∧ table.inner.rows = [] :=
    Except.map_eq_ok.mp (by decide +kernel)
  refine ⟨table, htable, hrows, ?_⟩
  rw [ReadsExactly, hrows]
  decide +kernel

end Pydart
