import Pydart.Outcome
import Pydart.Arrow.Crates

/-! # The parquet reader

The file as its footer and pages describe it, and the reader the program
configures: row groups, a row filter of predicates run in sequence, and an output
projection. Where the reader cuts its batches is left to a parameter.
-/

namespace Pydart

inductive ParquetError where
  | general (message : String)
  | arrowError (error : ArrowError)
  | external (message : String)
deriving DecidableEq, Repr

/-- A call either returns an error or unwinds. -/
inductive Failure where
  | parquet (error : ParquetError)
  | panicked
deriving DecidableEq, Repr

abbrev Outcome := Except Failure

def liftArrow {α : Type} : Except ArrowError α → Outcome α
  | .ok a => .ok a
  | .error e => .error (.parquet (.arrowError e))

def liftParquet {α : Type} : Except ParquetError α → Outcome α
  | .ok a => .ok a
  | .error e => .error (.parquet e)

@[simp]
theorem liftArrow_eq_ok {α : Type} {x : Except ArrowError α} {a : α} :
    liftArrow x = .ok a ↔ x = .ok a := by
  cases x <;> simp [liftArrow]

@[simp]
theorem liftParquet_eq_ok {α : Type} {x : Except ParquetError α} {a : α} :
    liftParquet x = .ok a ↔ x = .ok a := by
  cases x <;> simp [liftParquet]

theorem liftArrow_eq_error {α : Type} {x : Except ArrowError α} {failure : Failure} :
    liftArrow x = .error failure ↔ ∃ e, x = .error e ∧ failure = .parquet (.arrowError e) := by
  cases x <;> simp [liftArrow, eq_comm]

/-! ## Files -/

structure ColumnStatistics where
  min : Slot
  max : Slot
deriving DecidableEq

def ColumnStatistics.Typed (field : Field) (statistics : ColumnStatistics) : Prop :=
  (∀ v ∈ statistics.min, v.hasType field.dataType = true) ∧
    ∀ v ∈ statistics.max, v.hasType field.dataType = true

instance (field : Field) (statistics : ColumnStatistics) :
    Decidable (ColumnStatistics.Typed field statistics) :=
  inferInstanceAs (Decidable (_ ∧ _))

structure RowGroup (schema : Schema) where
  rows : List (Row schema)
  statistics : List ColumnStatistics
  typed : List.Forall₂ ColumnStatistics.Typed schema statistics

namespace RowGroup

variable {schema : Schema} (rowGroup : RowGroup schema)

/-- The statistics of column `i`; a column without any has neither bound. -/
def columnStatistics (i : Nat) : ColumnStatistics := rowGroup.statistics.getD i ⟨none, none⟩

end RowGroup

theorem columnStatistics_typed {schema : Schema} (rowGroup : RowGroup schema) {i : Nat}
    {field : Field} (hfield : schema[i]? = some field) :
    ColumnStatistics.Typed field (rowGroup.columnStatistics i) := by
  obtain ⟨hi, -⟩ := List.getElem?_eq_some_iff.mp hfield
  have hlen := List.Forall₂.length_eq rowGroup.typed
  have hstat : rowGroup.statistics[i]? = some (rowGroup.columnStatistics i) := by
    rw [RowGroup.columnStatistics, List.getD_eq_getElem?_getD,
      List.getElem?_eq_getElem (by omega), Option.getD_some]
  exact forall₂_getElem? rowGroup.typed hfield hstat

structure ParquetFile where
  schema : Schema
  rowGroups : List (RowGroup schema)

/-- The files a run can name, and how a path is displayed. -/
structure Disk (Path : Type) where
  openFile : Path → Except ParquetError ParquetFile
  display : Path → String

/-- A row with its place in the file. -/
structure LocatedRow (schema : Schema) where
  group : Nat
  index : Nat
  row : Row schema
deriving DecidableEq

def LocatedRow.position {schema : Schema} (located : LocatedRow schema) : Nat × Nat :=
  (located.group, located.index)

namespace ParquetFile

variable (file : ParquetFile)

def numRowGroups : Nat := file.rowGroups.length

def groupRows (group : Nat) : List (LocatedRow file.schema) :=
  match file.rowGroups[group]? with
  | none => []
  | some rowGroup => rowGroup.rows.mapIdx fun index row => ⟨group, index, row⟩

def locatedRows (groups : List Nat) : List (LocatedRow file.schema) :=
  groups.flatMap file.groupRows

def allRows : List (LocatedRow file.schema) := file.locatedRows (List.range file.numRowGroups)

end ParquetFile

/-! ## Name resolution -/

def splitDots : List Char → List (List Char)
  | [] => [[]]
  | c :: rest =>
      if c = '.' then [] :: splitDots rest
      else
        match splitDots rest with
        | [] => [[c]]
        | piece :: pieces => (c :: piece) :: pieces

/-- The leaf paths of a column: one for a flat column, named in full. -/
def leafPaths (field : Field) : List (List (List Char)) :=
  match field.dataType.storage with
  | .nested leaf leaves =>
      (leaf :: leaves).map fun path => field.name.toList :: path.map (·.toList)
  | _ => [[field.name.toList]]

def selectsColumn (names : List String) (field : Field) : Bool :=
  names.any fun name => (leafPaths field).any fun path => (splitDots name.toList).isPrefixOf path

/-- The columns a projection mask selects, in schema order. -/
def maskedColumns (names : List String) (schema : Schema) : List Nat :=
  (List.range schema.length).filter fun i => (schema[i]?).any (selectsColumn names)

/-! ## The crates as a parameter -/

structure Crates extends ArrowKernels where
  /-- `StatisticsConverter::try_new`, as the column it resolves the name to. -/
  statisticsConverter : Schema → String → Except ParquetError Nat
  rowGroupMins : ParquetFile → Nat → Except ParquetError ArrowArray
  rowGroupMaxes : ParquetFile → Nat → Except ParquetError ArrowArray
  /-- `ProjectionMask::columns`, as the columns it selects. -/
  projectionMask : Schema → List String → List Nat
  /-- How many rows each batch of a stage of the read holds. -/
  batchSizes : ParquetFile → List Nat → Nat → List (Nat × Nat) → List Nat
  statisticsConverter_ok : ∀ {schema name i}, indexOf schema name = .ok i →
    statisticsConverter schema name = .ok i
  statisticsConverter_error : ∀ {schema name e}, indexOf schema name = .error e →
    ∃ e', statisticsConverter schema name = .error e'
  rowGroupMins_ok : ∀ {file : ParquetFile} {i mins}, rowGroupMins file i = .ok mins →
    mins.slots = file.rowGroups.map (fun g => (g.columnStatistics i).min) ∧
      ∀ field ∈ file.schema[i]?, mins.dataType = field.dataType.storage
  rowGroupMaxes_ok : ∀ {file : ParquetFile} {i maxes}, rowGroupMaxes file i = .ok maxes →
    maxes.slots = file.rowGroups.map (fun g => (g.columnStatistics i).max) ∧
      ∀ field ∈ file.schema[i]?, maxes.dataType = field.dataType.storage
  rowGroupMins_basic : ∀ {file : ParquetFile} {i field}, file.schema[i]? = some field →
    field.dataType.storage.isBasic = true → ∃ mins, rowGroupMins file i = .ok mins
  rowGroupMaxes_basic : ∀ {file : ParquetFile} {i field}, file.schema[i]? = some field →
    field.dataType.storage.isBasic = true → ∃ maxes, rowGroupMaxes file i = .ok maxes
  projectionMask_eq : ∀ schema names, projectionMask schema names = maskedColumns names schema
  batchSizes_sum : ∀ file groups stage selected,
    (batchSizes file groups stage selected).sum = selected.length
  batchSizes_pos : ∀ file groups stage selected,
    ∀ size ∈ batchSizes file groups stage selected, 0 < size

/-! ## Row filters -/

structure ArrowPredicate where
  projection : List Nat
  evaluate : RecordBatch → Outcome BooleanArray

def splitSizes {α : Type} : List Nat → List α → List (List α)
  | [], _ => []
  | size :: sizes, entries => entries.take size :: splitSizes sizes (entries.drop size)

/-- Keep the entries whose flag is true; null counts as false. -/
def keepTrue {α : Type} : BooleanArray → List α → List α
  | flag :: flags, entry :: entries =>
      if flag = some true then entry :: keepTrue flags entries else keepTrue flags entries
  | _, _ => []

section

variable {schema : Schema}

/-- The batch a predicate or the caller sees for some rows. -/
def projectedBatch (columns : List Nat) (rows : List (LocatedRow schema)) : RecordBatch :=
  RecordBatch.ofRows (rows.map (·.row.pick columns))

def runPredicate (predicate : ArrowPredicate) (rows : List (LocatedRow schema)) :
    Outcome (List (LocatedRow schema)) := do
  let flags ← predicate.evaluate (projectedBatch predicate.projection rows)
  if flags.length = rows.length then
    pure (keepTrue flags rows)
  else
    throw (.parquet (.general "predicate returned another number of rows"))

/-- Run the predicates in sequence, each on the rows the earlier ones kept. -/
def runRowFilter (sizes : Nat → List (Nat × Nat) → List Nat) :
    Nat → List ArrowPredicate → List (LocatedRow schema) → Outcome (List (LocatedRow schema))
  | _, [], rows => pure rows
  | stage, predicate :: predicates, rows => do
      let batches := splitSizes (sizes stage (rows.map LocatedRow.position)) rows
      let kept ← batches.mapM (runPredicate predicate)
      runRowFilter sizes (stage + 1) predicates kept.flatten

end

def selectRows (C : Crates) (file : ParquetFile) (groups : List Nat)
    (predicates : List ArrowPredicate) : Outcome (List (LocatedRow file.schema)) :=
  runRowFilter (C.batchSizes file groups) 0 predicates (file.locatedRows groups)

def readBatches (C : Crates) (file : ParquetFile) (groups : List Nat)
    (predicates : List ArrowPredicate) (output : List Nat) : Outcome (List RecordBatch) := do
  let selected ← selectRows C file groups predicates
  let sizes := C.batchSizes file groups predicates.length (selected.map LocatedRow.position)
  pure ((splitSizes sizes selected).map (projectedBatch output))

end Pydart
