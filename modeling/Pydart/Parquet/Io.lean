import Pydart.ParquetFilter
import Pydart.Parquet.Reader

/-! # Filtered Parquet reads

`read_parquet` and `read_parquet_multi` with the two halves of filter pushdown:
the row groups ruled out by statistics, and the predicate run on every row left.
-/

namespace Pydart

open Ieee Ieee.Format

/-! ## The row predicate -/

def integerBounds : DataType → Option (Int × Int)
  | .int8 => some (-(2 ^ 7), 2 ^ 7 - 1)
  | .int16 => some (-(2 ^ 15), 2 ^ 15 - 1)
  | .int32 => some (-(2 ^ 31), 2 ^ 31 - 1)
  | .int64 => some (-(2 ^ 63), 2 ^ 63 - 1)
  | .uint8 => some (0, 2 ^ 8 - 1)
  | .uint16 => some (0, 2 ^ 16 - 1)
  | .uint32 => some (0, 2 ^ 32 - 1)
  | .uint64 => some (0, 2 ^ 64 - 1)
  | _ => none

theorem int64_fits (v : Int64) : DataType.int64.fits v.toInt = true := by
  have hlo := v.le_toInt
  have hhi := v.toInt_lt
  simp only [DataType.fits, DataType.integerKind, decide_eq_true_eq]
  omega

def scalarValueToArray : ScalarValue → ArrowArray
  | .int64 v => ArrowArray.single .int64 (.int v.toInt) (int64_fits v)
  | .float64 v => ArrowArray.single .float64 (.float64 v) rfl
  | .bool v => ArrowArray.single .boolean (.boolean v) rfl
  | .utf8 v => ArrowArray.single .utf8 (.utf8 v) rfl

/-- Whether every non-null row matches, where an integer literal lies outside the
range of an integer column. -/
def outOfRangeMatch (dataType : DataType) (op : Op) : ScalarValue → Option Bool
  | .int64 v =>
      match integerBounds dataType with
      | some (min, max) =>
          if v.toInt > max then some (op == .ne || op == .lt || op == .le)
          else if v.toInt < min then some (op == .ne || op == .gt || op == .ge)
          else none
      | none => none
  | _ => none

def compareKernel : Op → Kernel
  | .eq => .eq
  | .ne => .neq
  | .lt => .lt
  | .le => .ltEq
  | .gt => .gt
  | .ge => .gtEq

def evaluatePredicate (K : ArrowKernels) (batch : RecordBatch) (op : Op) (value : ScalarValue) :
    Outcome BooleanArray :=
  match batch.column 0 with
  | none => throw .panicked
  | some column =>
      match outOfRangeMatch column.dataType op value with
      | some allRowsMatch =>
          pure ((List.range column.length).map fun i => some (!column.isNull i && allRowsMatch))
      | none => do
          let casted ← liftArrow (K.cast (scalarValueToArray value) column.dataType)
          liftArrow (K.compare (compareKernel op) column casted)

/-! ## Row-group skipping -/

/-- A statistics value as a filter value; text, and integers past `i64`, are not
trusted. -/
def trustedValue (dataType : DataType) (v : Value) : Option ScalarValue :=
  match dataType, v with
  | .int8, .int n => some (.int64 (Int64.ofInt n))
  | .int16, .int n => some (.int64 (Int64.ofInt n))
  | .int32, .int n => some (.int64 (Int64.ofInt n))
  | .int64, .int n => some (.int64 (Int64.ofInt n))
  | .uint8, .int n => some (.int64 (Int64.ofInt n))
  | .uint16, .int n => some (.int64 (Int64.ofInt n))
  | .uint32, .int n => some (.int64 (Int64.ofInt n))
  | .uint64, .int n => if n ≤ 2 ^ 63 - 1 then some (.int64 (Int64.ofInt n)) else none
  | .float32, .float32 x => some (.float64 (Binary.convert binary64 x))
  | .float64, .float64 x => some (.float64 x)
  | .boolean, .boolean b => some (.bool b)
  | _, _ => none

def scalarFromArray (array : ArrowArray) (i : Nat) : Option ScalarValue :=
  if array.isNull i then none
  else (array.slots.getD i none).bind (trustedValue array.dataType)

section

variable (C : Crates)

/-- One filter's pass over the keep flags; a group already excluded stays so. -/
def excludeRowGroups (file : ParquetFile) (keep : List Bool) (filter : FilterExpr) :
    Except ParquetError (List Bool) := do
  let converter ← C.statisticsConverter file.schema filter.column
  let mins ← C.rowGroupMins file converter
  let maxes ← C.rowGroupMaxes file converter
  pure (keep.mapIdx fun rowGroup keepSlot =>
    if !keepSlot then keepSlot
    else couldMatchRange filter.op filter.value
      (scalarFromArray mins rowGroup) (scalarFromArray maxes rowGroup))

def survivingRowGroups (file : ParquetFile) (filters : List FilterExpr) :
    Except ParquetError (List Nat) := do
  let keep ← filters.foldlM (excludeRowGroups C file) (List.replicate file.numRowGroups true)
  pure ((List.range file.numRowGroups).filter fun rowGroup => keep.getD rowGroup false)

/-- One predicate for each filter, on its own single-column projection. -/
def buildRowFilter (schema : Schema) (filters : List FilterExpr) : List ArrowPredicate :=
  filters.map fun filter =>
    { projection := C.projectionMask schema [filter.column]
      evaluate := fun batch => evaluatePredicate C.toArrowKernels batch filter.op filter.value }

/-! ## Reading -/

/-- The batches of a read as one, empty when the reader yields none. -/
def collectBatches (schema : Schema) : List RecordBatch → Outcome RecordBatch
  | [] => pure (RecordBatch.newEmpty schema)
  | [batch] => pure batch
  | batches => liftArrow (C.concatBatches schema batches)

def reorderColumns (columns : Option (List String)) (batch : RecordBatch) : Outcome RecordBatch :=
  match columns with
  | none => pure batch
  | some names => do
      let indices ← names.mapM fun name => liftArrow (indexOf batch.schema name)
      liftArrow (batch.project indices)

/-- The columns a read decodes for its caller, whatever its filters look at. -/
def outputMask (schema : Schema) : Option (List String) → List Nat
  | some names => C.projectionMask schema names
  | none => List.range schema.length

def readRowGroups (file : ParquetFile) (rowGroups : List Nat) (columns : Option (List String))
    (filters : List FilterExpr) : Outcome RecordBatch := do
  let predicates := if filters.isEmpty then [] else buildRowFilter C file.schema filters
  let output := outputMask C file.schema columns
  let batches ← readBatches C file rowGroups predicates output
  let batch ← collectBatches C (pick file.schema output) batches
  reorderColumns columns batch

section

variable {Path : Type} (disk : Disk Path)

def readParquet (path : Path) (columns : Option (List String)) (filters : List FilterExpr) :
    Outcome RecordBatch := do
  let file ← liftParquet (disk.openFile path)
  let surviving ← liftParquet (survivingRowGroups C file filters)
  readRowGroups C file surviving columns filters

end
end

/-! ## Several files -/

inductive MultiParquetReadError where
  | schemaMismatch (firstFile otherFile column : String)
  | read (path : String) (source : ParquetError)
deriving DecidableEq, Repr

inductive MultiFailure where
  | error (error : MultiParquetReadError)
  | panicked
deriving DecidableEq, Repr

def fieldsMatch (a b : Field) : Bool :=
  a.name == b.name && a.dataType == b.dataType && a.nullable == b.nullable &&
    a.dictIsOrdered == b.dictIsOrdered

/-- The name at the first differing position, from the first schema if it has one. -/
def firstSchemaMismatch : Schema → Schema → Option String
  | [], [] => none
  | a :: _, [] => some a.name
  | [], b :: _ => some b.name
  | a :: as, b :: bs => if fieldsMatch a b then firstSchemaMismatch as bs else some a.name

section

variable (C : Crates) {Path : Type} (disk : Disk Path)

def readRawSchema (path : Path) : Except ParquetError Schema := do
  let file ← disk.openFile path
  pure file.schema

def mapReadErr {α : Type} (path : Path) : Outcome α → Except MultiFailure α
  | .ok a => .ok a
  | .error (.parquet source) => .error (.error (.read (disk.display path) source))
  | .error .panicked => .error .panicked

def readMatching (first : Path) (firstSchema : Schema) (columns : Option (List String))
    (filters : List FilterExpr) (path : Path) : Except MultiFailure RecordBatch := do
  let schema ← mapReadErr disk path (liftParquet (readRawSchema disk path))
  match firstSchemaMismatch firstSchema schema with
  | some column =>
      throw (.error (.schemaMismatch (disk.display first) (disk.display path) column))
  | none => mapReadErr disk path (readParquet C disk path columns filters)

def joinBatches (first : Path) : List RecordBatch → Except MultiFailure RecordBatch
  | [] => throw .panicked
  | [batch] => pure batch
  | batch :: batches =>
      mapReadErr disk first (liftArrow (C.concatBatches batch.schema (batch :: batches)))

def readParquetMulti (paths : List Path) (columns : Option (List String))
    (filters : List FilterExpr) : Except MultiFailure RecordBatch :=
  match paths with
  | [] => throw (.error (.read "" (.general "read_parquet_multi called with an empty path list")))
  | first :: _ => do
      let firstSchema ← mapReadErr disk first (liftParquet (readRawSchema disk first))
      let batches ← paths.mapM (readMatching C disk first firstSchema columns filters)
      joinBatches C disk first batches

end
end Pydart
