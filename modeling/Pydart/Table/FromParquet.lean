import Pydart.Pandas.Convert
import Pydart.Table.FileSystem

/-! # Reading a table

`Table.from_parquet`: the filters are parsed first, then the path argument is
resolved to files, and the read of those files becomes a table.
-/

namespace Pydart

open Ieee Ieee.Format

/-! ## Filters -/

/-- A Python object given as a filter value. `bool` is whatever `extract::<bool>()` takes,
`numpy.bool_` included; `other` is an object by what it converts to as an integer and
as a float. -/
inductive PyLiteral where
  | bool (b : Bool)
  | int (n : Int)
  | float (x : Binary binary64)
  | str (text : String)
  | other (typeName : String) (asIndex : Option Int) (asFloat : Option (Binary binary64))
deriving DecidableEq

def fitsI64 (n : Int) : Bool := decide (-(2 ^ 63) ≤ n ∧ n ≤ 2 ^ 63 - 1)

/-- `float(n)`: rounded to nearest even, refused when that leaves the finite numbers. -/
def intAsFloat (n : Int) : Option (Binary binary64) :=
  if (Binary.ofInt binary64 n).isFinite then some (Binary.ofInt binary64 n) else none

namespace PyLiteral

/-- `value.extract::<bool>()`. -/
def asBool : PyLiteral → Option Bool
  | bool b => some b
  | _ => none

/-- `value.extract::<i64>()`. -/
def asInt64 : PyLiteral → Option Int64
  | bool b => some (if b then 1 else 0)
  | int n | other _ (some n) _ => if fitsI64 n then some (Int64.ofInt n) else none
  | _ => none

/-- `value.extract::<f64>()`. -/
def asFloat64 : PyLiteral → Option (Binary binary64)
  | bool b => intAsFloat (if b then 1 else 0)
  | int n => intAsFloat n
  | float x => some x
  | other _ _ asFloat => asFloat
  | str _ => none

/-- `value.extract::<String>()`. -/
def asString : PyLiteral → Option String
  | str text => some text
  | _ => none

def typeName : PyLiteral → String
  | bool _ => "bool"
  | int _ => "int"
  | float _ => "float"
  | str _ => "str"
  | other typeName _ _ => typeName

end PyLiteral

def parseFilterOperator (column operator : String) : Except PydartError Op :=
  match operator with
  | "==" => .ok .eq
  | "!=" => .ok .ne
  | "<" => .ok .lt
  | "<=" => .ok .le
  | ">" => .ok .gt
  | ">=" => .ok .ge
  | other => .error (.unsupportedFilterOperator column other)

section

variable (T : TextFormat)

def parseFilterValue (value : PyLiteral) : Except PydartError ScalarValue :=
  match value.asBool with
  | some b => .ok (.bool b)
  | none =>
      match value.asInt64 with
      | some i => .ok (.int64 i)
      | none =>
          match value.asFloat64 with
          | some f => .ok (.float64 f)
          | none =>
              match value.asString with
              | some s => .ok (.utf8 s)
              | none =>
                  .error (.other ("unsupported filter value type " ++ T.debug value.typeName ++
                    ": expected int, float, bool, or str"))

def parseFilter (filter : String × String × PyLiteral) : Except PydartError FilterExpr := do
  let op ← parseFilterOperator filter.1 filter.2.1
  let value ← parseFilterValue T filter.2.2
  pure ⟨filter.1, op, value⟩

def parseFilters : Option (List (String × String × PyLiteral)) →
    Except PydartError (List FilterExpr)
  | some tuples => tuples.mapM (parseFilter T)
  | none => .ok []

/-! ## Paths -/

/-- The path argument by what it converts to: one path, a list of paths, neither. -/
inductive PathArgument where
  | single (path : FilePath)
  | list (paths : List FilePath)
  | other
deriving DecidableEq

variable (F : FileSystem) (s : F.State)

def directoryFiles (directory : FilePath) : Except PydartError (List FilePath) := do
  let entries ← (F.readDir s directory).mapError (.parquetReadError (T.display directory))
  let files := ((entries.map directory.join).filter fun p =>
    F.isFile s p && p.hasParquetExtension).mergeSort FilePath.le
  if files.isEmpty then
    throw (.invalidParquetPathArgument
      ("directory " ++ T.debugPath directory ++ " contains no .parquet files"))
  pure files

def checkListElement (path : FilePath) : Except PydartError Unit :=
  if F.isDir s path then
    .error (.invalidParquetPathArgument ("from_parquet path list element " ++ T.debugPath path ++
      " is a directory; pass a directory as the sole path argument instead of inside a list"))
  else if !F.exists? s path then
    .error (.parquetReadError (T.display path) "no such file or directory")
  else if !path.hasParquetExtension then
    .error (.parquetReadError (T.display path) "expected a .parquet file extension")
  else .ok ()

def resolveParquetPaths (path : PathArgument) : Except PydartError (List FilePath) :=
  match path with
  | .single single =>
      if F.isDir s single then directoryFiles T F s single
      else .ok [single]
  | .list list =>
      if list.isEmpty then
        .error (.invalidParquetPathArgument "from_parquet received an empty path list")
      else do
        list.forM (checkListElement T F s)
        pure list
  | .other =>
      .error (.invalidParquetPathArgument
        "from_parquet's path argument must be a str, pathlib.Path, or a list of str/Path")

/-! ## The call -/

def mapMultiErr : MultiFailure → CallFailure
  | .error (.schemaMismatch firstFile otherFile column) =>
      .raised (.parquetSchemaMismatch firstFile otherFile column)
  | .error (.read path source) => .raised (.parquetReadError path (T.parquetError source))
  | .panicked => .panicked

def Table.fromParquet (C : Crates) (format : ParquetFormat) (path : PathArgument)
    (columns : Option (List String)) (filters : Option (List (String × String × PyLiteral))) :
    Except CallFailure Table := do
  let filterExprs ← raise (parseFilters T filters)
  let paths ← raise (resolveParquetPaths T F s path)
  let batch ← (readParquetMulti C (F.disk s format T) paths columns filterExprs).mapError
    (mapMultiErr T)
  pure ⟨.ofBatch batch, []⟩

end
end Pydart
