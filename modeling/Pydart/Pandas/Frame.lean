import Pydart.Error

/-! # Pandas frames and their exports

A frame as the conversion sees it: labels, dtypes, element values and the layout
of numpy buffers. What pandas and pyarrow do with it is a parameter with its
documented behaviour, above all the one-column `__arrow_c_stream__` export.
-/

namespace Pydart

open Ieee Ieee.Format

/-- A column label that is not a Python bool: a list of bools selects rows. Labels
may differ and still have one text; equal labels of two texts, as 1 and 1.0, are left
out. -/
inductive Label where
  | str (text : String)
  | other (text : String) (identity : Nat)
deriving DecidableEq

def Label.text : Label → String
  | str text => text
  | other text _ => text

/-! ## Dtypes -/

inductive NumericDtype where
  | int8
  | int16
  | int32
  | int64
  | uint8
  | uint16
  | uint32
  | uint64
  | float16
  | float32
  | float64
  | float128
deriving DecidableEq

namespace NumericDtype

def kind : NumericDtype → String
  | int8 | int16 | int32 | int64 => "i"
  | uint8 | uint16 | uint32 | uint64 => "u"
  | float16 | float32 | float64 | float128 => "f"

def name : NumericDtype → String
  | int8 => "int8"
  | int16 => "int16"
  | int32 => "int32"
  | int64 => "int64"
  | uint8 => "uint8"
  | uint16 => "uint16"
  | uint32 => "uint32"
  | uint64 => "uint64"
  | float16 => "float16"
  | float32 => "float32"
  | float64 => "float64"
  | float128 => "float128"

def arrowType : NumericDtype → Option DataType
  | int8 => some .int8
  | int16 => some .int16
  | int32 => some .int32
  | int64 => some .int64
  | uint8 => some .uint8
  | uint16 => some .uint16
  | uint32 => some .uint32
  | uint64 => some .uint64
  | float16 => some .float16
  | float32 => some .float32
  | float64 => some .float64
  | float128 => none

end NumericDtype

/-- The kinds of numpy dtype that have no counterpart here. -/
inductive OtherDtype where
  | complex
  | bytes
  | unicode
  | void
deriving DecidableEq

def OtherDtype.kind : OtherDtype → String
  | complex => "c"
  | bytes => "S"
  | unicode => "U"
  | void => "V"

inductive NumpyDtype where
  | bool
  | numeric (dtype : NumericDtype)
  | object
  | datetime64 (unit : String)
  | timedelta64 (unit : String)
  | other (dtype : OtherDtype)
deriving DecidableEq

def NumpyDtype.kind : NumpyDtype → String
  | bool => "b"
  | numeric dtype => dtype.kind
  | object => "O"
  | datetime64 _ => "M"
  | timedelta64 _ => "m"
  | other dtype => dtype.kind

/-- A dtype by the `isinstance` checks it answers to; `extension` is any extension
dtype that is none of the three before it. -/
inductive Dtype where
  | arrow (pyarrowDtype : DataType)
  | categorical (ordered : Bool)
  | datetimeTz (unit tz : String)
  | extension (typeName : String)
  | numpy (dtype : NumpyDtype)
deriving DecidableEq

/-! ## Columns -/

structure ChunkedArray where
  dataType : DataType
  chunks : List (List Slot)
  typed : ∀ chunk ∈ chunks, ∀ v, some v ∈ chunk → v.hasType dataType = true

/-- A `Categorical` whose categories have an Arrow type, by its decoded values. -/
structure CategoricalArray where
  key : DataType
  value : DataType
  slots : List Slot
  typed : ∀ v, some v ∈ slots → v.hasType (.dictionary key value) = true

/-- A one-dimensional numpy array of numbers; `native` is its byte order. Numpy calls
every array of at most one element contiguous. -/
structure NumpyArray where
  dtype : NumericDtype
  native : Bool
  values : List Value
  cContiguous : Bool
  typed : ∀ t, dtype.arrowType = some t → ∀ v ∈ values, v.hasType t = true
  flat : values.length ≤ 1 → cContiguous = true

/-- An element of an object column; `asFloat` is what it converts to as a float. Of the
objects that convert to NaN there are floats and `Decimal("NaN")`, which pyarrow takes as
missing; `NaT` and the NaN of another numpy float are left out. -/
inductive PyObject where
  | none
  | str (text : String)
  | float (x : Binary binary64)
  | decimalNaN
  | other (typeName : String) (asFloat : Option {x : Binary binary64 // x.isNaN = false})
deriving DecidableEq

namespace PyObject

def asFloat64? : PyObject → Option (Binary binary64)
  | float x => some x
  | decimalNaN => some (Binary.quietNaN binary64 false)
  | other _ asFloat => asFloat.map Subtype.val
  | none | str _ => Option.none

def isStr : PyObject → Bool
  | str _ => true
  | _ => false

def typeName : PyObject → String
  | none => "NoneType"
  | str _ => "str"
  | float _ => "float"
  | decimalNaN => "Decimal"
  | other typeName _ => typeName

def isMissing : PyObject → Bool
  | none => true
  | value => value.asFloat64?.any Binary.isNaN

end PyObject

inductive Series where
  | arrow (array : ChunkedArray)
  | categorical (ordered : Bool) (array : Option CategoricalArray)
  | datetimeTz (unit tz : String) (ticks : List (Option Int)) (cContiguous : Bool)
  | extension (typeName : String) (length : Nat)
  | numeric (array : NumpyArray)
  | bool (values : List Bool) (cContiguous : Bool)
  | object (values : List PyObject) (cContiguous : Bool)
  | datetime64 (unit : String) (ticks : List (Option Int)) (cContiguous : Bool)
  | timedelta64 (unit : String) (ticks : List (Option Int)) (cContiguous : Bool)
  | other (dtype : OtherDtype) (length : Nat) (cContiguous : Bool)

namespace Series

def dtype : Series → Dtype
  | arrow array => .arrow array.dataType
  | categorical ordered _ => .categorical ordered
  | datetimeTz unit tz _ _ => .datetimeTz unit tz
  | extension typeName _ => .extension typeName
  | numeric array => .numpy (.numeric array.dtype)
  | bool _ _ => .numpy .bool
  | object _ _ => .numpy .object
  | datetime64 unit _ _ => .numpy (.datetime64 unit)
  | timedelta64 unit _ _ => .numpy (.timedelta64 unit)
  | other dtype _ _ => .numpy (.other dtype)

def length : Series → Nat
  | arrow array => array.chunks.flatten.length
  | categorical _ (some array) => array.slots.length
  | categorical _ none => 0
  | datetimeTz _ _ ticks _ => ticks.length
  | extension _ length => length
  | numeric array => array.values.length
  | bool values _ => values.length
  | object values _ => values.length
  | datetime64 _ ticks _ => ticks.length
  | timedelta64 _ ticks _ => ticks.length
  | other _ length _ => length

/-- `series.values.flags.c_contiguous`; `none` where the values have no flags. -/
def cContiguous : Series → Option Bool
  | datetimeTz _ _ _ flag => some flag
  | numeric array => some array.cContiguous
  | bool _ flag => some flag
  | object _ flag => some flag
  | datetime64 _ _ flag => some flag
  | timedelta64 _ _ flag => some flag
  | other _ _ flag => some flag
  | _ => none

/-! ## What the export makes of a column -/

/-- The Arrow type of the exported column, where that is documented. -/
def exportType : Series → Option DataType
  | arrow array => some array.dataType
  | categorical _ array => array.map fun array => .dictionary array.key array.value
  | datetimeTz unit tz _ _ => if unit = "ns" then some (.timestamp .nanosecond (some tz)) else none
  | numeric array => if array.native then array.dtype.arrowType else none
  | bool _ _ => some .boolean
  | object values _ =>
      if values.all (fun value => value.isStr || value.isMissing) then
        some (if values.any PyObject.isStr then .utf8 else .null)
      else none
  | datetime64 unit _ _ => if unit = "ns" then some (.timestamp .nanosecond none) else none
  | timedelta64 unit _ _ => if unit = "ns" then some (.duration .nanosecond) else none
  | extension _ _ | other _ _ _ => none

/-- The exported slots: a numpy NaN becomes null, as does what an object column
misses. -/
def exportSlots : Series → List Slot
  | arrow array => array.chunks.flatten
  | categorical _ (some array) => array.slots
  | datetimeTz _ _ ticks _ => ticks.map (Option.map Value.ticks)
  | numeric array => array.values.map fun v => if v.isNaN then none else some v
  | bool values _ => values.map fun b => some (.boolean b)
  | object values _ => values.map fun
      | .str text => some (.utf8 text)
      | _ => none
  | datetime64 _ ticks _ => ticks.map (Option.map Value.ticks)
  | timedelta64 _ ticks _ => ticks.map (Option.map Value.ticks)
  | categorical _ none | extension _ _ | other _ _ _ => []

theorem length_exportSlots {series : Series} {t : DataType} (h : series.exportType = some t) :
    series.exportSlots.length = series.length := by
  cases series with
  | categorical ordered array =>
      cases array with
      | none => cases h
      | some array => rfl
  | extension => cases h
  | other => cases h
  | _ => simp [exportSlots, length]

end Series

structure DataFrame where
  columns : List (Label × Series)
  numRows : Nat
  sized : ∀ column ∈ columns, column.2.length = numRows

namespace DataFrame

/-- `df[label]`. Several columns of one label make a frame, and the next step asks it
for the dtype it does not have. -/
def getItem (df : DataFrame) (label : Label) : Except PydartError Series :=
  match df.columns.filter (fun column => decide (column.1 = label)) with
  | [] => .error (.python "KeyError")
  | [column] => .ok column.2
  | _ => .error (.python "AttributeError")

end DataFrame

/-! ## Pandas and pyarrow -/

/-- An array and whether its buffers were copied out of the frame. -/
structure Imported where
  array : ArrowArray
  copied : Bool

structure StreamTable where
  field : Field
  batches : List Imported
  typed : ∀ batch ∈ batches, batch.array.dataType = field.dataType

/-- No field of that name has another type. -/
def Schema.Tells (schema : Schema) (field : Field) : Prop :=
  ∀ other ∈ schema, other.name = field.name → other.dataType = field.dataType

def Schema.OneType (schema : Schema) : Prop :=
  ∀ field ∈ schema, schema.Tells field

def Reconstructs (typesMapper : DataType → Option Dtype) (field : Field) (slots : List Slot)
    (column : Label × Series) : Prop :=
  column.1 = .str field.name ∧
    match typesMapper field.dataType with
    | some _ => ∃ array, column.2 = .arrow array ∧ array.dataType = field.dataType ∧
        array.chunks.flatten = slots
    | none => ∃ array : CategoricalArray, column.2 = .categorical field.ordered (some array) ∧
        field.dataType = .dictionary array.key array.value ∧ array.slots = slots

/-- What the conversion relies on. `str` is `str(dtype)`, `debug` the `{:?}` of a string. -/
structure PandasCrates where
  str : Dtype → String
  debug : String → String
  arrowCStream : Label → Series → Except PydartError StreamTable
  concat : List ArrowArray → Except ArrowError ArrowArray
  tableToPandas : (DataType → Option Dtype) → Schema → List RecordBatch →
    Except PydartError DataFrame
  stream_ok : ∀ label {series t}, series.exportType = some t →
    ∃ table, arrowCStream label series = .ok table ∧ table.field.dataType = t ∧
      table.batches.flatMap (·.array.slots) = series.exportSlots
  stream_nullable : ∀ {label series table}, arrowCStream label series = .ok table →
    table.field.nullable = true
  /-- Neither swapped bytes nor extended floats have an Arrow form. -/
  stream_numeric_error : ∀ label {array}, (Series.numeric array).exportType = none →
    ∃ e, arrowCStream label (.numeric array) = .error e
  /-- Nor do categories of mixed types. -/
  stream_categorical_error : ∀ label ordered,
    ∃ e, arrowCStream label (.categorical ordered none) = .error e
  stream_shares : ∀ {label array table}, arrowCStream label (.arrow array) = .ok table →
    ∀ batch ∈ table.batches, batch.copied = false
  stream_copies : ∀ {label series table}, (∀ array, series ≠ .arrow array) →
    arrowCStream label series = .ok table → ∀ batch ∈ table.batches, batch.copied = true
  /-- The keys of joined dictionaries are taken to fit their type. -/
  concat_ok : ∀ {arrays t}, arrays ≠ [] → (∀ array ∈ arrays, array.dataType = t) →
    ∃ result, concat arrays = .ok result ∧ result.dataType = t ∧
      result.slots = arrays.flatMap (·.slots)
  tableToPandas_labels : ∀ {typesMapper schema batches df},
    tableToPandas typesMapper schema batches = .ok df →
      df.columns.map (·.1) = schema.map fun field => Label.str field.name
  /-- Columns mapped to their own `ArrowDtype`, or not mapped and dictionaries. The dtypes
  are looked up by the names of the columns. -/
  tableToPandas_column : ∀ {typesMapper schema batches df},
    (∀ batch ∈ batches, batch.schema = schema) →
    (∀ field ∈ schema, typesMapper field.dataType = some (.arrow field.dataType) ∨
      (typesMapper field.dataType = none ∧ ∃ key value, field.dataType = .dictionary key value)) →
    tableToPandas typesMapper schema batches = .ok df →
    ∀ j field column, schema[j]? = some field → df.columns[j]? = some column →
      schema.Tells field →
        Reconstructs typesMapper field ((batches.flatMap (·.rows)).map (·.getD j none)) column
  /-- A name for several types may have a column cast to a type that does not hold it. -/
  tableToPandas_ok : ∀ {typesMapper schema batches}, (∀ batch ∈ batches, batch.schema = schema) →
    (∀ field ∈ schema, typesMapper field.dataType = some (.arrow field.dataType) ∨
      (typesMapper field.dataType = none ∧ ∃ key value, field.dataType = .dictionary key value)) →
    schema.OneType → ∃ df, tableToPandas typesMapper schema batches = .ok df

end Pydart
