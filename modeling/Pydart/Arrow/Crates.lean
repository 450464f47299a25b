import Pydart.Arrow.Batch

/-! # The arrow kernels

What the program relies on of the arrow crate, as a parameter with its
documented behaviour: the safe cast, the comparison kernels and concatenation.
-/

namespace Pydart

open Ieee Ieee.Format

inductive Kernel where
  | eq
  | neq
  | lt
  | ltEq
  | gt
  | gtEq
deriving DecidableEq, Repr

abbrev BooleanArray := List (Option Bool)

namespace Kernel

def holds : Kernel → Ordering → Bool
  | eq, o => o == .eq
  | neq, o => o != .eq
  | lt, o => o == .lt
  | ltEq, o => o != .gt
  | gt, o => o == .gt
  | gtEq, o => o != .lt

/-- One slot of the result, null when either side is. -/
def slot (kernel : Kernel) (order : Value → Value → Ordering) : Slot → Slot → Option Bool
  | some a, some b => some (kernel.holds (order a b))
  | _, _ => none

end Kernel

namespace DataType

/-- The types whose statistics and comparisons the crates support outright. -/
def isBasic : DataType → Bool
  | boolean | float16 | float32 | float64 | utf8 | largeUtf8 => true
  | t => t.isInteger

end DataType

/-! ## Conversions of the safe cast -/

/-- Out of the range of the target means null. -/
def integerToInteger (target : DataType) : Value → Slot
  | .int n => if target.fits n then some (.int n) else none
  | _ => none

def integerToFloat32 : Value → Slot
  | .int n => some (.float32 (Binary.ofInt binary32 n))
  | _ => none

def integerToFloat64 : Value → Slot
  | .int n => some (.float64 (Binary.ofInt binary64 n))
  | _ => none

/-- Truncation toward zero; NaN, the infinities and overflow give null. -/
def float64ToInteger (target : DataType) : Value → Slot
  | .float64 x =>
      if x.isFinite && target.fits x.truncate then some (.int x.truncate) else none
  | _ => none

def float64ToFloat32Slot (narrow : Binary binary64 → Binary binary32) : Value → Slot
  | .float64 x => some (.float32 (narrow x))
  | _ => none

/-- The cast takes arrays of type `source` to `target` slot by slot. -/
def Converts (cast : ArrowArray → DataType → Except ArrowError ArrowArray)
    (source target : DataType) (convert : Value → Slot) : Prop :=
  ∀ array : ArrowArray, array.dataType = source →
    ∃ casted, cast array target = .ok casted ∧ casted.slots = array.slots.map (·.bind convert)

/-- Columns that can be appended to one another. -/
def SameColumns (a b : Schema) : Prop :=
  List.Forall₂ (fun x y => x.dataType = y.dataType ∧ x.nullable = y.nullable) a b

structure ArrowKernels where
  cast : ArrowArray → DataType → Except ArrowError ArrowArray
  compare : Kernel → ArrowArray → ArrowArray → Except ArrowError BooleanArray
  concatBatches : Schema → List RecordBatch → Except ArrowError RecordBatch
  /-- The order the comparison kernels use on the values of a storage type. -/
  order : DataType → Value → Value → Ordering
  /-- The types the comparison kernels accept. -/
  comparable : DataType → Bool
  /-- Rounding to nearest, with the payload of a NaN left open. -/
  float64ToFloat32 : Binary binary64 → Binary binary32
  cast_shape : ∀ {array target casted}, cast array target = .ok casted →
    casted.dataType = target ∧ casted.slots.length = array.slots.length
  cast_same : ∀ array, cast array array.dataType = .ok array
  cast_int64_integer : ∀ {target}, target.isInteger = true →
    Converts cast .int64 target (integerToInteger target)
  cast_int64_float32 : Converts cast .int64 .float32 integerToFloat32
  cast_int64_float64 : Converts cast .int64 .float64 integerToFloat64
  cast_float64_integer : ∀ {target}, target.isInteger = true →
    Converts cast .float64 target (float64ToInteger target)
  cast_float64_float32 :
    Converts cast .float64 .float32 (float64ToFloat32Slot float64ToFloat32)
  float64ToFloat32_of_not_nan : ∀ {x}, x.isNaN = false →
    float64ToFloat32 x = Binary.convert binary32 x
  float64ToFloat32_isNaN : ∀ {x}, x.isNaN = true → (float64ToFloat32 x).isNaN = true
  /-- A literal is packed into a dictionary after the cast to its value type. -/
  cast_dictionary : ∀ {array key value casted}, array.dataType.isBasic = true →
    cast array (.dictionary key value) = .ok casted →
      ∃ plain, cast array value = .ok plain ∧ plain.slots = casted.slots
  cast_dictionary_ok : ∀ {array key value plain}, key.isInteger = true → value.isBasic = true →
    value ≠ .boolean → array.slots.length ≤ 1 → cast array value = .ok plain →
      ∃ casted, cast array (.dictionary key value) = .ok casted
  /-- The kernels compare slot by slot with a one-slot right-hand side. -/
  compare_ok : ∀ {kernel column scalar literal}, column.dataType = scalar.dataType →
    comparable column.dataType = true → scalar.slots = [literal] →
      compare kernel column scalar =
        .ok (column.slots.map (kernel.slot (order column.dataType.storage) · literal))
  compare_error : ∀ {kernel column scalar}, column.dataType = scalar.dataType →
    comparable column.dataType = false → ∃ e, compare kernel column scalar = .error e
  comparable_basic : ∀ {t}, t.storage.isBasic = true → comparable t = true
  comparable_nested : ∀ {t}, t.isNested = true → comparable t = false
  order_int : ∀ {t}, t.isInteger = true → ∀ a b, order t (.int a) (.int b) = Ord.compare a b
  order_float32 : ∀ a b, order .float32 (.float32 a) (.float32 b) = a.totalCmp b
  order_float64 : ∀ a b, order .float64 (.float64 a) (.float64 b) = a.totalCmp b
  order_boolean : ∀ a b, order .boolean (.boolean a) (.boolean b) = Ord.compare a b
  /-- The keys of joined dictionaries are taken to fit their type. -/
  concatBatches_ok : ∀ {schema batches}, batches ≠ [] →
    (∀ batch ∈ batches, SameColumns batch.schema schema) →
      ∃ result, concatBatches schema batches = .ok result ∧ result.schema = schema ∧
        result.rows = batches.flatMap (·.rows)

end Pydart
