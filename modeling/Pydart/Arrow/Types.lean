import Pydart.Ieee.Exact

/-! # Arrow data types and their values

The part of the Arrow type system the program tells apart. A column holds slots,
each a value or null, and a dictionary column is described by its decoded slots.
-/

namespace Pydart

open Ieee Ieee.Format

inductive TimeUnit where
  | second
  | millisecond
  | microsecond
  | nanosecond
deriving DecidableEq, Repr

/-- `nested` keeps the leaf paths below the column, at least one; `other` stands
for any remaining physical type, a struct without fields among them. -/
inductive DataType where
  | null
  | boolean
  | int8
  | int16
  | int32
  | int64
  | uint8
  | uint16
  | uint32
  | uint64
  | float16
  | float32
  | float64
  | utf8
  | largeUtf8
  | timestamp (unit : TimeUnit) (timezone : Option String)
  | duration (unit : TimeUnit)
  | dictionary (key value : DataType)
  | nested (leaf : List String) (leaves : List (List String))
  | other (name : String)
deriving DecidableEq, Repr

/-- A non-null slot; `ticks` is a timestamp or duration, `raw` a value of a type
the program never looks into. -/
inductive Value where
  | boolean (b : Bool)
  | int (n : Int)
  | float16 (x : Binary binary16)
  | float32 (x : Binary binary32)
  | float64 (x : Binary binary64)
  | utf8 (s : String)
  | ticks (n : Int)
  | raw (text : String)
deriving DecidableEq

abbrev Slot := Option Value

namespace DataType

def integerKind : DataType → Option (Bool × Nat)
  | int8 => some (true, 8)
  | int16 => some (true, 16)
  | int32 => some (true, 32)
  | int64 => some (true, 64)
  | uint8 => some (false, 8)
  | uint16 => some (false, 16)
  | uint32 => some (false, 32)
  | uint64 => some (false, 64)
  | _ => none

def isInteger (t : DataType) : Bool := t.integerKind.isSome

/-- The type of the decoded values: a dictionary stores its value type. -/
def storage : DataType → DataType
  | dictionary _ value => value.storage
  | t => t

def isNested (t : DataType) : Bool :=
  match t.storage with
  | nested _ _ => true
  | _ => false

/-- The integer `n` is a value of the type. -/
def fits (t : DataType) (n : Int) : Bool :=
  match t.integerKind with
  | some (true, width) => decide (-(2 ^ (width - 1)) ≤ n ∧ n < 2 ^ (width - 1))
  | some (false, width) => decide (0 ≤ n ∧ n < 2 ^ width)
  | none => false

@[simp]
theorem storage_storage (t : DataType) : t.storage.storage = t.storage := by
  induction t <;> simp_all [storage]

theorem storage_of_isInteger {t : DataType} (h : t.isInteger = true) : t.storage = t := by
  cases t <;> simp_all [isInteger, integerKind, storage]

theorem isInteger_of_fits {t : DataType} {n : Int} (h : t.fits n = true) :
    t.isInteger = true := by
  unfold fits at h
  rw [isInteger]
  split at h
  · simp_all
  · simp_all
  · exact absurd h (by simp)

end DataType

def Value.hasStorage : DataType → Value → Bool
  | .boolean, .boolean _ => true
  | .float16, .float16 _ => true
  | .float32, .float32 _ => true
  | .float64, .float64 _ => true
  | .utf8, .utf8 _ => true
  | .largeUtf8, .utf8 _ => true
  | .timestamp _ _, .ticks _ => true
  | .duration _, .ticks _ => true
  | .nested _ _, .raw _ => true
  | .other _, .raw _ => true
  | t, .int n => t.fits n
  | _, _ => false

/-- A value of the type; a dictionary column holds values of its value type. -/
def Value.hasType (t : DataType) (v : Value) : Bool := v.hasStorage t.storage

namespace Value

def isNaN : Value → Bool
  | float16 x => x.isNaN
  | float32 x => x.isNaN
  | float64 x => x.isNaN
  | _ => false

theorem hasStorage_int_iff {t : DataType} {v : Value} (ht : t.isInteger = true) :
    v.hasStorage t = true ↔ ∃ n, v = .int n ∧ t.fits n = true := by
  cases t <;> simp_all [DataType.isInteger, DataType.integerKind] <;>
    cases v <;> simp [hasStorage]

theorem hasStorage_float64_iff {v : Value} :
    v.hasStorage .float64 = true ↔ ∃ x, v = .float64 x := by
  cases v <;> simp [hasStorage, DataType.fits, DataType.integerKind]

theorem hasStorage_float32_iff {v : Value} :
    v.hasStorage .float32 = true ↔ ∃ x, v = .float32 x := by
  cases v <;> simp [hasStorage, DataType.fits, DataType.integerKind]

theorem hasStorage_boolean_iff {v : Value} :
    v.hasStorage .boolean = true ↔ ∃ b, v = .boolean b := by
  cases v <;> simp [hasStorage, DataType.fits, DataType.integerKind]

end Value
end Pydart
