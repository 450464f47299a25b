import Pydart.Ieee.Exact

/-! # Filter comparison

`could_match_range` and the value comparison under it, as both halves of a
filtered read share them. A missing bound or an incomparable pair keeps the
group, except that `eq` takes an incomparable pair as different.
-/

namespace Pydart

open Ieee Ieee.Format

inductive Op where
  | eq
  | ne
  | lt
  | le
  | gt
  | ge
deriving DecidableEq, Repr

inductive ScalarValue where
  | int64 (v : Int64)
  | float64 (v : Binary binary64)
  | bool (v : Bool)
  | utf8 (v : String)
deriving DecidableEq

structure FilterExpr where
  column : String
  op : Op
  value : ScalarValue
deriving DecidableEq

/-- `i64 as f64`. -/
def asFloat64 (v : Int64) : Binary binary64 := Binary.ofInt binary64 v.toInt

namespace ScalarValue

def compare (a b : ScalarValue) : Option Ordering :=
  match a, b with
  | int64 x, int64 y => some (Ord.compare x.toInt y.toInt)
  | float64 x, float64 y => x.partialCmp y
  | bool x, bool y => some (Ord.compare x y)
  | utf8 x, utf8 y => some (Ord.compare x y)
  | int64 x, float64 y => (asFloat64 x).partialCmp y
  | float64 x, int64 y => x.partialCmp (asFloat64 y)
  | _, _ => none

def le (a b : ScalarValue) : Bool := compare a b != some .gt

def lt (a b : ScalarValue) : Bool := compare a b == some .lt || compare a b == none

def eq (a b : ScalarValue) : Bool := compare a b == some .eq

end ScalarValue

def couldMatchRange (op : Op) (value : ScalarValue) (min max : Option ScalarValue) : Bool :=
  match min, max with
  | some min, some max =>
      match op with
      | .eq => min.le value && value.le max
      | .ne => !(min.eq max && min.eq value)
      | .lt => min.lt value
      | .le => min.le value
      | .gt => value.lt max
      | .ge => value.le max
  | _, _ => true

/-! ## Operators as relations -/

namespace Op

def test : Op → Ordering → Bool
  | eq, o => o == .eq
  | ne, o => o != .eq
  | lt, o => o == .lt
  | le, o => o != .gt
  | gt, o => o == .gt
  | ge, o => o != .lt

def Holds {α : Type} [LinearOrder α] : Op → α → α → Prop
  | eq, a, b => a = b
  | ne, a, b => a ≠ b
  | lt, a, b => a < b
  | le, a, b => a ≤ b
  | gt, a, b => b < a
  | ge, a, b => b ≤ a

theorem test_compare {α : Type} [LinearOrder α] {op : Op} {a b : α} :
    op.test (compare a b) = true ↔ op.Holds a b := by
  cases op with
  | eq => simp [test, Holds]
  | ne => simp [test, Holds]
  | lt => simp [test, Holds, compare_lt_iff_lt]
  | le => simp [test, Holds, compare_gt_iff_gt]
  | gt => simp [test, Holds, compare_gt_iff_gt]
  | ge => simp [test, Holds, compare_lt_iff_lt]

/-! Each operator as the outcomes it accepts. -/

theorem holds_of_lt {α : Type} [LinearOrder α] {a b : α} (h : a < b) (op : Op) :
    op.Holds a b ↔ op = ne ∨ op = lt ∨ op = le := by
  cases op <;> simp [Holds, h, h.le, h.ne]

theorem holds_of_eq {α : Type} [LinearOrder α] {a b : α} (h : a = b) (op : Op) :
    op.Holds a b ↔ op = eq ∨ op = le ∨ op = ge := by
  cases op <;> simp [Holds, h]

theorem holds_of_gt {α : Type} [LinearOrder α] {a b : α} (h : b < a) (op : Op) :
    op.Holds a b ↔ op = ne ∨ op = gt ∨ op = ge := by
  cases op <;> simp [Holds, h, h.le, h.ne']

instance {α : Type} [LinearOrder α] (op : Op) (a b : α) : Decidable (op.Holds a b) :=
  decidable_of_iff _ test_compare

end Op

end Pydart
