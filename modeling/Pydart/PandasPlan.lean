import Mathlib.Tactic.Common

/-! # The copy-or-borrow decision

`plan_column`, the one matrix that both the conversion and its diagnostics read:
for each memory layout and kind of values, whether a column can be borrowed.
-/

namespace Pydart

inductive DtypeBackend where
  | arrow
  | numpy
  | categorical
deriving DecidableEq, Repr

inductive ArrowKind where
  | numeric
  | bool
  | string
  | categorical
  | timestamp (tz : Option String)
  | duration
deriving DecidableEq, Repr

inductive ColumnPlan where
  | zeroCopyBorrow
  | requiresCopy (reason : String)
deriving DecidableEq, Repr

def planColumn (dtypeBackend : DtypeBackend) (arrowKind : ArrowKind) (isContiguous : Bool) :
    ColumnPlan :=
  match dtypeBackend, arrowKind with
  | .arrow, .numeric => .zeroCopyBorrow
  | .arrow, .bool => .zeroCopyBorrow
  | .numpy, .numeric =>
      if isContiguous then .zeroCopyBorrow
      else
        .requiresCopy
          ("numpy buffer is not contiguous (or has a non-standard stride); cannot be " ++
            "borrowed as a flat contiguous buffer without risking an out-of-bounds read")
  | .numpy, .bool =>
      .requiresCopy
        ("numpy bool is stored as 1 byte per element while Arrow bool is bit-packed " ++
          "at 1 bit per element; converting requires a repacking copy")
  | .arrow, .string => .zeroCopyBorrow
  | .numpy, .string =>
      .requiresCopy
        ("numpy object-dtype string column stores boxed Python str pointers with no " ++
          "contiguous Arrow-compatible UTF-8 buffer; materializing an Arrow string " ++
          "array requires a copy")
  | .categorical, .categorical =>
      .requiresCopy
        ("pandas Categorical stores a split codes+categories representation with no " ++
          "single flat Arrow-compatible buffer; dictionary-encoding it into an Arrow " ++
          "DictionaryArray requires a copy (OQ2)")
  | .arrow, .timestamp _ => .zeroCopyBorrow
  | .arrow, .duration => .zeroCopyBorrow
  | .numpy, .timestamp _ =>
      .requiresCopy
        ("numpy datetime64[ns] storage (plain or tz-aware DatetimeTZDtype) is not an " ++
          "Arrow-compatible buffer; materializing an Arrow Timestamp array requires a " ++
          "copy via the pandas stream fallback (D-15)")
  | .numpy, .duration =>
      .requiresCopy
        ("numpy timedelta64[ns] storage is not an Arrow-compatible buffer; " ++
          "materializing an Arrow Duration array requires a copy via the pandas " ++
          "stream fallback (D-15)")
  | .arrow, .categorical
  | .numpy, .categorical
  | .categorical, .numeric
  | .categorical, .bool
  | .categorical, .string
  | .categorical, .timestamp _
  | .categorical, .duration =>
      .requiresCopy
        ("unexpected dtype backend/kind pairing; defaulting to a safe copy rather " ++
          "than an unreachable panic")

/-- What the matrix promises to borrow: arrow memory, and flat numpy numbers. -/
theorem planColumn_eq_zeroCopyBorrow_iff {backend : DtypeBackend} {kind : ArrowKind}
    {isContiguous : Bool} :
    planColumn backend kind isContiguous = .zeroCopyBorrow ↔
      (backend = .arrow ∧ kind ≠ .categorical) ∨
        (backend = .numpy ∧ kind = .numeric ∧ isContiguous = true) := by
  cases backend <;> cases kind <;> cases isContiguous <;> simp [planColumn, -String.reduceAppend]

end Pydart
