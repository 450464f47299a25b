import Mathlib.Data.String.Basic
import Pydart.Parquet.Pruning

/-! # How exact the range test is

On one ordered kind `could_match_range` is exact. Between integers and floats it
compares after widening, and is sound except where the widening merges two
different numbers that the operator tells apart.
-/

namespace Pydart

open Ieee Ieee.Format Binary

/-! ## The range test on an order -/

namespace Op

/-- Whether the operator can hold of a value of a range, read off its bounds. -/
def Meets {α : Type} [LinearOrder α] : Op → α → α → α → Prop
  | eq, v, lo, hi => lo ≤ v ∧ v ≤ hi
  | ne, v, lo, hi => ¬ (lo = hi ∧ lo = v)
  | lt, v, lo, _ => lo < v
  | le, v, lo, _ => lo ≤ v
  | gt, v, _, hi => v < hi
  | ge, v, _, hi => v ≤ hi

section

variable {α : Type} [LinearOrder α] {op : Op} {v lo hi x : α}

theorem meets_of_holds (hlo : lo ≤ x) (hhi : x ≤ hi) (hx : op.Holds x v) :
    op.Meets v lo hi := by
  cases op with
  | eq => exact ⟨hx ▸ hlo, hx ▸ hhi⟩
  | ne =>
      rintro ⟨rfl, rfl⟩
      exact hx (le_antisymm hhi hlo)
  | lt => exact lt_of_le_of_lt hlo hx
  | le => exact le_trans hlo hx
  | gt => exact lt_of_lt_of_le hx hhi
  | ge => exact le_trans hx hhi

/-- A bound is the value looked for, unless the operator asks for equality. -/
theorem bound_holds_of_meets (hne : op ≠ eq) (hmeets : op.Meets v lo hi) :
    op.Holds lo v ∨ op.Holds hi v := by
  cases op with
  | eq => exact absurd rfl hne
  | ne =>
      by_cases hlov : lo = v
      · exact Or.inr fun hhiv => hmeets ⟨hlov.trans hhiv.symm, hlov⟩
      · exact Or.inl hlov
  | lt => exact Or.inl hmeets
  | le => exact Or.inl hmeets
  | gt => exact Or.inr hmeets
  | ge => exact Or.inr hmeets

theorem exists_holds_iff_meets (hle : lo ≤ hi) :
    (∃ x, lo ≤ x ∧ x ≤ hi ∧ op.Holds x v) ↔ op.Meets v lo hi := by
  constructor
  · rintro ⟨x, hlo, hhi, hx⟩
    exact meets_of_holds hlo hhi hx
  · intro hmeets
    by_cases hop : op = eq
    · subst hop
      exact ⟨v, hmeets.1, hmeets.2, rfl⟩
    · rcases bound_holds_of_meets hop hmeets with hx | hx
      · exact ⟨lo, le_refl lo, hle, hx⟩
      · exact ⟨hi, hle, le_refl hi, hx⟩

end

end Op

/-! ## One ordered kind -/

/-- Values compared as their keys in an order are tested as the keys are. -/
theorem couldMatchRange_of_compare {α : Type} [LinearOrder α] {value lo hi : ScalarValue}
    {v l h : α} (hlo : lo.compare value = some (Ord.compare l v))
    (hhi : value.compare hi = some (Ord.compare v h))
    (hbounds : lo.compare hi = some (Ord.compare l h)) (op : Op) :
    couldMatchRange op value (some lo) (some hi) = true ↔ op.Meets v l h := by
  cases op <;>
    simp [couldMatchRange, ScalarValue.le, ScalarValue.lt, ScalarValue.eq, hlo, hhi, hbounds,
      Op.Meets, compare_gt_iff_gt, compare_lt_iff_lt, ← not_and_or]

namespace ScalarValue

inductive Kind where
  | int64
  | float64
  | bool
  | utf8
deriving DecidableEq

def kind : ScalarValue → Kind
  | int64 _ => .int64
  | float64 _ => .float64
  | bool _ => .bool
  | utf8 _ => .utf8

def Kind.Comparable (a b : Kind) : Prop :=
  a = b ∨ (a = .int64 ∧ b = .float64) ∨ (a = .float64 ∧ b = .int64)

theorem compare_eq_none {a b : ScalarValue} (h : ¬ a.kind.Comparable b.kind) :
    a.compare b = none ∧ b.compare a = none := by
  cases a <;> cases b <;> simp [kind, Kind.Comparable, compare] at h ⊢

end ScalarValue

theorem couldMatchRange_none {min max : Option ScalarValue} (h : min = none ∨ max = none)
    (op : Op) (value : ScalarValue) : couldMatchRange op value min max = true := by
  rcases h with rfl | rfl
  · rfl
  · cases min <;> rfl

theorem couldMatchRange_not_comparable {value lo hi : ScalarValue}
    (hlo : ¬ lo.kind.Comparable value.kind) (hhi : ¬ hi.kind.Comparable value.kind) (op : Op) :
    couldMatchRange op value (some lo) (some hi) = true :=
  couldMatchRange_incomparable op value lo hi (ScalarValue.compare_eq_none hlo).1
    (ScalarValue.compare_eq_none hhi).2

/-- Bounds of the literal's own ordered kind decide the range; a missing bound or
bounds that do not compare with the literal keep it. -/
theorem couldMatchRange_exact (op : Op) :
    (∀ v lo hi : Int64, lo ≤ hi →
      (couldMatchRange op (.int64 v) (some (.int64 lo)) (some (.int64 hi)) = true ↔
        ∃ x : Int64, lo ≤ x ∧ x ≤ hi ∧ op.Holds x.toInt v.toInt)) ∧
    (∀ v lo hi : Bool, lo ≤ hi →
      (couldMatchRange op (.bool v) (some (.bool lo)) (some (.bool hi)) = true ↔
        ∃ x : Bool, lo ≤ x ∧ x ≤ hi ∧ op.Holds x v)) ∧
    (∀ v lo hi : String, lo ≤ hi →
      (couldMatchRange op (.utf8 v) (some (.utf8 lo)) (some (.utf8 hi)) = true ↔
        ∃ x : String, lo ≤ x ∧ x ≤ hi ∧ op.Holds x v)) ∧
    (∀ (value : ScalarValue) (min max : Option ScalarValue), min = none ∨ max = none →
      couldMatchRange op value min max = true) ∧
    (∀ value lo hi : ScalarValue, ¬ lo.kind.Comparable value.kind →
      ¬ hi.kind.Comparable value.kind →
      couldMatchRange op value (some lo) (some hi) = true) := by
  refine ⟨fun v lo hi hle => ?_, fun v lo hi hle => ?_, fun v lo hi hle => ?_, ?_, ?_⟩
  · rw [couldMatchRange_of_compare (v := v.toInt) (l := lo.toInt) (h := hi.toInt) rfl rfl rfl]
    constructor
    · intro hmeets
      by_cases hop : op = .eq
      · subst hop
        exact ⟨v, Int64.le_iff_toInt_le.mpr hmeets.1, Int64.le_iff_toInt_le.mpr hmeets.2, rfl⟩
      · rcases Op.bound_holds_of_meets hop hmeets with hx | hx
        · exact ⟨lo, Int64.le_refl lo, hle, hx⟩
        · exact ⟨hi, hle, Int64.le_refl hi, hx⟩
    · rintro ⟨x, hlo, hhi, hx⟩
      exact Op.meets_of_holds (Int64.le_iff_toInt_le.mp hlo) (Int64.le_iff_toInt_le.mp hhi) hx
  · rw [couldMatchRange_of_compare (v := v) (l := lo) (h := hi) rfl rfl rfl,
      Op.exists_holds_iff_meets hle]
  · rw [couldMatchRange_of_compare (v := v) (l := lo) (h := hi) rfl rfl rfl,
      Op.exists_holds_iff_meets hle]
  · exact fun value min max h => couldMatchRange_none h op value
  · exact fun value lo hi hlo hhi => couldMatchRange_not_comparable hlo hhi op

theorem couldMatchRange_exact_lt :
    (couldMatchRange .lt (.int64 5) (some (.int64 3)) (some (.int64 9)) = true ↔
      ∃ x : Int64, 3 ≤ x ∧ x ≤ 9 ∧ Op.lt.Holds x.toInt (5 : Int64).toInt) ∧
    (couldMatchRange .lt (.bool false) (some (.bool false)) (some (.bool true)) = true ↔
      ∃ x : Bool, false ≤ x ∧ x ≤ true ∧ Op.lt.Holds x false) ∧
    (couldMatchRange .lt (.utf8 "b") (some (.utf8 "a")) (some (.utf8 "c")) = true ↔
      ∃ x : String, "a" ≤ x ∧ x ≤ "c" ∧ Op.lt.Holds x "b") ∧
    couldMatchRange .lt (.int64 5) none (some (.int64 9)) = true ∧
    couldMatchRange .lt (.int64 5) (some (.utf8 "a")) (some (.bool true)) = true := by
  obtain ⟨hint, hbool, hutf8, hnone, hkind⟩ := couldMatchRange_exact .lt
  exact ⟨hint 5 3 9 (by decide), hbool false false true (by decide),
    hutf8 "b" "a" "c" (by decide), hnone _ _ _ (Or.inl rfl),
    hkind _ _ _ (by simp [ScalarValue.kind, ScalarValue.Kind.Comparable])
      (by simp [ScalarValue.kind, ScalarValue.Kind.Comparable])⟩

/-! ## Integers against floats -/

namespace ScalarValue

/-- The number a numeric value stands for. -/
def number : ScalarValue → ℚ
  | int64 v => v.toInt
  | float64 v => v.toRat
  | _ => 0

/-- The number `compare` takes a numeric value for across kinds. -/
def widened : ScalarValue → ℚ
  | int64 v => (asFloat64 v).toRat
  | float64 v => v.toRat
  | _ => 0

def isFinite : ScalarValue → Bool
  | int64 _ => true
  | float64 v => v.isFinite
  | _ => false

end ScalarValue

/-- A finite literal of one numeric kind and finite bounds of the other, in order. -/
structure Crossed (value lo hi : ScalarValue) : Prop where
  kinds : (value.kind = .float64 ∧ lo.kind = .int64 ∧ hi.kind = .int64) ∨
    (value.kind = .int64 ∧ lo.kind = .float64 ∧ hi.kind = .float64)
  value_finite : value.isFinite = true
  lo_finite : lo.isFinite = true
  hi_finite : hi.isFinite = true
  ordered : lo.number ≤ hi.number

def HasMatch (op : Op) (value lo hi : ScalarValue) : Prop :=
  ∃ x : ScalarValue, x.kind = lo.kind ∧ x.isFinite = true ∧ lo.number ≤ x.number ∧
    x.number ≤ hi.number ∧ op.Holds x.number value.number

/-- Widening merges the literal with a bound it differs from, where the operator
tells the two apart. -/
def Merged (op : Op) (value lo hi : ScalarValue) : Prop :=
  match op with
  | .lt => lo.number < value.number ∧ lo.widened = value.widened
  | .gt => value.number < hi.number ∧ hi.widened = value.widened
  | .ne => lo.number = hi.number ∧ lo.number ≠ value.number ∧ lo.widened = value.widened
  | _ => False

theorem Crossed.widened_le {value lo hi : ScalarValue} (h : Crossed value lo hi) :
    (lo.number ≤ value.number → lo.widened ≤ value.widened) ∧
      (value.number ≤ hi.number → value.widened ≤ hi.widened) := by
  obtain ⟨hkinds, hv, hl, hh, -⟩ := h
  rcases hkinds with ⟨hkv, hkl, hkh⟩ | ⟨hkv, hkl, hkh⟩
  · cases value <;> cases lo <;> cases hi <;>
      simp only [ScalarValue.kind, reduceCtorEq] at hkv hkl hkh
    simp only [ScalarValue.number, ScalarValue.widened, toRat_le_iff]
    exact ⟨ofInt_key_le_of_le hv, le_ofInt_key_of_le hv⟩
  · cases value <;> cases lo <;> cases hi <;>
      simp only [ScalarValue.kind, reduceCtorEq] at hkv hkl hkh
    simp only [ScalarValue.number, ScalarValue.widened, toRat_le_iff]
    exact ⟨le_ofInt_key_of_le hl, ofInt_key_le_of_le hh⟩

/-- The test between kinds reads the widened numbers, save that the two bounds are
of one kind and compared as they are. -/
theorem Crossed.couldMatchRange_iff {value lo hi : ScalarValue} (h : Crossed value lo hi)
    (op : Op) :
    couldMatchRange op value (some lo) (some hi) = true ↔
      if op = .ne then ¬ (lo.number = hi.number ∧ lo.widened = value.widened)
      else op.Meets value.widened lo.widened hi.widened := by
  obtain ⟨hkinds, hv, hl, hh, -⟩ := h
  rw [← not_iff_not, Bool.not_eq_true]
  rcases hkinds with ⟨hkv, hkl, hkh⟩ | ⟨hkv, hkl, hkh⟩
  · cases value <;> cases lo <;> cases hi <;>
      simp only [ScalarValue.kind, reduceCtorEq] at hkv hkl hkh
    have hv := isNaN_eq_false_of_isFinite hv
    have hwide : ∀ a : Int64, (asFloat64 a).isNaN = false := fun a => ofInt_not_nan _ _
    rw [couldMatchRange_float64_int64]
    cases op <;>
      simp [ScalarValue.number, ScalarValue.widened, Op.Meets, Le, Lt, Same, hv, hwide,
        toRat_le_iff, toRat_lt_iff, toRat_eq_iff, or_iff_not_imp_left]
  · cases value <;> cases lo <;> cases hi <;>
      simp only [ScalarValue.kind, reduceCtorEq] at hkv hkl hkh
    have hl := isNaN_eq_false_of_isFinite hl
    have hh := isNaN_eq_false_of_isFinite hh
    have hwide : ∀ a : Int64, (asFloat64 a).isNaN = false := fun a => ofInt_not_nan _ _
    rw [couldMatchRange_int64_float64, couldMatchRange_float64]
    cases op <;>
      simp [ScalarValue.number, ScalarValue.widened, Op.Meets, Le, Lt, Same, hl, hh, hwide,
        toRat_le_iff, toRat_lt_iff, toRat_eq_iff, or_iff_not_imp_left]

theorem meets_of_hasMatch {op : Op} {value lo hi : ScalarValue}
    (hmatch : HasMatch op value lo hi) : op.Meets value.number lo.number hi.number := by
  obtain ⟨x, -, -, hlo, hhi, hx⟩ := hmatch
  exact Op.meets_of_holds hlo hhi hx

theorem Crossed.hasMatch_iff {value lo hi : ScalarValue} (h : Crossed value lo hi) {op : Op}
    (hop : op ≠ .eq) :
    HasMatch op value lo hi ↔ op.Meets value.number lo.number hi.number := by
  refine ⟨meets_of_hasMatch, fun hmeets => ?_⟩
  have hkind : hi.kind = lo.kind := by
    rcases h.kinds with ⟨-, hl, hh⟩ | ⟨-, hl, hh⟩ <;> rw [hl, hh]
  rcases Op.bound_holds_of_meets hop hmeets with hx | hx
  · exact ⟨lo, rfl, h.lo_finite, le_refl _, h.ordered, hx⟩
  · exact ⟨hi, hkind, h.hi_finite, h.ordered, le_refl _, hx⟩

/-- Between integers and floats no match is ruled out, save where widening merges
the literal with the bound the operator looks at. -/
theorem couldMatchRange_crossed_iff {op : Op} {value lo hi : ScalarValue}
    (h : Crossed value lo hi) :
    (HasMatch op value lo hi → couldMatchRange op value (some lo) (some hi) = true) ↔
      ¬ Merged op value lo hi := by
  obtain ⟨hlow, hhigh⟩ := h.widened_le
  rw [h.couldMatchRange_iff]
  cases op with
  | eq =>
      simp only [Merged, not_false_eq_true, iff_true, reduceCtorEq, if_false]
      intro hmatch
      obtain ⟨hl, hh⟩ := meets_of_hasMatch hmatch
      exact ⟨hlow hl, hhigh hh⟩
  | ne =>
      rw [h.hasMatch_iff (by decide)]
      simp only [Op.Meets, Merged, if_true]
      tauto
  | lt =>
      rw [h.hasMatch_iff (by decide)]
      simp only [Op.Meets, Merged, reduceCtorEq, if_false, not_and]
      exact forall_congr' fun hlt => (hlow hlt.le).lt_iff_ne
  | le =>
      simp only [Merged, not_false_eq_true, iff_true, reduceCtorEq, if_false]
      exact fun hmatch => hlow (meets_of_hasMatch hmatch)
  | gt =>
      rw [h.hasMatch_iff (by decide)]
      simp only [Op.Meets, Merged, reduceCtorEq, if_false, not_and]
      exact forall_congr' fun hlt => (hhigh hlt.le).lt_iff_ne'
  | ge =>
      simp only [Merged, not_false_eq_true, iff_true, reduceCtorEq, if_false]
      exact fun hmatch => hhigh (meets_of_hasMatch hmatch)

/-- `2^53 + 1` against the literal `2^53`. -/
def mergedBound : ScalarValue := .int64 9007199254740993

theorem crossed_mergedBound :
    Crossed (.float64 (ofInt binary64 9007199254740992)) mergedBound mergedBound where
  kinds := Or.inl ⟨rfl, rfl, rfl⟩
  value_finite := by decide +kernel
  lo_finite := rfl
  hi_finite := rfl
  ordered := le_refl _

theorem couldMatchRange_crossed_mergedBound :
    (HasMatch .ge (.float64 (ofInt binary64 9007199254740992)) mergedBound mergedBound →
      couldMatchRange .ge (.float64 (ofInt binary64 9007199254740992)) (some mergedBound)
        (some mergedBound) = true) ↔
      ¬ Merged .ge (.float64 (ofInt binary64 9007199254740992)) mergedBound mergedBound :=
  couldMatchRange_crossed_iff crossed_mergedBound

/-- The one value of the range is above the literal, and the range is ruled out. -/
theorem couldMatchRange_loses_match :
    Crossed (.float64 (ofInt binary64 9007199254740992)) mergedBound mergedBound ∧
      HasMatch .gt (.float64 (ofInt binary64 9007199254740992)) mergedBound mergedBound ∧
      couldMatchRange .gt (.float64 (ofInt binary64 9007199254740992)) (some mergedBound)
        (some mergedBound) = false := by
  refine ⟨crossed_mergedBound, ⟨mergedBound, rfl, rfl, le_refl _, le_refl _, ?_⟩, by decide +kernel⟩
  have hvalue : (ScalarValue.float64 (ofInt binary64 9007199254740992)).number =
      9007199254740992 := by decide +kernel
  have hbound : mergedBound.number = 9007199254740993 := by decide +kernel
  rw [Op.Holds, hbound, hvalue]
  norm_num

end Pydart
