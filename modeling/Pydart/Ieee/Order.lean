import Pydart.Ieee.Format

/-! # Data of a format and their two orders

The comparison predicates of IEEE 754 see a datum through its signed magnitude:
both zeros have key zero, and a NaN compares with nothing. `totalOrder` sees the
same scale with the zeros told apart and the NaNs placed outside the infinities.
-/

namespace Ieee

/-- A datum of the format: the sign bit and the remaining bits as a magnitude. -/
structure Binary (f : Format) where
  negative : Bool
  magnitude : Nat
  magnitude_lt : magnitude < 2 ^ (f.exponentBits + f.fractionBits)
deriving DecidableEq

namespace Binary

variable {f : Format}

def isNaN (x : Binary f) : Bool := decide (f.infinity < x.magnitude)

def isFinite (x : Binary f) : Bool := decide (x.magnitude < f.infinity)

/-- The signed magnitude, which is what the comparison predicates order by. -/
def key (x : Binary f) : Int := if x.negative then -(x.magnitude : Int) else x.magnitude

/-- The position in `totalOrder`: negative data move down by one, so that the
zeros are told apart and nothing else changes place. -/
def totalKey (x : Binary f) : Int := if x.negative then -(x.magnitude : Int) - 1 else x.magnitude

/-- Comparison with NaN unordered and the zeros equal. -/
def partialCmp (x y : Binary f) : Option Ordering :=
  if x.isNaN || y.isNaN then none else some (compare x.key y.key)

def totalCmp (x y : Binary f) : Ordering := compare x.totalKey y.totalKey

def signedUnits (x : Binary f) : Int :=
  if x.negative then -(f.units x.magnitude : Int) else f.units x.magnitude

def toRat (x : Binary f) : ℚ := x.signedUnits / 2 ^ f.scale

def infinite (f : Format) (negative : Bool) : Binary f := ⟨negative, f.infinity, f.infinity_lt⟩

/-! ## The two keys -/

theorem totalKey_injective {x y : Binary f} (h : x.totalKey = y.totalKey) : x = y := by
  obtain ⟨nx, mx, hx⟩ := x
  obtain ⟨ny, my, hy⟩ := y
  cases nx <;> cases ny <;> simp [totalKey] at h <;> first | (subst h; rfl) | omega

theorem totalKey_eq_iff {x y : Binary f} : x.totalKey = y.totalKey ↔ x = y :=
  ⟨totalKey_injective, fun h => by rw [h]⟩

theorem totalKey_lt_iff (x y : Binary f) :
    x.totalKey < y.totalKey ↔
      x.key < y.key ∨ (x.key = y.key ∧ x.negative = true ∧ y.negative = false) := by
  unfold totalKey key
  cases x.negative <;> cases y.negative <;> simp <;> omega

theorem key_le_of_totalKey_le {x y : Binary f} (h : x.totalKey ≤ y.totalKey) : x.key ≤ y.key := by
  by_contra hlt
  have := (totalKey_lt_iff y x).mpr (Or.inl (by omega))
  omega

theorem key_eq_iff {x y : Binary f} :
    x.key = y.key ↔ x = y ∨ (x.magnitude = 0 ∧ y.magnitude = 0) := by
  obtain ⟨nx, mx, hx⟩ := x
  obtain ⟨ny, my, hy⟩ := y
  cases nx <;> cases ny <;> simp [key] <;> omega

theorem key_eq_zero_iff {x : Binary f} : x.key = 0 ↔ x.magnitude = 0 := by
  unfold key
  cases x.negative <;> simp

/-- The sign tells apart what the key does not. -/
theorem eq_of_key_eq {x y : Binary f} (hkey : x.key = y.key) (hsign : x.negative = y.negative) :
    x = y := by
  rcases key_eq_iff.mp hkey with h | ⟨hx, hy⟩
  · exact h
  · apply totalKey_injective
    rw [totalKey, totalKey, hx, hy, hsign]

/-! ## The comparison predicates -/

theorem partialCmp_of_not_nan {x y : Binary f} (hx : x.isNaN = false) (hy : y.isNaN = false) :
    x.partialCmp y = some (compare x.key y.key) := by
  simp [partialCmp, hx, hy]

theorem partialCmp_nan_left {x : Binary f} (y : Binary f) (hx : x.isNaN = true) :
    x.partialCmp y = none := by
  simp [partialCmp, hx]

theorem partialCmp_nan_right (x : Binary f) {y : Binary f} (hy : y.isNaN = true) :
    x.partialCmp y = none := by
  simp [partialCmp, hy]

/-- The ordered predicates: false as soon as one side is NaN. -/
def Le (x y : Binary f) : Prop := x.isNaN = false ∧ y.isNaN = false ∧ x.key ≤ y.key

def Lt (x y : Binary f) : Prop := x.isNaN = false ∧ y.isNaN = false ∧ x.key < y.key

def Same (x y : Binary f) : Prop := x.isNaN = false ∧ y.isNaN = false ∧ x.key = y.key

instance (x y : Binary f) : Decidable (Le x y) := inferInstanceAs (Decidable (_ ∧ _ ∧ _))
instance (x y : Binary f) : Decidable (Lt x y) := inferInstanceAs (Decidable (_ ∧ _ ∧ _))
instance (x y : Binary f) : Decidable (Same x y) := inferInstanceAs (Decidable (_ ∧ _ ∧ _))

theorem partialCmp_eq_some_iff {x y : Binary f} {o : Ordering} :
    x.partialCmp y = some o ↔
      x.isNaN = false ∧ y.isNaN = false ∧ compare x.key y.key = o := by
  cases hx : x.isNaN with
  | true => simp [partialCmp_nan_left y hx]
  | false =>
      cases hy : y.isNaN with
      | true => simp [partialCmp_nan_right x hy]
      | false => simp [partialCmp_of_not_nan hx hy]

theorem partialCmp_eq_gt_iff {x y : Binary f} : x.partialCmp y = some .gt ↔ Lt y x := by
  rw [partialCmp_eq_some_iff, compare_gt_iff_gt, Lt]
  exact ⟨fun ⟨h₁, h₂, h₃⟩ => ⟨h₂, h₁, h₃⟩, fun ⟨h₁, h₂, h₃⟩ => ⟨h₂, h₁, h₃⟩⟩

theorem partialCmp_eq_eq_iff {x y : Binary f} : x.partialCmp y = some .eq ↔ Same x y := by
  rw [partialCmp_eq_some_iff, compare_eq_iff_eq]
  rfl

theorem isNaN_eq_false_of_isFinite {x : Binary f} (h : x.isFinite = true) : x.isNaN = false := by
  simp only [isFinite, decide_eq_true_eq] at h
  simp only [isNaN, decide_eq_false_iff_not]
  omega

theorem isNaN_iff {x : Binary f} :
    x.isNaN = true ↔ (f.infinity : Int) < x.key ∨ x.key < -(f.infinity : Int) := by
  simp only [isNaN, decide_eq_true_eq, key]
  cases x.negative <;> simp

theorem isNaN_eq_false_iff {x : Binary f} :
    x.isNaN = false ↔ -(f.infinity : Int) ≤ x.key ∧ x.key ≤ f.infinity := by
  rw [← Bool.not_eq_true, isNaN_iff]
  omega

theorem key_sign (x : Binary f) :
    (x.negative = true → x.key ≤ 0) ∧ (x.negative = false → 0 ≤ x.key) := by
  cases hsign : x.negative <;> simp [key, hsign]

/-- A NaN lies beyond every number in the total order, on the side of its sign. -/
theorem totalCmp_nan {x l : Binary f} (hx : x.isNaN = true) (hl : l.isNaN = false) :
    x.totalCmp l = if x.negative then .lt else .gt := by
  rw [isNaN_eq_false_iff] at hl
  have hkey := isNaN_iff.mp hx
  cases hsign : x.negative with
  | true =>
      have hneg : x.key ≤ 0 := by simp [key, hsign]
      have hlt : x.totalKey < l.totalKey := (totalKey_lt_iff x l).mpr (Or.inl (by omega))
      simpa [totalCmp] using compare_lt_iff_lt.mpr hlt
  | false =>
      have hpos : 0 ≤ x.key := by simp [key, hsign]
      have hlt : l.totalKey < x.totalKey := (totalKey_lt_iff l x).mpr (Or.inl (by omega))
      simpa [totalCmp] using compare_gt_iff_gt.mpr hlt

/-! ## Values -/

theorem signedUnits_lt_iff (x y : Binary f) : x.signedUnits < y.signedUnits ↔ x.key < y.key := by
  have hzx := f.units_le_iff (n := 0) (k := x.magnitude)
  have hzy := f.units_le_iff (n := 0) (k := y.magnitude)
  have hxz := f.units_lt_iff (n := 0) (k := x.magnitude)
  have hyz := f.units_lt_iff (n := 0) (k := y.magnitude)
  have hxy := f.units_lt_iff (n := x.magnitude) (k := y.magnitude)
  have hyx := f.units_lt_iff (n := y.magnitude) (k := x.magnitude)
  rw [Format.units_zero] at hzx hzy hxz hyz
  unfold signedUnits key
  cases x.negative <;> cases y.negative <;> simp <;> omega

theorem toRat_lt_iff (x y : Binary f) : x.toRat < y.toRat ↔ x.key < y.key := by
  have hpos : (0 : ℚ) < 2 ^ f.scale := by positivity
  rw [toRat, toRat, div_lt_div_iff_of_pos_right hpos, Int.cast_lt, signedUnits_lt_iff]

theorem toRat_le_iff (x y : Binary f) : x.toRat ≤ y.toRat ↔ x.key ≤ y.key := by
  rw [← not_lt, ← not_lt, toRat_lt_iff]

theorem toRat_eq_iff (x y : Binary f) : x.toRat = y.toRat ↔ x.key = y.key := by
  rw [le_antisymm_iff, toRat_le_iff, toRat_le_iff, ← le_antisymm_iff]

/-! ## Truncation -/

def truncate (x : Binary f) : Int :=
  if x.negative then -((f.units x.magnitude / 2 ^ f.scale : Nat) : Int)
  else ((f.units x.magnitude / 2 ^ f.scale : Nat) : Int)

theorem truncate_eq_iff (x : Binary f) (n : Int) : (n : ℚ) = x.toRat → x.truncate = n := by
  intro h
  have hpos : (0 : ℚ) < 2 ^ f.scale := by positivity
  have hu : n * 2 ^ f.scale = x.signedUnits := by
    rw [toRat, eq_div_iff hpos.ne'] at h
    exact_mod_cast h
  have hpn : (0 : Int) < 2 ^ f.scale := by positivity
  unfold truncate
  unfold signedUnits at hu
  cases hneg : x.negative with
  | false =>
      simp only [hneg, Bool.false_eq_true, if_false] at hu ⊢
      rw [Int.natCast_div, ← hu]
      simp
  | true =>
      simp only [hneg, if_true] at hu ⊢
      have hun : (f.units x.magnitude : Int) = -n * 2 ^ f.scale := by linarith
      rw [Int.natCast_div, hun, Nat.cast_pow, Nat.cast_ofNat, Int.mul_ediv_cancel _ hpn.ne', neg_neg]

theorem truncate_bounds_of_not_negative {x : Binary f} (h : x.negative = false) :
    (x.truncate : ℚ) ≤ x.toRat ∧ x.toRat < x.truncate + 1 := by
  have hpos : (0 : ℚ) < 2 ^ f.scale := by positivity
  have hdiv := Nat.div_mul_le_self (f.units x.magnitude) (2 ^ f.scale)
  have hlt := Nat.lt_div_mul_add (a := f.units x.magnitude) (Nat.two_pow_pos f.scale)
  simp only [truncate, toRat, signedUnits, h, Bool.false_eq_true, if_false]
  constructor
  · rw [le_div_iff₀ hpos]
    exact_mod_cast hdiv
  · rw [div_lt_iff₀ hpos, add_mul, one_mul]
    exact_mod_cast hlt

theorem truncate_bounds_of_negative {x : Binary f} (h : x.negative = true) :
    (x.truncate : ℚ) - 1 < x.toRat ∧ x.toRat ≤ x.truncate := by
  have hpos : (0 : ℚ) < 2 ^ f.scale := by positivity
  have hdiv := Nat.div_mul_le_self (f.units x.magnitude) (2 ^ f.scale)
  have hlt := Nat.lt_div_mul_add (a := f.units x.magnitude) (Nat.two_pow_pos f.scale)
  have hdivq : ((f.units x.magnitude / 2 ^ f.scale : Nat) : ℚ) * 2 ^ f.scale ≤
      f.units x.magnitude := by exact_mod_cast hdiv
  have hltq : (f.units x.magnitude : ℚ) <
      ((f.units x.magnitude / 2 ^ f.scale : Nat) : ℚ) * 2 ^ f.scale + 2 ^ f.scale := by
    exact_mod_cast hlt
  simp only [truncate, toRat, signedUnits, h, if_true, Int.cast_neg, Int.cast_natCast]
  constructor
  · rw [lt_div_iff₀ hpos]
    linarith
  · rw [div_le_iff₀ hpos]
    linarith

end Binary

end Ieee
