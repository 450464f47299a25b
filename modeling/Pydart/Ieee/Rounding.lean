import Pydart.Ieee.Order
import Mathlib.Tactic.FieldSimp
import Mathlib.Tactic.Linarith

/-! # Rounding to nearest, ties to even

Rounding is described by its thresholds: a value is taken past magnitude `j`
when it lies above the midpoint of `j` and `j + 1`, or on it with `j` odd. The
thresholds do not mention the value's own binade, so monotonicity and exactness
on representable values follow without a case analysis on exponents.
-/

namespace Ieee

namespace Format

/-- Twice the midpoint of a magnitude and its successor, in units. -/
def midpoint (f : Format) (j : Nat) : Nat := f.units j + f.units (j + 1)

/-- The magnitude nearest to `num / den`, ties to even, with no upper limit. -/
def roundMagnitude (f : Format) (num den : Nat) : Nat :=
  let n := f.floorIndex (num * 2 ^ f.scale / den)
  if 2 * (num * 2 ^ f.scale) < f.midpoint n * den then n
  else if f.midpoint n * den < 2 * (num * 2 ^ f.scale) then n + 1
  else n + n % 2

/-- The value `q` is rounded past magnitude `j`. -/
def Passes (f : Format) (j : Nat) (q : ℚ) : Prop :=
  (f.midpoint j : ℚ) < 2 * q * 2 ^ f.scale ∨ ((f.midpoint j : ℚ) = 2 * q * 2 ^ f.scale ∧ j % 2 = 1)

theorem Passes.mono {f : Format} {j : Nat} {q r : ℚ} (h : f.Passes j q) (hqr : q ≤ r) :
    f.Passes j r := by
  have hp : (0 : ℚ) < 2 ^ f.scale := by positivity
  have hmul : 2 * q * 2 ^ f.scale ≤ 2 * r * 2 ^ f.scale := by
    apply mul_le_mul_of_nonneg_right _ hp.le
    linarith
  rcases h with hlt | ⟨heq, hodd⟩
  · exact Or.inl (lt_of_lt_of_le hlt hmul)
  · rcases lt_or_eq_of_le hmul with hlt | hsame
    · exact Or.inl (by rw [heq]; exact hlt)
    · exact Or.inr ⟨heq.trans hsame, hodd⟩

theorem lt_roundMagnitude_iff (f : Format) {num den : Nat} (hden : 0 < den) (j : Nat) :
    j < f.roundMagnitude num den ↔
      f.midpoint j * den < 2 * (num * 2 ^ f.scale) ∨
        (f.midpoint j * den = 2 * (num * 2 ^ f.scale) ∧ j % 2 = 1) := by
  have hlow := f.units_floorIndex_le (num * 2 ^ f.scale / den)
  have hhigh := f.lt_units_floorIndex_succ (num * 2 ^ f.scale / den)
  rw [Nat.le_div_iff_mul_le hden] at hlow
  rw [Nat.div_lt_iff_lt_mul hden] at hhigh
  unfold roundMagnitude
  generalize f.floorIndex (num * 2 ^ f.scale / den) = n at hlow hhigh ⊢
  generalize num * 2 ^ f.scale = x at hlow hhigh ⊢
  dsimp only
  rcases lt_trichotomy j n with hjn | rfl | hnj
  · -- below the bracket every midpoint is passed
    have hmid : f.midpoint j * den < 2 * x := by
      have h1 : f.units j < f.units n := f.units_lt_iff.mpr hjn
      have h2 : f.units (j + 1) ≤ f.units n := f.units_le_iff.mpr hjn
      have h3 : f.midpoint j * den < 2 * f.units n * den :=
        Nat.mul_lt_mul_of_pos_right (by unfold midpoint; omega) hden
      have h4 : 2 * f.units n * den = 2 * (f.units n * den) := by ring
      omega
    refine iff_of_true ?_ (Or.inl hmid)
    split
    · exact hjn
    · split <;> omega
  · by_cases h1 : 2 * x < f.midpoint j * den
    · rw [if_pos h1]
      omega
    · by_cases h2 : f.midpoint j * den < 2 * x
      · rw [if_neg h1, if_pos h2]
        omega
      · rw [if_neg h1, if_neg h2]
        omega
  · -- above it none is
    have hmid : 2 * x < f.midpoint j * den := by
      have h1 : f.units (n + 1) ≤ f.units j := f.units_le_iff.mpr hnj
      have h2 : f.units j < f.units (j + 1) := f.units_lt_iff.mpr (Nat.lt_succ_self j)
      have h3 : 2 * f.units (n + 1) * den ≤ f.midpoint j * den :=
        Nat.mul_le_mul_right _ (by unfold midpoint; omega)
      have h4 : 2 * f.units (n + 1) * den = 2 * (f.units (n + 1) * den) := by ring
      omega
    refine iff_of_false ?_ (by omega)
    split
    · omega
    · split <;> omega

theorem lt_roundMagnitude_iff_passes (f : Format) {num den : Nat} (hden : 0 < den) (j : Nat) :
    j < f.roundMagnitude num den ↔ f.Passes j ((num : ℚ) / den) := by
  have hd : (0 : ℚ) < den := by exact_mod_cast hden
  have hscaled : 2 * ((num : ℚ) / den) * 2 ^ f.scale = 2 * (num * 2 ^ f.scale) / den := by
    field_simp
  rw [lt_roundMagnitude_iff f hden, Passes, hscaled, lt_div_iff₀ hd, eq_div_iff hd.ne']
  exact_mod_cast Iff.rfl

theorem passes_units_iff (f : Format) (j n : Nat) :
    f.Passes j ((f.units n : ℚ) / 2 ^ f.scale) ↔ j < n := by
  have hp : (0 : ℚ) < 2 ^ f.scale := by positivity
  have hscaled : 2 * ((f.units n : ℚ) / 2 ^ f.scale) * 2 ^ f.scale = 2 * f.units n := by
    rw [mul_assoc, div_mul_cancel₀ _ hp.ne']
  rw [Passes, hscaled]
  have hstep := f.units_lt_iff (n := j) (k := j + 1)
  have hjn := f.units_lt_iff (n := j) (k := n)
  have hj1 := f.units_le_iff (n := j + 1) (k := n)
  have hnj := f.units_le_iff (n := n) (k := j)
  have hcast : (f.midpoint j : ℚ) < 2 * f.units n ∨ ((f.midpoint j : ℚ) = 2 * f.units n ∧ j % 2 = 1) ↔
      f.midpoint j < 2 * f.units n ∨ (f.midpoint j = 2 * f.units n ∧ j % 2 = 1) := by
    exact_mod_cast Iff.rfl
  rw [hcast, midpoint]
  omega

/-- The key of `q` rounded into the format: signed, and stopped at infinity. -/
def roundKey (f : Format) (q : ℚ) : Int :=
  if q < 0 then -(min (f.roundMagnitude q.num.natAbs q.den) f.infinity : Nat)
  else (min (f.roundMagnitude q.num.natAbs q.den) f.infinity : Nat)

theorem abs_eq_natAbs_div (q : ℚ) : |q| = (q.num.natAbs : ℚ) / q.den := by
  rw [← Rat.num_div_den q, abs_div, Nat.abs_cast, Rat.num_div_den, Nat.cast_natAbs, Int.cast_abs]

theorem lt_roundMagnitude_abs_iff (f : Format) (q : ℚ) (j : Nat) :
    j < f.roundMagnitude q.num.natAbs q.den ↔ f.Passes j |q| := by
  rw [abs_eq_natAbs_div]
  exact lt_roundMagnitude_iff_passes f q.den_pos j

theorem roundMagnitude_abs_mono (f : Format) {q r : ℚ} (h : |q| ≤ |r|) :
    f.roundMagnitude q.num.natAbs q.den ≤ f.roundMagnitude r.num.natAbs r.den := by
  by_contra hlt
  have hpass := (lt_roundMagnitude_abs_iff f q _).mp (not_le.mp hlt)
  have := (lt_roundMagnitude_abs_iff f r _).mpr (hpass.mono h)
  omega

theorem roundKey_mono (f : Format) {q r : ℚ} (hqr : q ≤ r) : f.roundKey q ≤ f.roundKey r := by
  unfold roundKey
  by_cases hq : q < 0
  · rw [if_pos hq]
    by_cases hr : r < 0
    · rw [if_pos hr]
      have := roundMagnitude_abs_mono f (show |r| ≤ |q| by
        rw [abs_of_neg hr, abs_of_neg hq]
        linarith)
      omega
    · rw [if_neg hr]
      omega
  · have hr : ¬ r < 0 := by
      intro hr
      exact hq (lt_of_le_of_lt hqr hr)
    rw [if_neg hq, if_neg hr]
    have := roundMagnitude_abs_mono f (show |q| ≤ |r| by
      rw [abs_of_nonneg (not_lt.mp hq), abs_of_nonneg (not_lt.mp hr)]
      exact hqr)
    omega

end Format

namespace Binary

variable {f g : Format}

def ofRatio (f : Format) (negative : Bool) (num den : Nat) : Binary f where
  negative := negative
  magnitude := min (f.roundMagnitude num den) f.infinity
  magnitude_lt := Nat.lt_of_le_of_lt (Nat.min_le_right _ _) f.infinity_lt

/-- An integer rounded into the format; zero is positive. -/
def ofInt (f : Format) (n : Int) : Binary f := ofRatio f (decide (n < 0)) n.natAbs 1

/-- A payload below the leading bit stays in the exponent of the infinities. -/
theorem payload_lt (f : Format) :
    f.infinity + 2 ^ (f.fractionBits - 1) < 2 ^ (f.exponentBits + f.fractionBits) := by
  have hm : 2 ^ (f.fractionBits - 1) < 2 ^ f.fractionBits :=
    Nat.pow_lt_pow_right (by decide) (by have := f.fraction_pos; omega)
  have he := Nat.two_pow_pos f.exponentBits
  have hsplit : 2 ^ f.exponentBits * 2 ^ f.fractionBits = f.infinity + 2 ^ f.fractionBits := by
    rw [Format.infinity, ← Nat.succ_mul]
    congr 1
    omega
  rw [Nat.pow_add, hsplit]
  omega

def quietNaN (f : Format) (negative : Bool) : Binary f where
  negative := negative
  magnitude := f.infinity + 2 ^ (f.fractionBits - 1)
  magnitude_lt := payload_lt f

/-- Conversion between formats: finite data are rounded, infinities and the sign
stay, a NaN becomes the quiet NaN of its sign. -/
def convert (g : Format) (x : Binary f) : Binary g :=
  if x.isNaN then quietNaN g x.negative
  else if x.isFinite then ofRatio g x.negative (f.units x.magnitude) (2 ^ f.scale)
  else infinite g x.negative

theorem ofRatio_not_nan (f : Format) (negative : Bool) (num den : Nat) :
    (ofRatio f negative num den).isNaN = false := by
  simp [isNaN, ofRatio]

theorem ofInt_not_nan (f : Format) (n : Int) : (ofInt f n).isNaN = false := ofRatio_not_nan _ _ _ _

theorem convert_isNaN (g : Format) (x : Binary f) : (convert g x).isNaN = x.isNaN := by
  unfold convert
  cases hn : x.isNaN with
  | true => simp [isNaN, quietNaN]
  | false =>
      cases x.isFinite with
      | true => exact ofRatio_not_nan _ _ _ _
      | false => simp [isNaN, infinite]

theorem roundMagnitude_congr (f : Format) {n₁ d₁ n₂ d₂ : Nat} (h₁ : 0 < d₁) (h₂ : 0 < d₂)
    (h : (n₁ : ℚ) / d₁ = n₂ / d₂) : f.roundMagnitude n₁ d₁ = f.roundMagnitude n₂ d₂ := by
  apply eq_of_forall_lt_iff
  intro j
  rw [f.lt_roundMagnitude_iff_passes h₁, f.lt_roundMagnitude_iff_passes h₂, h]

theorem key_ofRatio (f : Format) (negative : Bool) (num den : Nat) (hden : 0 < den) :
    (ofRatio f negative num den).key =
      f.roundKey (if negative then -((num : ℚ) / den) else num / den) := by
  have hnonneg : (0 : ℚ) ≤ num / den := by positivity
  have hmag : ∀ q : ℚ, |q| = num / den →
      f.roundMagnitude q.num.natAbs q.den = f.roundMagnitude num den := by
    intro q hq
    apply roundMagnitude_congr f q.den_pos hden
    rw [← Format.abs_eq_natAbs_div, hq]
  cases negative with
  | false =>
      simp only [key, ofRatio, Format.roundKey, Bool.false_eq_true, if_false]
      rw [if_neg (not_lt.mpr hnonneg), hmag _ (abs_of_nonneg hnonneg)]
  | true =>
      simp only [key, ofRatio, Format.roundKey, if_true]
      rw [hmag _ (by rw [abs_neg, abs_of_nonneg hnonneg])]
      by_cases hz : (num : ℚ) / den = 0
      · -- a zero of either sign has key zero
        have hround : f.roundMagnitude num den = 0 := by
          by_contra hne
          have hpass := (f.lt_roundMagnitude_iff_passes hden 0).mp (Nat.pos_of_ne_zero hne)
          rw [hz] at hpass
          rcases hpass with h | ⟨_, h⟩
          · have : (0 : ℚ) ≤ f.midpoint 0 := by positivity
            linarith
          · omega
        simp [hz, hround]
      · rw [if_pos (by
          have := lt_of_le_of_ne hnonneg (Ne.symm hz)
          linarith)]

theorem key_ofInt (f : Format) (n : Int) : (ofInt f n).key = f.roundKey n := by
  rw [ofInt, key_ofRatio f _ _ _ Nat.one_pos]
  congr 1
  by_cases hn : n < 0
  · simp only [hn, decide_true, if_true, Nat.cast_one, div_one, Nat.cast_natAbs]
    rw [abs_of_neg hn, Int.cast_neg, neg_neg]
  · simp only [hn, decide_false, Bool.false_eq_true, if_false, Nat.cast_one, div_one,
      Nat.cast_natAbs]
    rw [abs_of_nonneg (by omega)]

theorem ofInt_key_mono (f : Format) {a b : Int} (h : a ≤ b) : (ofInt f a).key ≤ (ofInt f b).key := by
  rw [key_ofInt, key_ofInt]
  exact f.roundKey_mono (by exact_mod_cast h)

theorem toRat_eq_signed_ratio (x : Binary f) :
    x.toRat = if x.negative then -((f.units x.magnitude : ℚ) / (2 ^ f.scale : Nat))
      else (f.units x.magnitude : ℚ) / (2 ^ f.scale : Nat) := by
  unfold toRat signedUnits
  cases x.negative <;> simp [neg_div]

theorem roundMagnitude_units (f : Format) (n : Nat) :
    f.roundMagnitude (f.units n) (2 ^ f.scale) = n := by
  apply eq_of_forall_lt_iff
  intro j
  rw [f.lt_roundMagnitude_iff_passes (Nat.two_pow_pos _), Nat.cast_pow, Nat.cast_ofNat,
    f.passes_units_iff]

theorem roundKey_toRat {x : Binary f} (hx : x.isFinite = true) : f.roundKey x.toRat = x.key := by
  have hlt : x.magnitude < f.infinity := by simpa [isFinite] using hx
  rw [toRat_eq_signed_ratio, ← key_ofRatio f _ _ _ (Nat.two_pow_pos _)]
  simp only [key, ofRatio, roundMagnitude_units, Nat.min_eq_left hlt.le]

theorem key_convert {x : Binary f} (hx : x.isFinite = true) (g : Format) :
    (convert g x).key = g.roundKey x.toRat := by
  rw [convert, isNaN_eq_false_of_isFinite hx, hx, toRat_eq_signed_ratio]
  exact key_ofRatio g _ _ _ (Nat.two_pow_pos _)

theorem convert_negative (g : Format) (x : Binary f) : (convert g x).negative = x.negative := by
  unfold convert
  split
  · rfl
  · split <;> rfl

theorem eq_infinite {x : Binary f} (hn : x.isNaN = false) (hf : x.isFinite = false) :
    x = infinite f x.negative := by
  simp only [isNaN, isFinite, decide_eq_false_iff_not] at hn hf
  obtain ⟨s, m, hm⟩ := x
  have hmag : m = f.infinity := by
    simp only at hn hf
    omega
  subst hmag
  rfl

theorem key_infinite (f : Format) (negative : Bool) :
    (infinite f negative).key = if negative then -(f.infinity : Int) else f.infinity := rfl

theorem convert_infinite (g : Format) (negative : Bool) :
    convert g (infinite f negative) = infinite g negative := by
  simp [convert, isNaN, isFinite, infinite]

/-- Conversion keeps the order of everything but the NaNs. -/
theorem convert_key_mono (g : Format) {x y : Binary f} (hx : x.isNaN = false) (hy : y.isNaN = false)
    (h : x.key ≤ y.key) : (convert g x).key ≤ (convert g y).key := by
  have hxb := isNaN_eq_false_iff.mp hx
  have hyb := isNaN_eq_false_iff.mp hy
  have hcx := isNaN_eq_false_iff.mp ((convert_isNaN g x).trans hx)
  have hcy := isNaN_eq_false_iff.mp ((convert_isNaN g y).trans hy)
  have hinf := f.infinity_pos
  cases hfx : x.isFinite with
  | false =>
      have hxi := eq_infinite hx hfx
      cases hneg : x.negative with
      | true =>
          rw [hneg] at hxi
          rw [hxi, convert_infinite, key_infinite]
          simpa using hcy.1
      | false =>
          -- above plus infinity there is only plus infinity
          rw [hneg] at hxi
          have hky : y.key = f.infinity := by
            rw [hxi, key_infinite] at h
            simp only [Bool.false_eq_true, if_false] at h
            omega
          have hyx : y.key = x.key := by
            rw [hky, hxi, key_infinite]
            simp
          have hxy : y = x := by
            rcases key_eq_iff.mp hyx with h' | ⟨h', _⟩
            · exact h'
            · have := key_eq_zero_iff.mpr h'
              omega
          rw [hxy]
  | true =>
      cases hfy : y.isFinite with
      | true =>
          rw [key_convert hfx, key_convert hfy]
          exact g.roundKey_mono ((toRat_le_iff x y).mpr h)
      | false =>
          have hyi := eq_infinite hy hfy
          cases hneg : y.negative with
          | false =>
              rw [hneg] at hyi
              rw [hyi, convert_infinite, key_infinite]
              simpa using hcx.2
          | true =>
              rw [hneg] at hyi
              have hlt : x.magnitude < f.infinity := by simpa [isFinite] using hfx
              rw [hyi, key_infinite] at h
              simp only [if_true] at h
              unfold key at h
              split at h <;> omega

end Binary

end Ieee
