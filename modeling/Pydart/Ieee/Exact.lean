import Pydart.Ieee.Rounding
import Mathlib.Tactic.LinearCombination

/-! # Which values a format holds exactly

Integers of the precision, the neighbours of a fractional datum, every datum of
a narrower format, and the midpoints between those data. The last one is what
makes rounding through the wider format harmless on the narrow data themselves.
-/

namespace Ieee

namespace Format

theorem lt_infinity_of_units_lt (f : Format) {n : Nat}
    (h : f.units n < 2 ^ (f.fractionBits + (2 ^ f.exponentBits - 2))) : n < f.infinity := by
  rw [← f.units_infinity] at h
  exact f.units_lt_iff.mp h

theorem scale_add_le (f : Format) :
    f.fractionBits + 1 + f.scale ≤ f.fractionBits + (2 ^ f.exponentBits - 2) := by
  have hhalf : 2 ^ f.exponentBits = 2 * 2 ^ (f.exponentBits - 1) := by
    rw [← Nat.pow_succ']
    congr 1
    have := f.exponent_ge_two
    omega
  have hf := f.fraction_lt
  have hp : 2 ^ 1 ≤ 2 ^ (f.exponentBits - 1) :=
    Nat.pow_le_pow_right (by decide) (by have := f.exponent_ge_two; omega)
  unfold scale
  omega

theorem exists_units_eq_nat (f : Format) {c : Nat} (hc : c < 2 ^ (f.fractionBits + 1)) :
    ∃ n, n < f.infinity ∧ f.units n = c * 2 ^ f.scale := by
  refine ⟨f.floorIndex (c * 2 ^ f.scale), ?_, f.units_floorIndex_eq hc⟩
  apply f.lt_infinity_of_units_lt
  rw [f.units_floorIndex_eq hc]
  calc c * 2 ^ f.scale < 2 ^ (f.fractionBits + 1) * 2 ^ f.scale :=
        Nat.mul_lt_mul_of_pos_right hc (Nat.two_pow_pos _)
    _ = 2 ^ (f.fractionBits + 1 + f.scale) := (Nat.pow_add 2 _ _).symm
    _ ≤ 2 ^ (f.fractionBits + (2 ^ f.exponentBits - 2)) :=
        Nat.pow_le_pow_right (by decide) f.scale_add_le

/-- The wider format holds the narrower one with at least one bit to spare. -/
structure Embeds (f g : Format) : Prop where
  fraction : f.fractionBits < g.fractionBits
  scale : f.scale < g.scale
  range : f.fractionBits + (2 ^ f.exponentBits - 2) + (g.scale - f.scale) ≤
    g.fractionBits + (2 ^ g.exponentBits - 2)

theorem binary32_embeds_binary64 : Embeds binary32 binary64 := by
  constructor <;> decide

theorem Embeds.exists_units {f g : Format} (h : Embeds f g) {n : Nat} (hn : n < f.infinity) :
    ∃ i, i < g.infinity ∧ g.units i = f.units n * 2 ^ (g.scale - f.scale) := by
  obtain ⟨c, hc, hu⟩ := f.exists_significand n
  have hcg : c < 2 ^ (g.fractionBits + 1) :=
    Nat.lt_of_lt_of_le hc (Nat.pow_le_pow_right (by decide) (by have := h.fraction; omega))
  have hval : f.units n * 2 ^ (g.scale - f.scale) = c * 2 ^ (f.shift n + (g.scale - f.scale)) := by
    rw [hu, Nat.mul_assoc, ← Nat.pow_add]
  refine ⟨g.floorIndex (c * 2 ^ (f.shift n + (g.scale - f.scale))), ?_, ?_⟩
  · apply g.lt_infinity_of_units_lt
    rw [g.units_floorIndex_eq hcg, ← hval]
    have hlt := f.units_lt_iff.mpr hn
    rw [f.units_infinity] at hlt
    calc f.units n * 2 ^ (g.scale - f.scale)
        < 2 ^ (f.fractionBits + (2 ^ f.exponentBits - 2)) * 2 ^ (g.scale - f.scale) :=
          Nat.mul_lt_mul_of_pos_right hlt (Nat.two_pow_pos _)
      _ = 2 ^ (f.fractionBits + (2 ^ f.exponentBits - 2) + (g.scale - f.scale)) :=
          (Nat.pow_add 2 _ _).symm
      _ ≤ 2 ^ (g.fractionBits + (2 ^ g.exponentBits - 2)) :=
          Nat.pow_le_pow_right (by decide) h.range
  · rw [g.units_floorIndex_eq hcg, hval]

/-- So does every midpoint of the narrow format: it needs one more bit. -/
theorem Embeds.exists_midpoint {f g : Format} (h : Embeds f g) (j : Nat) :
    ∃ i, 2 * g.units i = f.midpoint j * 2 ^ (g.scale - f.scale) := by
  obtain ⟨c, hc, hu⟩ := f.exists_significand j
  have hcg : 2 * c + 1 < 2 ^ (g.fractionBits + 1) := by
    refine Nat.lt_of_lt_of_le (m := 2 ^ (f.fractionBits + 1 + 1)) ?_ ?_
    · rw [Nat.pow_succ]
      omega
    · exact Nat.pow_le_pow_right (by decide) (by have := h.fraction; omega)
  have hmid : f.midpoint j = (2 * c + 1) * 2 ^ f.shift j := by
    rw [midpoint, units_succ, hu]
    ring
  have hsplit : 2 ^ (g.scale - f.scale) = 2 * 2 ^ (g.scale - f.scale - 1) := by
    rw [← Nat.pow_succ']
    congr 1
    have := h.scale
    omega
  refine ⟨g.floorIndex ((2 * c + 1) * 2 ^ (f.shift j + (g.scale - f.scale - 1))), ?_⟩
  rw [g.units_floorIndex_eq hcg, hmid, hsplit, Nat.pow_add]
  ring

end Format

namespace Binary

variable {f g : Format}

/-! ## Integers -/

theorem magnitude_ofRatio (f : Format) (negative : Bool) {num den i : Nat} (hden : 0 < den)
    (hi : i < f.infinity) (hval : (num : ℚ) / den = (f.units i : ℚ) / (2 ^ f.scale : Nat)) :
    (ofRatio f negative num den).magnitude = i := by
  have hround := roundMagnitude_congr f hden (Nat.two_pow_pos f.scale) hval
  rw [roundMagnitude_units] at hround
  simp only [ofRatio, hround, Nat.min_eq_left hi.le]

theorem isFinite_iff {x : Binary f} : x.isFinite = true ↔ x.magnitude < f.infinity := by
  simp [isFinite]

theorem ofInt_exact (f : Format) {n : Int} (hn : n.natAbs < 2 ^ (f.fractionBits + 1)) :
    (ofInt f n).isFinite = true ∧ (ofInt f n).toRat = n := by
  obtain ⟨i, hi, hu⟩ := f.exists_units_eq_nat hn
  have hp : ((2 ^ f.scale : Nat) : ℚ) ≠ 0 := by positivity
  have hval : ((n.natAbs : Nat) : ℚ) / (1 : Nat) = (f.units i : ℚ) / (2 ^ f.scale : Nat) := by
    rw [eq_div_iff hp, hu, Nat.cast_one, div_one, Nat.cast_mul]
  have hmag : (ofInt f n).magnitude = i := magnitude_ofRatio f _ Nat.one_pos hi hval
  refine ⟨isFinite_iff.mpr (by rw [hmag]; exact hi), ?_⟩
  rw [toRat_eq_signed_ratio, hmag, ← hval, Nat.cast_one, div_one, Nat.cast_natAbs]
  by_cases hneg : n < 0
  · simp only [ofInt, ofRatio, hneg, decide_true, if_true, abs_of_neg hneg, Int.cast_neg, neg_neg]
  · simp only [ofInt, ofRatio, hneg, decide_false, Bool.false_eq_true, if_false,
      abs_of_nonneg (not_lt.mp hneg)]

theorem ofInt_key_le_of_le {v : Binary f} (hv : v.isFinite = true) {a : Int}
    (h : (a : ℚ) ≤ v.toRat) : (ofInt f a).key ≤ v.key := by
  rw [key_ofInt, ← roundKey_toRat hv]
  exact f.roundKey_mono h

theorem le_ofInt_key_of_le {v : Binary f} (hv : v.isFinite = true) {a : Int}
    (h : v.toRat ≤ a) : v.key ≤ (ofInt f a).key := by
  rw [key_ofInt, ← roundKey_toRat hv]
  exact f.roundKey_mono h

/-! ## Data with a fractional part -/

/-- A fractional datum lies below the binade where the spacing reaches one. -/
theorem units_lt_of_fractional {x : Binary f} (hx : (x.truncate : ℚ) ≠ x.toRat) :
    f.units x.magnitude < 2 ^ f.fractionBits * 2 ^ f.scale := by
  by_contra hge
  obtain ⟨c, hc, hu⟩ := f.exists_significand x.magnitude
  have hshift : f.scale ≤ f.shift x.magnitude := by
    by_contra hlt
    have hpow : 2 ^ (f.shift x.magnitude + 1) ≤ 2 ^ f.scale :=
      Nat.pow_le_pow_right (by decide) (by omega)
    have hcu : c * 2 ^ f.shift x.magnitude < 2 ^ (f.fractionBits + 1) * 2 ^ f.shift x.magnitude :=
      Nat.mul_lt_mul_of_pos_right hc (Nat.two_pow_pos _)
    have hsplit : 2 ^ (f.fractionBits + 1) * 2 ^ f.shift x.magnitude =
        2 ^ f.fractionBits * 2 ^ (f.shift x.magnitude + 1) := by
      rw [← Nat.pow_add, ← Nat.pow_add]
      congr 1
      omega
    have := Nat.mul_le_mul_left (2 ^ f.fractionBits) hpow
    omega
  have hdvd : 2 ^ f.scale ∣ f.units x.magnitude := by
    rw [hu]
    exact Nat.dvd_trans (Nat.pow_dvd_pow 2 hshift) (Nat.dvd_mul_left _ _)
  obtain ⟨k, hk⟩ := hdvd
  apply hx
  have hp : ((2 ^ f.scale : Nat) : ℚ) ≠ 0 := by positivity
  have hval : ((f.units x.magnitude : Nat) : ℚ) / (2 ^ f.scale : Nat) = k := by
    rw [hk, Nat.cast_mul, mul_div_cancel_left₀ _ hp]
  rw [toRat_eq_signed_ratio, hval, truncate, hk, Nat.mul_div_cancel_left _ (Nat.two_pow_pos _)]
  cases x.negative <;> simp

theorem truncate_natAbs_lt_of_fractional {x : Binary f} (hx : (x.truncate : ℚ) ≠ x.toRat) :
    x.truncate.natAbs < 2 ^ f.fractionBits := by
  have hlt := units_lt_of_fractional hx
  have hdiv : f.units x.magnitude / 2 ^ f.scale < 2 ^ f.fractionBits :=
    (Nat.div_lt_iff_lt_mul (Nat.two_pow_pos _)).mpr hlt
  unfold truncate
  split
  · rw [Int.natAbs_neg, Int.natAbs_natCast]
    exact hdiv
  · rw [Int.natAbs_natCast]
    exact hdiv

/-- The integers next to a fractional datum are exact, so converting an integer
keeps it strictly on its side. -/
theorem ofInt_key_lt_of_fractional {v : Binary f} (hfin : v.isFinite = true)
    (hv : (v.truncate : ℚ) ≠ v.toRat) {a : Int} :
    ((ofInt f a).key < v.key ↔ (a : ℚ) < v.toRat) ∧
      (v.key < (ofInt f a).key ↔ v.toRat < (a : ℚ)) := by
  have hsmall := truncate_natAbs_lt_of_fractional hv
  have hexact : ∀ t : Int, t.natAbs ≤ 2 ^ f.fractionBits → (ofInt f t).toRat = t := by
    intro t ht
    exact (ofInt_exact f (by rw [Nat.pow_succ]; omega)).2
  -- an integer below the datum is at most its floor, one above at least its ceiling
  obtain ⟨lo, hi, hlo, hhi, hlv, hvh, hstep⟩ : ∃ lo hi : Int, lo.natAbs ≤ 2 ^ f.fractionBits ∧
      hi.natAbs ≤ 2 ^ f.fractionBits ∧ (lo : ℚ) < v.toRat ∧ v.toRat < hi ∧ hi = lo + 1 := by
    cases hneg : v.negative with
    | false =>
        have hb := truncate_bounds_of_not_negative hneg
        refine ⟨v.truncate, v.truncate + 1, by omega, by omega, lt_of_le_of_ne hb.1 hv, ?_, rfl⟩
        push_cast
        exact hb.2
    | true =>
        have hb := truncate_bounds_of_negative hneg
        refine ⟨v.truncate - 1, v.truncate, by omega, by omega, ?_,
          lt_of_le_of_ne hb.2 (Ne.symm hv), by omega⟩
        push_cast
        exact hb.1
  have hbelow : (a : ℚ) < v.toRat → (ofInt f a).key < v.key := by
    intro h
    have hle : a ≤ lo := by
      have : a < hi := by exact_mod_cast lt_trans h hvh
      omega
    have hlokey : (ofInt f lo).key < v.key := by
      rw [← toRat_lt_iff, hexact lo hlo]
      exact hlv
    exact lt_of_le_of_lt (ofInt_key_mono f hle) hlokey
  have habove : v.toRat < (a : ℚ) → v.key < (ofInt f a).key := by
    intro h
    have hle : hi ≤ a := by
      have : lo < a := by exact_mod_cast lt_trans hlv h
      omega
    have hhikey : v.key < (ofInt f hi).key := by
      rw [← toRat_lt_iff, hexact hi hhi]
      exact hvh
    exact lt_of_lt_of_le hhikey (ofInt_key_mono f hle)
  refine ⟨⟨fun h => ?_, hbelow⟩, ⟨fun h => ?_, habove⟩⟩
  · by_contra hle
    have := le_ofInt_key_of_le hfin (not_lt.mp hle)
    omega
  · by_contra hle
    have := ofInt_key_le_of_le hfin (not_lt.mp hle)
    omega

/-! ## Through a wider format -/

variable (h : Format.Embeds f g)

include h in
/-- Widening a finite datum keeps its value and its sign. -/
theorem magnitude_convert {x : Binary f} (hx : x.isFinite = true) :
    (convert g x).magnitude < g.infinity ∧
      g.units (convert g x).magnitude = f.units x.magnitude * 2 ^ (g.scale - f.scale) := by
  obtain ⟨i, hi, hu⟩ := h.exists_units (isFinite_iff.mp hx)
  have hmag : (convert g x).magnitude = i := by
    rw [convert, isNaN_eq_false_of_isFinite hx, hx]
    simp only [Bool.false_eq_true, if_false, if_true]
    apply magnitude_ofRatio g _ (Nat.two_pow_pos _) hi
    have hpow : (2 : ℚ) ^ g.scale = 2 ^ (g.scale - f.scale) * 2 ^ f.scale := by
      rw [← pow_add]
      congr 1
      have := h.scale
      omega
    rw [hu]
    push_cast
    rw [hpow, mul_comm ((2 : ℚ) ^ (g.scale - f.scale)) (2 ^ f.scale), mul_div_mul_right _ _ (by positivity)]
  rw [hmag]
  exact ⟨hi, hu⟩

include h in
theorem convert_isFinite (x : Binary f) : (convert g x).isFinite = x.isFinite := by
  cases hx : x.isFinite with
  | true => exact isFinite_iff.mpr (magnitude_convert h hx).1
  | false =>
      cases hn : x.isNaN with
      | true =>
          have hc := (convert_isNaN g x).trans hn
          simp only [isNaN, decide_eq_true_eq] at hc
          simp only [isFinite, decide_eq_false_iff_not]
          omega
      | false =>
          rw [eq_infinite hn hx, convert_infinite]
          simp [isFinite, infinite]

include h in
theorem toRat_convert {x : Binary f} (hx : x.isFinite = true) : (convert g x).toRat = x.toRat := by
  have hm := (magnitude_convert h hx).2
  have hpow : (2 : ℚ) ^ g.scale = 2 ^ (g.scale - f.scale) * 2 ^ f.scale := by
    rw [← pow_add]
    congr 1
    have := h.scale
    omega
  have hval : ((g.units (convert g x).magnitude : Nat) : ℚ) / (2 ^ g.scale : Nat) =
      (f.units x.magnitude : ℚ) / (2 ^ f.scale : Nat) := by
    rw [hm]
    push_cast
    rw [hpow, mul_comm ((2 : ℚ) ^ (g.scale - f.scale)) (2 ^ f.scale), mul_div_mul_right _ _ (by positivity)]
  rw [toRat_eq_signed_ratio, toRat_eq_signed_ratio, convert_negative, hval]

include h in
/-- Narrowing undoes widening. -/
theorem convert_convert {x : Binary f} (hx : x.isNaN = false) : convert f (convert g x) = x := by
  cases hf : x.isFinite with
  | false => rw [eq_infinite hx hf, convert_infinite, convert_infinite]
  | true =>
      have hcf := (convert_isFinite h x).trans hf
      have hkey : (convert f (convert g x)).key = x.key := by
        rw [key_convert hcf, toRat_convert h hf, roundKey_toRat hf]
      have hneg : (convert f (convert g x)).negative = x.negative := by
        rw [convert_negative, convert_negative]
      exact eq_of_key_eq hkey hneg

include h in
theorem convert_key_lt_iff {x y : Binary f} (hx : x.isNaN = false) (hy : y.isNaN = false) :
    (convert g x).key < (convert g y).key ↔ x.key < y.key := by
  constructor
  · intro hlt
    by_contra hle
    have := convert_key_mono g hy hx (not_lt.mp hle)
    omega
  · intro hlt
    by_contra hle
    have hback := convert_key_mono f ((convert_isNaN g y).trans hy) ((convert_isNaN g x).trans hx)
      (not_lt.mp hle)
    rw [convert_convert h hx, convert_convert h hy] at hback
    omega

include h in
theorem totalKey_convert_lt_iff {x y : Binary f} (hx : x.isNaN = false) (hy : y.isNaN = false) :
    (convert g x).totalKey < (convert g y).totalKey ↔ x.totalKey < y.totalKey := by
  have hlt := convert_key_lt_iff h hx hy
  have hgt := convert_key_lt_iff h hy hx
  have heq : (convert g x).key = (convert g y).key ↔ x.key = y.key := by omega
  rw [totalKey_lt_iff, totalKey_lt_iff, convert_negative, convert_negative, hlt, heq]

include h in
theorem totalCmp_convert {x l : Binary f} (hl : l.isNaN = false) :
    (convert g x).totalCmp (convert g l) = x.totalCmp l := by
  cases hx : x.isNaN with
  | true =>
      rw [totalCmp_nan hx hl, totalCmp_nan ((convert_isNaN g x).trans hx)
        ((convert_isNaN g l).trans hl), convert_negative]
  | false =>
      have hlt := totalKey_convert_lt_iff h hx hl
      have hgt := totalKey_convert_lt_iff h hl hx
      unfold totalCmp
      rcases lt_trichotomy x.totalKey l.totalKey with hcmp | hcmp | hcmp
      · rw [compare_lt_iff_lt.mpr hcmp, compare_lt_iff_lt.mpr (hlt.mpr hcmp)]
      · rw [compare_eq_iff_eq.mpr hcmp, compare_eq_iff_eq.mpr (by omega)]
      · rw [compare_gt_iff_gt.mpr hcmp, compare_gt_iff_gt.mpr (hgt.mpr hcmp)]

theorem le_convert {x y : Binary f} (hle : Le x y) : Le (convert g x) (convert g y) := by
  obtain ⟨hx, hy, hkey⟩ := hle
  exact ⟨(convert_isNaN g x).trans hx, (convert_isNaN g y).trans hy, convert_key_mono g hx hy hkey⟩

include h in
/-- Rounding a wide datum to the narrow format keeps its side of a narrow datum. -/
theorem convert_key_le_iff_of_le {x : Binary f} {w : Binary g} (hx : x.isNaN = false)
    (hw : w.isNaN = false) :
    (w.key ≤ (convert g x).key → (convert f w).key ≤ x.key) ∧
      ((convert g x).key ≤ w.key → x.key ≤ (convert f w).key) := by
  have hcx := (convert_isNaN g x).trans hx
  constructor
  · intro hle
    have := convert_key_mono f hw hcx hle
    rwa [convert_convert h hx] at this
  · intro hle
    have := convert_key_mono f hcx hw hle
    rwa [convert_convert h hx] at this

include h in
theorem units_div_of_midpoint {j i : Nat}
    (hi : 2 * g.units i = f.midpoint j * 2 ^ (g.scale - f.scale)) :
    (g.units i : ℚ) / 2 ^ g.scale = (f.midpoint j : ℚ) / 2 / 2 ^ f.scale := by
  have hpow : (2 : ℚ) ^ g.scale = 2 ^ (g.scale - f.scale) * 2 ^ f.scale := by
    rw [← pow_add]
    congr 1
    have := h.scale
    omega
  have hiq : 2 * (g.units i : ℚ) = f.midpoint j * 2 ^ (g.scale - f.scale) := by exact_mod_cast hi
  rw [hpow, div_div, div_eq_div_iff (by positivity) (by positivity)]
  linear_combination (2 ^ f.scale : ℚ) * hiq

include h in
/-- Above the midpoint over a narrow datum, the wide format rounds above the datum. -/
theorem lt_wide_of_lt_narrow {x : Binary f} (hx : x.isFinite = true) {q : ℚ}
    (hgt : x.magnitude < f.roundMagnitude q.num.natAbs q.den) :
    (convert g x).magnitude < g.roundMagnitude q.num.natAbs q.den := by
  obtain ⟨-, hunits⟩ := magnitude_convert h hx
  have hpass := (f.lt_roundMagnitude_abs_iff q x.magnitude).mp hgt
  obtain ⟨i, hi⟩ := h.exists_midpoint x.magnitude
  have hlt : (convert g x).magnitude < i := by
    apply g.units_lt_iff.mp
    rw [hunits]
    have hstep : f.units x.magnitude < f.units (x.magnitude + 1) :=
      f.units_lt_iff.mpr (Nat.lt_succ_self _)
    have hmid : 2 * f.units x.magnitude * 2 ^ (g.scale - f.scale) <
        f.midpoint x.magnitude * 2 ^ (g.scale - f.scale) :=
      Nat.mul_lt_mul_of_pos_right (by unfold Format.midpoint; omega) (Nat.two_pow_pos _)
    rw [Nat.mul_assoc] at hmid
    omega
  have hle : (g.units i : ℚ) / 2 ^ g.scale ≤ |q| := by
    have hpf : (0 : ℚ) < 2 ^ f.scale := by positivity
    rw [units_div_of_midpoint h hi, div_le_iff₀ hpf, div_le_iff₀ (by norm_num : (0 : ℚ) < 2)]
    rcases hpass with hp | ⟨hp, _⟩ <;> linarith
  exact (g.lt_roundMagnitude_abs_iff q _).mpr (((g.passes_units_iff _ i).mpr hlt).mono hle)

include h in
/-- Below the midpoint under a narrow datum, the wide format rounds below the datum. -/
theorem wide_lt_of_narrow_lt {x : Binary f} (hx : x.isFinite = true) {q : ℚ}
    (hlt : f.roundMagnitude q.num.natAbs q.den < x.magnitude) :
    g.roundMagnitude q.num.natAbs q.den < (convert g x).magnitude := by
  obtain ⟨-, hunits⟩ := magnitude_convert h hx
  obtain ⟨j, hj⟩ : ∃ j, x.magnitude = j + 1 := ⟨x.magnitude - 1, by omega⟩
  have hnot : ¬ f.Passes j |q| := by
    rw [← f.lt_roundMagnitude_abs_iff]
    omega
  obtain ⟨i, hi⟩ := h.exists_midpoint j
  have hbelow : i < (convert g x).magnitude := by
    apply g.units_lt_iff.mp
    rw [hunits, hj]
    have hstep : f.units j < f.units (j + 1) := f.units_lt_iff.mpr (Nat.lt_succ_self _)
    have hmid : f.midpoint j * 2 ^ (g.scale - f.scale) <
        2 * f.units (j + 1) * 2 ^ (g.scale - f.scale) :=
      Nat.mul_lt_mul_of_pos_right (by unfold Format.midpoint; omega) (Nat.two_pow_pos _)
    rw [Nat.mul_assoc] at hmid
    omega
  have hle : |q| ≤ (g.units i : ℚ) / 2 ^ g.scale := by
    have hpf : (0 : ℚ) < 2 ^ f.scale := by positivity
    rw [units_div_of_midpoint h hi, le_div_iff₀ hpf, le_div_iff₀ (by norm_num : (0 : ℚ) < 2)]
    have : ¬ (f.midpoint j : ℚ) < 2 * |q| * 2 ^ f.scale := fun hc => hnot (Or.inl hc)
    linarith
  by_contra hge
  have hpass : g.Passes ((convert g x).magnitude - 1) |q| := by
    rw [← g.lt_roundMagnitude_abs_iff]
    omega
  have := (g.passes_units_iff _ i).mp (hpass.mono hle)
  omega

include h in
theorem magnitude_eq_zero_of_convert {x : Binary f} (hx : x.isFinite = true)
    (h0 : (convert g x).magnitude = 0) : x.magnitude = 0 := by
  obtain ⟨-, hunits⟩ := magnitude_convert h hx
  rw [h0, Format.units_zero] at hunits
  have hpos : 0 < 2 ^ (g.scale - f.scale) := Nat.two_pow_pos _
  have hz : f.units x.magnitude = 0 := by
    rcases Nat.mul_eq_zero.mp hunits.symm with h' | h'
    · exact h'
    · omega
  have hle : f.units x.magnitude ≤ f.units 0 := by rw [hz]; exact Nat.zero_le _
  exact Nat.le_zero.mp (f.units_le_iff.mp hle)

include h in
/-- A value that the wide format rounds onto a datum of the narrow one is rounded
there by the narrow format too: the narrow midpoints are wide data. -/
theorem roundKey_of_wide {x : Binary f} (hx : x.isFinite = true) {q : ℚ}
    (hq : g.roundKey q = (convert g x).key) : f.roundKey q = x.key := by
  have hfin := (magnitude_convert h hx).1
  have hxlt := isFinite_iff.mp hx
  have hwide : g.roundMagnitude q.num.natAbs q.den = (convert g x).magnitude := by
    unfold Format.roundKey key at hq
    split at hq <;> split at hq <;> omega
  have hnarrow : f.roundMagnitude q.num.natAbs q.den = x.magnitude := by
    rcases Nat.lt_trichotomy (f.roundMagnitude q.num.natAbs q.den) x.magnitude with
      hlt | heq | hgt
    · have := wide_lt_of_narrow_lt h hx hlt
      omega
    · exact heq
    · have := lt_wide_of_lt_narrow h hx hgt
      omega
  have hcm := convert_negative g x
  have hzero := magnitude_eq_zero_of_convert h hx
  unfold Format.roundKey key at hq ⊢
  rw [hwide, hcm] at hq
  rw [hnarrow]
  rw [Nat.min_eq_left (le_of_lt hfin)] at hq
  rw [Nat.min_eq_left (le_of_lt hxlt)]
  cases hsign : x.negative with
  | false =>
      rw [hsign] at hq
      by_cases hneg : q < 0
      · rw [if_pos hneg] at hq ⊢
        simp only [Bool.false_eq_true, if_false] at hq ⊢
        have := hzero (by omega)
        omega
      · rw [if_neg hneg]
        simp
  | true =>
      rw [hsign] at hq
      by_cases hneg : q < 0
      · rw [if_pos hneg]
        simp
      · rw [if_neg hneg] at hq ⊢
        simp only [if_true] at hq ⊢
        have := hzero (by omega)
        omega

include h in
/-- An integer rounded to the narrow format keeps its side of a narrow datum, as
the wide format sees it. -/
theorem ofInt_key_le_of_le_wide {x : Binary f} (hx : x.isNaN = false) {n : Int}
    (hn : (ofInt g n).isFinite = true) :
    ((ofInt g n).key ≤ (convert g x).key → (ofInt f n).key ≤ x.key) ∧
      ((convert g x).key ≤ (ofInt g n).key → x.key ≤ (ofInt f n).key) := by
  have hnan := isNaN_eq_false_iff.mp (ofInt_not_nan f n)
  cases hf : x.isFinite with
  | false =>
      rw [eq_infinite hx hf, convert_infinite, key_infinite, key_infinite]
      have hng := isFinite_iff.mp hn
      have hkey : -(g.infinity : Int) < (ofInt g n).key ∧ (ofInt g n).key < g.infinity := by
        unfold key
        split <;> omega
      cases x.negative <;> simp <;> omega
  | true =>
      have hwide : ∀ q : ℚ, g.roundKey q = (convert g x).key → f.roundKey q = x.key :=
        fun q hq => roundKey_of_wide h hf hq
      rw [key_ofInt, key_ofInt]
      have hxg : (convert g x).key = g.roundKey x.toRat := key_convert hf g
      have hxf : x.key = f.roundKey x.toRat := (roundKey_toRat hf).symm
      rcases le_total (n : ℚ) x.toRat with hle | hle
      · refine ⟨fun _ => hxf ▸ f.roundKey_mono hle, fun hkey => ?_⟩
        have := hwide n (le_antisymm (hxg ▸ g.roundKey_mono hle) hkey)
        omega
      · refine ⟨fun hkey => ?_, fun _ => hxf ▸ f.roundKey_mono hle⟩
        have := hwide n (le_antisymm hkey (hxg ▸ g.roundKey_mono hle))
        omega

end Binary

end Ieee
