import Mathlib.Algebra.Order.Field.Rat
import Mathlib.Data.Nat.Log
import Mathlib.Data.Rat.Cast.Order
import Mathlib.Order.Monotone.Basic
import Mathlib.Tactic.Linarith
import Mathlib.Tactic.Positivity
import Mathlib.Tactic.Ring

/-! # Binary interchange formats in sign-magnitude form

A datum is its sign bit and the remaining bits read as one natural number, its
magnitude. The magnitudes of a format are one increasing scale: zero, the
subnormals, the normals binade by binade, infinity, and the NaN payloads above
it. Every finite magnitude is a whole number of units of the smallest
subnormal, so values are exact integers over one power of two.
-/

namespace Ieee

/-- A binary interchange format: the stored fraction bits and the exponent bits. -/
structure Format where
  fractionBits : Nat
  exponentBits : Nat
  fraction_pos : 0 < fractionBits := by decide
  exponent_ge_two : 2 ≤ exponentBits := by decide
  fraction_lt : fractionBits < 2 ^ (exponentBits - 1) := by decide
deriving DecidableEq, Repr

namespace Format

def binary16 : Format := { fractionBits := 10, exponentBits := 5 }
def binary32 : Format := { fractionBits := 23, exponentBits := 8 }
def binary64 : Format := { fractionBits := 52, exponentBits := 11 }

/-- The smallest subnormal of the format is `2 ^ -scale`. -/
def scale (f : Format) : Nat := 2 ^ (f.exponentBits - 1) - 2 + f.fractionBits

/-- The magnitude of infinity: all exponent bits set over a zero fraction. -/
def infinity (f : Format) : Nat := (2 ^ f.exponentBits - 1) * 2 ^ f.fractionBits

/-- How far the binade of a magnitude is shifted from the subnormals. -/
def shift (f : Format) (n : Nat) : Nat := n / 2 ^ f.fractionBits - 1

/-- The value of a magnitude, counted in units of the smallest subnormal. The
same formula goes on past infinity, where it is the value the next binade would
have; rounding needs that one step. -/
def units (f : Format) (n : Nat) : Nat := (n - f.shift n * 2 ^ f.fractionBits) * 2 ^ f.shift n

theorem infinity_lt (f : Format) : f.infinity < 2 ^ (f.exponentBits + f.fractionBits) := by
  have he := Nat.two_pow_pos f.exponentBits
  rw [infinity, Nat.pow_add]
  exact Nat.mul_lt_mul_of_pos_right (by omega) (Nat.two_pow_pos _)

theorem infinity_pos (f : Format) : 0 < f.infinity := by
  have he : 2 ^ 2 ≤ 2 ^ f.exponentBits := Nat.pow_le_pow_right (by decide) f.exponent_ge_two
  exact Nat.mul_pos (by omega) (Nat.two_pow_pos _)

theorem shift_mul_le (f : Format) (n : Nat) : f.shift n * 2 ^ f.fractionBits ≤ n := by
  refine Nat.le_trans (Nat.mul_le_mul_right _ (Nat.sub_le _ 1)) ?_
  exact Nat.div_mul_le_self n _

theorem units_of_lt (f : Format) {n : Nat} (h : n < 2 ^ (f.fractionBits + 1)) : f.units n = n := by
  have hs : f.shift n = 0 := by
    have hd : n / 2 ^ f.fractionBits < 2 := by
      rw [Nat.div_lt_iff_lt_mul (Nat.two_pow_pos _), Nat.mul_comm, ← Nat.pow_succ]
      exact h
    unfold shift
    omega
  simp [units, hs]

@[simp] theorem units_zero (f : Format) : f.units 0 = 0 :=
  f.units_of_lt (Nat.two_pow_pos _)

/-- A normal magnitude written as its binade and its full significand. -/
theorem units_binade (f : Format) {k c : Nat} (hlow : 2 ^ f.fractionBits ≤ c)
    (hhigh : c < 2 ^ (f.fractionBits + 1)) :
    f.units (k * 2 ^ f.fractionBits + c) = c * 2 ^ k := by
  have hp := Nat.two_pow_pos f.fractionBits
  have hq : c / 2 ^ f.fractionBits = 1 := by
    rw [Nat.pow_succ] at hhigh
    exact Nat.div_eq_of_lt_le (by omega) (by omega)
  have hs : f.shift (k * 2 ^ f.fractionBits + c) = k := by
    rw [shift, Nat.add_comm, Nat.add_mul_div_right _ _ hp, hq]
    omega
  rw [units, hs, Nat.add_sub_cancel_left]

theorem units_succ (f : Format) (n : Nat) : f.units (n + 1) = f.units n + 2 ^ f.shift n := by
  have hp := Nat.two_pow_pos f.fractionBits
  have hle := f.shift_mul_le n
  have hmod := Nat.div_add_mod n (2 ^ f.fractionBits)
  have hlt := Nat.mod_lt n hp
  by_cases hsame : (n + 1) / 2 ^ f.fractionBits = n / 2 ^ f.fractionBits
  · have hs : f.shift (n + 1) = f.shift n := by rw [shift, hsame, shift]
    have hsub : n + 1 - f.shift n * 2 ^ f.fractionBits =
        n - f.shift n * 2 ^ f.fractionBits + 1 := by omega
    rw [units, units, hs, hsub, Nat.succ_mul]
  · -- the binade ends at `n`, whose significand is all ones
    have hend : n % 2 ^ f.fractionBits + 1 = 2 ^ f.fractionBits := by
      by_contra hne
      apply hsame
      rw [← hmod, Nat.add_assoc, Nat.mul_add_div hp, Nat.mul_add_div hp,
        Nat.div_eq_of_lt (show n % 2 ^ f.fractionBits + 1 < _ by omega), Nat.div_eq_of_lt hlt]
    cases hb : n / 2 ^ f.fractionBits with
    | zero =>
        have hn : n + 1 = 2 ^ f.fractionBits := by rw [hb] at hmod; omega
        have hlt2 : n + 1 < 2 ^ (f.fractionBits + 1) := by rw [Nat.pow_succ]; omega
        rw [f.units_of_lt hlt2, f.units_of_lt (by omega)]
        simp [shift, hb]
    | succ e =>
        have hn : n = e * 2 ^ f.fractionBits + (2 ^ (f.fractionBits + 1) - 1) := by
          rw [hb, Nat.mul_comm, Nat.succ_mul] at hmod
          rw [Nat.pow_succ]
          omega
        have hn1 : n + 1 = (e + 1) * 2 ^ f.fractionBits + 2 ^ f.fractionBits := by
          rw [hn, Nat.pow_succ, Nat.succ_mul]
          omega
        have hs : f.shift n = e := by simp [shift, hb]
        have hsig : 2 ^ f.fractionBits < 2 ^ (f.fractionBits + 1) := by rw [Nat.pow_succ]; omega
        have hun : f.units n = (2 ^ (f.fractionBits + 1) - 1) * 2 ^ e := by
          rw [hn]
          exact f.units_binade (by omega) (by omega)
        rw [hs, hn1, f.units_binade (Nat.le_refl _) hsig, hun, Nat.sub_mul, Nat.one_mul,
          Nat.pow_succ, Nat.pow_succ]
        have hge : 2 ^ e ≤ 2 ^ f.fractionBits * 2 * 2 ^ e :=
          Nat.le_mul_of_pos_left _ (by omega)
        have hcomm : 2 ^ f.fractionBits * (2 ^ e * 2) = 2 ^ f.fractionBits * 2 * 2 ^ e := by ring
        omega

theorem units_strictMono (f : Format) : StrictMono f.units := by
  apply strictMono_nat_of_lt_succ
  intro n
  rw [units_succ]
  exact Nat.lt_add_of_pos_right (Nat.two_pow_pos _)

theorem units_lt_iff (f : Format) {n k : Nat} : f.units n < f.units k ↔ n < k :=
  f.units_strictMono.lt_iff_lt

theorem units_le_iff (f : Format) {n k : Nat} : f.units n ≤ f.units k ↔ n ≤ k :=
  f.units_strictMono.le_iff_le

/-- The largest magnitude whose value is at most `s` units. -/
def floorIndex (f : Format) (s : Nat) : Nat :=
  (Nat.log2 s - f.fractionBits) * 2 ^ f.fractionBits + s / 2 ^ (Nat.log2 s - f.fractionBits)

/-- The binade and significand of `floorIndex`: either `s` is below the second
binade, or its top bits are a full significand. -/
theorem units_floorIndex (f : Format) (s : Nat) :
    f.units (f.floorIndex s) =
      s / 2 ^ (Nat.log2 s - f.fractionBits) * 2 ^ (Nat.log2 s - f.fractionBits) := by
  by_cases hk : Nat.log2 s ≤ f.fractionBits
  · have hzero : Nat.log2 s - f.fractionBits = 0 := by omega
    have hlt : s < 2 ^ (f.fractionBits + 1) := by
      refine Nat.lt_of_lt_of_le Nat.lt_log2_self (Nat.pow_le_pow_right (by decide) (by omega))
    simp [floorIndex, hzero, f.units_of_lt hlt]
  · have hs : s ≠ 0 := by
      intro h0
      subst h0
      simp at hk
    have hlog : Nat.log2 s = (Nat.log2 s - f.fractionBits) + f.fractionBits := by omega
    have hlow : 2 ^ f.fractionBits ≤ s / 2 ^ (Nat.log2 s - f.fractionBits) := by
      rw [Nat.le_div_iff_mul_le (Nat.two_pow_pos _), ← Nat.pow_add, Nat.add_comm, ← hlog]
      exact Nat.log2_self_le hs
    have hhigh : s / 2 ^ (Nat.log2 s - f.fractionBits) < 2 ^ (f.fractionBits + 1) := by
      rw [Nat.div_lt_iff_lt_mul (Nat.two_pow_pos _), ← Nat.pow_add]
      have he : f.fractionBits + 1 + (Nat.log2 s - f.fractionBits) = Nat.log2 s + 1 := by omega
      rw [he]
      exact Nat.lt_log2_self
    rw [floorIndex, f.units_binade hlow hhigh]

theorem units_floorIndex_le (f : Format) (s : Nat) : f.units (f.floorIndex s) ≤ s := by
  rw [units_floorIndex]
  exact Nat.div_mul_le_self _ _

theorem lt_units_floorIndex_succ (f : Format) (s : Nat) : s < f.units (f.floorIndex s + 1) := by
  have hshift : Nat.log2 s - f.fractionBits ≤ f.shift (f.floorIndex s) := by
    by_cases hk : Nat.log2 s ≤ f.fractionBits
    · have hzero : Nat.log2 s - f.fractionBits = 0 := by omega
      omega
    · have hs : s ≠ 0 := by
        intro h0
        subst h0
        simp at hk
      have hlow : 2 ^ f.fractionBits ≤ s / 2 ^ (Nat.log2 s - f.fractionBits) := by
        rw [Nat.le_div_iff_mul_le (Nat.two_pow_pos _), ← Nat.pow_add]
        have he : f.fractionBits + (Nat.log2 s - f.fractionBits) = Nat.log2 s := by omega
        rw [he]
        exact Nat.log2_self_le hs
      have hdiv : (Nat.log2 s - f.fractionBits) + 1 ≤ f.floorIndex s / 2 ^ f.fractionBits := by
        rw [Nat.le_div_iff_mul_le (Nat.two_pow_pos _), floorIndex, Nat.succ_mul]
        omega
      unfold shift
      omega
  have hpow := Nat.pow_le_pow_right (show 0 < 2 by decide) hshift
  have hrem := Nat.lt_div_mul_add (a := s) (Nat.two_pow_pos (Nat.log2 s - f.fractionBits))
  rw [units_succ, units_floorIndex]
  omega

/-- Any significand that fits the precision, at any binade, is the value of a magnitude. -/
theorem units_floorIndex_eq (f : Format) {c j : Nat} (hc : c < 2 ^ (f.fractionBits + 1)) :
    f.units (f.floorIndex (c * 2 ^ j)) = c * 2 ^ j := by
  rw [units_floorIndex]
  apply Nat.div_mul_cancel
  have hlog : Nat.log2 (c * 2 ^ j) - f.fractionBits ≤ j := by
    by_cases hz : c * 2 ^ j = 0
    · simp [hz]
    · have hlt : c * 2 ^ j < 2 ^ (f.fractionBits + 1 + j) := by
        rw [Nat.pow_add]
        exact Nat.mul_lt_mul_of_pos_right hc (Nat.two_pow_pos _)
      have := (Nat.log2_lt hz).mpr hlt
      omega
  exact Nat.dvd_trans (Nat.pow_dvd_pow 2 hlog) (Nat.dvd_mul_left _ _)

theorem exists_significand (f : Format) (n : Nat) :
    ∃ c, c < 2 ^ (f.fractionBits + 1) ∧ f.units n = c * 2 ^ f.shift n := by
  refine ⟨n - f.shift n * 2 ^ f.fractionBits, ?_, rfl⟩
  have hp := Nat.two_pow_pos f.fractionBits
  have hlt := Nat.lt_div_mul_add (a := n) hp
  have hs : n / 2 ^ f.fractionBits ≤ f.shift n + 1 := by unfold shift; omega
  have hm := Nat.mul_le_mul_right (2 ^ f.fractionBits) hs
  rw [Nat.succ_mul] at hm
  rw [Nat.pow_succ]
  omega

theorem units_infinity (f : Format) :
    f.units f.infinity = 2 ^ (f.fractionBits + (2 ^ f.exponentBits - 2)) := by
  have he : 2 ^ 2 ≤ 2 ^ f.exponentBits := Nat.pow_le_pow_right (by decide) f.exponent_ge_two
  have hinf : f.infinity = (2 ^ f.exponentBits - 2) * 2 ^ f.fractionBits + 2 ^ f.fractionBits := by
    rw [infinity, ← Nat.succ_mul]
    congr 1
    omega
  have hsig : 2 ^ f.fractionBits < 2 ^ (f.fractionBits + 1) :=
    Nat.pow_lt_pow_right (by decide) (Nat.lt_succ_self _)
  rw [hinf, f.units_binade (Nat.le_refl _) hsig, ← Nat.pow_add]

end Format

end Ieee
