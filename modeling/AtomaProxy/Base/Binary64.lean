/-
Doubles (IEEE 754 binary64): the number that bits stand for, and the rounding
of a rational to the nearest of these numbers, ties to even.

A finite double is a significand below 2^53 times a power of two, and rounding
scales by a power that is no larger: so a double is its own rounding.
-/
import Mathlib.Data.Int.Log
import Mathlib.Data.Rat.Floor
import Mathlib.Tactic.FieldSimp
import Mathlib.Tactic.Ring

namespace Base

structure Binary64 where
  bits : UInt64
  deriving DecidableEq, Repr

namespace Binary64

def isNegative (d : Binary64) : Bool := 2 ^ 63 ≤ d.bits.toNat

/-- The exponent's eleven bits. -/
def exponent (d : Binary64) : Nat := d.bits.toNat / 2 ^ 52 % 2 ^ 11

def fraction (d : Binary64) : Nat := d.bits.toNat % 2 ^ 52

/-- Neither infinite nor no number. -/
def isFinite (d : Binary64) : Bool := d.exponent ≠ 2047

/-- The fraction, behind a one unless the number is subnormal. -/
def significand (d : Binary64) : Nat := if d.exponent = 0 then d.fraction else 2 ^ 52 + d.fraction

/-- The power of two that the significand counts. -/
def unit (d : Binary64) : Int := (max d.exponent 1 : Nat) - 1075

/-- The number that a finite double is, without its sign. -/
def magnitude (d : Binary64) : Rat := d.significand * 2 ^ d.unit

/-- The number that a finite double is. -/
def value (d : Binary64) : Rat := if d.isNegative then -d.magnitude else d.magnitude

/-- The nearest integer, and the even one of two. -/
def roundHalfEven (q : Rat) : Int :=
  if q - ⌊q⌋ < 1 / 2 ∨ q - ⌊q⌋ = 1 / 2 ∧ ⌊q⌋ % 2 = 0 then ⌊q⌋ else ⌊q⌋ + 1

/-- The power of two that the significand of the nearest double counts. -/
def scale (q : Rat) : Int := max (Int.log 2 |q| - 52) (-1074)

/-- The nearest double of a number in the range of the finite ones. -/
def round (q : Rat) : Rat := roundHalfEven (q / 2 ^ scale q) * 2 ^ scale q

theorem significand_lt (d : Binary64) : d.significand < 2 ^ 53 := by
  unfold significand fraction
  split <;> omega

theorem unit_ge (d : Binary64) : -1074 ≤ d.unit := by
  unfold unit
  omega

theorem magnitude_nonneg (d : Binary64) : 0 ≤ d.magnitude :=
  mul_nonneg (Nat.cast_nonneg _) (zpow_nonneg (by norm_num) _)

@[simp] theorem roundHalfEven_intCast (z : Int) : roundHalfEven z = z := by
  simp [roundHalfEven]

/-- Below 2^53 units of a power of two, it is scaled by no larger one. -/
theorem scale_le {z : Int} {u : Int} (hz : z ≠ 0) (hlt : |z| < 2 ^ 53) (hu : -1074 ≤ u) : scale (z * 2 ^ u) ≤ u := by
  have htwo : (0 : Rat) < 2 ^ u := zpow_pos (by norm_num) u
  have hpos : 0 < |(z : Rat) * 2 ^ u| := abs_pos.2 (mul_ne_zero (by exact_mod_cast hz) htwo.ne')
  have habs : |(z : Rat) * 2 ^ u| < (2 : Nat) ^ (u + 53) := by
    have hlt' : |(z : Rat)| < 2 ^ 53 := by exact_mod_cast hlt
    rw [abs_mul, abs_of_pos htwo, Nat.cast_ofNat, zpow_add₀ (by norm_num), mul_comm]
    exact mul_lt_mul_of_pos_left (by exact_mod_cast hlt') htwo
  have hlog := (Int.lt_zpow_iff_log_lt (by norm_num) hpos).1 habs
  unfold scale
  omega

/-- **Such a number is its own rounding.** -/
theorem round_mul_zpow {z : Int} {u : Int} (hlt : |z| < 2 ^ 53) (hu : -1074 ≤ u) :
    round (z * 2 ^ u) = z * 2 ^ u := by
  by_cases hz : z = 0
  · simp [hz, round, roundHalfEven]
  · have hscale := scale_le hz hlt hu
    unfold round
    generalize scale ((z : Rat) * 2 ^ u) = s at hscale ⊢
    obtain ⟨n, rfl⟩ : ∃ n : Nat, u = s + n := ⟨(u - s).toNat, by omega⟩
    have hdiv : (z : Rat) * 2 ^ (s + (n : Int)) / 2 ^ s = ((z * 2 ^ n : Int) : Rat) := by
      rw [zpow_add₀ (by norm_num)]
      push_cast
      field_simp
      norm_num
    rw [hdiv, roundHalfEven_intCast, zpow_add₀ (by norm_num)]
    push_cast
    norm_num
    ring

theorem round_magnitude (d : Binary64) : round d.magnitude = d.magnitude := by
  have hlt := d.significand_lt
  have := @round_mul_zpow d.significand d.unit (by rw [Nat.abs_cast]; exact_mod_cast hlt) d.unit_ge
  exact_mod_cast this

theorem round_natCast {n : Nat} (h : n < 2 ^ 53) : round n = n := by
  have := @round_mul_zpow n 0 (by rw [Nat.abs_cast]; exact_mod_cast h) (by norm_num)
  simpa using this

@[simp] theorem round_zero : round 0 = 0 := by
  simp [round, roundHalfEven]

@[simp] theorem round_one : round 1 = 1 := by
  simpa using round_natCast (n := 1) (by norm_num)

theorem le_roundHalfEven (q : Rat) : ⌊q⌋ ≤ roundHalfEven q := by
  unfold roundHalfEven
  split <;> omega

/-- A number past the significands stays past them. -/
theorem le_round {q : Rat} (h : 2 ^ 53 ≤ q) : 2 ^ 53 ≤ round q := by
  have hpos : 0 < q := lt_of_lt_of_le (by norm_num) h
  have hlog : 53 ≤ Int.log 2 |q| := by
    rw [abs_of_pos hpos, ← Int.zpow_le_iff_le_log (by norm_num) hpos]
    exact_mod_cast h
  have hscale : scale q = Int.log 2 |q| - 52 := by
    unfold scale
    omega
  have hmul : 2 ^ 52 * 2 ^ scale q ≤ q := by
    have hle := Int.zpow_log_le_self (b := 2) (by norm_num) hpos
    rw [hscale, abs_of_pos hpos, ← zpow_natCast, ← zpow_add₀ (by norm_num)]
    simpa using hle
  have hpow : (2 : Rat) ^ 1 ≤ 2 ^ scale q := by
    rw [← zpow_natCast]
    exact zpow_le_zpow_right₀ (by norm_num) (by omega)
  have hfloor : (2 : Rat) ^ 52 ≤ ⌊q / 2 ^ scale q⌋ := by
    have hle : (2 ^ 52 : Int) ≤ ⌊q / 2 ^ scale q⌋ :=
      Int.le_floor.2 (by rw [le_div_iff₀ (zpow_pos (by norm_num) _)]; exact_mod_cast hmul)
    exact_mod_cast hle
  calc (2 : Rat) ^ 53 = 2 ^ 52 * 2 ^ 1 := by norm_num
    _ ≤ (⌊q / 2 ^ scale q⌋ : Rat) * 2 ^ scale q := mul_le_mul hfloor hpow (by norm_num) (le_trans (by norm_num) hfloor)
    _ ≤ round q := mul_le_mul_of_nonneg_right (by exact_mod_cast le_roundHalfEven _) (zpow_nonneg (by norm_num) _)

theorem one_le_round {n : Nat} (h : 0 < n) : 1 ≤ round n := by
  by_cases hsmall : n < 2 ^ 53
  · rw [round_natCast hsmall]
    exact_mod_cast h
  · exact le_trans (by norm_num) (le_round (by exact_mod_cast not_lt.1 hsmall))

end Binary64

end Base
