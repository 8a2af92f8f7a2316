/-
Sixty-four-bit signed integers as Rust and PostgreSQL use them: the checked
conversions and additions that refuse a result out of range, and when the
unchecked ones (a cast from `u64`, a wrapping product, a truncating division)
still agree with the integers.

Values are Lean's own `Int64` and `UInt64`; statements speak of `toInt` and
`toNat`, so that arithmetic about them is arithmetic of the integers.
-/
import Mathlib.Data.Int.Order.Basic
import Mathlib.Tactic.Ring
import Mathlib.Tactic.Linarith
import Mathlib.Algebra.Order.Ring.Int

namespace Base

/-- The integers an `i64` can hold. -/
def InI64 (z : Int) : Prop := -2 ^ 63 ≤ z ∧ z < 2 ^ 63

instance (z : Int) : Decidable (InI64 z) := inferInstanceAs (Decidable (_ ∧ _))

theorem inI64_toInt (a : Int64) : InI64 a.toInt := ⟨Int64.le_toInt a, Int64.toInt_lt a⟩

/-- The `i64` holding `z`, if there is one: the range check of `i64::try_from`. The test is made on the
magnitude, so that unfolding it on a variable stops there. -/
def i64OfInt? : Int → Option Int64
  | .ofNat n => if n < 9223372036854775808 then .some (Int64.ofInt (.ofNat n)) else .none
  | .negSucc n => if n < 9223372036854775808 then .some (Int64.ofInt (.negSucc n)) else .none

theorem toInt_ofInt {z : Int} (h : InI64 z) : (Int64.ofInt z).toInt = z :=
  Int64.toInt_ofInt_of_le h.1 h.2

theorem i64OfInt?_of_inI64 {z : Int} (h : InI64 z) : i64OfInt? z = .some (Int64.ofInt z) := by
  unfold InI64 at h
  cases z with
  | ofNat n =>
    rw [Int.ofNat_eq_natCast] at h
    exact if_pos (by omega)
  | negSucc n => exact if_pos (by omega)

theorem i64OfInt?_eq_none {z : Int} : i64OfInt? z = .none ↔ ¬ InI64 z := by
  constructor
  · intro h hz
    rw [i64OfInt?_of_inI64 hz] at h
    cases h
  · intro h
    unfold InI64 at h
    cases z with
    | ofNat n =>
      rw [Int.ofNat_eq_natCast] at h
      exact if_neg (by omega)
    | negSucc n => exact if_neg (by omega)

theorem i64OfInt?_eq_some {z : Int} {a : Int64} : i64OfInt? z = .some a ↔ a.toInt = z := by
  constructor
  · intro h
    have hz : InI64 z := by
      by_contra hz
      rw [i64OfInt?_eq_none.2 hz] at h
      cases h
    rw [i64OfInt?_of_inI64 hz, Option.some.injEq] at h
    exact h ▸ toInt_ofInt hz
  · rintro rfl
    rw [i64OfInt?_of_inI64 (inI64_toInt a), Int64.ofInt_toInt]

/-- `i64::from(a > 0)` counts at most what `a` is. -/
theorem toInt_ite_pos {a : Int64} (h : 0 ≤ a.toInt) :
    0 ≤ (if a > 0 then (1 : Int64) else 0).toInt ∧ (if a > 0 then (1 : Int64) else 0).toInt ≤ a.toInt := by
  have hone : (1 : Int64).toInt = 1 := rfl
  have hzero : (0 : Int64).toInt = 0 := rfl
  split
  · next hpos =>
    rw [gt_iff_lt, Int64.lt_iff_toInt_lt] at hpos
    omega
  · omega

/-! ## The cast `u64 as i64` -/

theorem toInt_toInt64_bmod (n : UInt64) : n.toInt64.toInt = Int.bmod n.toNat (2 ^ 64) :=
  BitVec.toInt_eq_toNat_bmod n.toBitVec

theorem toInt_toInt64 {n : UInt64} (h : n.toNat < 2 ^ 63) : n.toInt64.toInt = n.toNat := by
  rw [toInt_toInt64_bmod, Int.bmod_eq_of_le] <;> omega

theorem toInt_toInt64_neg {n : UInt64} (h : 2 ^ 63 ≤ n.toNat) : n.toInt64.toInt = n.toNat - 2 ^ 64 := by
  have hlt := n.toNat_lt
  rw [toInt_toInt64_bmod, Int.bmod_def]
  omega

/-- The cast keeps a value exactly where its result is not negative. -/
theorem toInt_toInt64_nonneg {n : UInt64} : 0 ≤ n.toInt64.toInt ↔ n.toNat < 2 ^ 63 := by
  by_cases h : n.toNat < 2 ^ 63
  · rw [toInt_toInt64 h]
    omega
  · have hlt := n.toNat_lt
    rw [toInt_toInt64_neg (by omega)]
    omega

theorem toInt64_injective {a b : UInt64} (h : a.toInt64 = b.toInt64) : a = b := by
  rw [← UInt64.toUInt64_toInt64 a, h, UInt64.toUInt64_toInt64]

/-- The cast back keeps what is not negative. -/
theorem toNat_toUInt64 {a : Int64} (h : 0 ≤ a.toInt) : (a.toUInt64.toNat : Int) = a.toInt := by
  have hcast := Int64.toInt64_toUInt64 a
  rw [← hcast] at h ⊢
  rw [toInt_toInt64 (toInt_toInt64_nonneg.1 h)]
  rfl

end Base
