/-
Buffers that are cut in slots of one size: reading a slot, writing one, and
that a write is seen in its own slot and in no other. Everything is derived
from what a write leaves at each index.
-/
import Mathlib.Algebra.Order.Ring.Nat
import Mathlib.Tactic.SplitIfs

namespace Base

variable {α : Type _}

/-- `Vec::resize(n, fill)`. -/
def resize (n : Nat) (fill : α) (xs : List α) : List α := xs.take n ++ List.replicate (n - xs.length) fill

@[simp] theorem length_resize (n : Nat) (fill : α) (xs : List α) : (resize n fill xs).length = n := by
  simp only [resize, List.length_append, List.length_take, List.length_replicate]
  omega

theorem resize_of_le {n : Nat} {fill : α} {xs : List α} (h : xs.length ≤ n) :
    resize n fill xs = xs ++ List.replicate (n - xs.length) fill := by rw [resize, List.take_of_length_le h]

/-- The slot `i` of a buffer of slots of size `w`. -/
def slot (w i : Nat) (buf : List α) : List α := (buf.drop (i * w)).take w

/-- `buf[i * w..i * w + w].copy_from_slice(bytes)`. -/
def setSlot (w i : Nat) (bytes buf : List α) : List α := buf.take (i * w) ++ bytes ++ buf.drop (i * w + w)

theorem getElem?_slot {w i k : Nat} {buf : List α} :
    (slot w i buf)[k]? = if k < w then buf[i * w + k]? else .none := by
  rw [slot, List.getElem?_take, List.getElem?_drop]

section Write

variable {w i : Nat} {bytes buf : List α} (hbytes : bytes.length = w) (hfits : i * w + w ≤ buf.length)

include hbytes hfits

theorem length_setSlot : (setSlot w i bytes buf).length = buf.length := by
  simp only [setSlot, List.length_append, List.length_take, List.length_drop, hbytes]
  omega

/-- What a write leaves at each index. -/
theorem getElem?_setSlot {k : Nat} :
    (setSlot w i bytes buf)[k]? = if i * w ≤ k ∧ k < i * w + w then bytes[k - i * w]? else buf[k]? := by
  have htake : (buf.take (i * w)).length = i * w := by
    rw [List.length_take]
    omega
  rw [setSlot, List.append_assoc, List.getElem?_append, List.getElem?_append, htake, hbytes, List.getElem?_take,
    List.getElem?_drop]
  split_ifs <;> first | rfl | omega | (congr 1; omega)

theorem slot_setSlot_self : slot w i (setSlot w i bytes buf) = bytes := by
  refine List.ext_getElem? fun k => ?_
  rw [getElem?_slot, getElem?_setSlot hbytes hfits, Nat.add_sub_cancel_left]
  split_ifs with h1 h2
  · rfl
  · omega
  · exact (List.getElem?_eq_none (by omega)).symm

theorem slot_setSlot_of_ne {j : Nat} (h : j ≠ i) : slot w j (setSlot w i bytes buf) = slot w j buf := by
  refine List.ext_getElem? fun k => ?_
  rw [getElem?_slot, getElem?_slot, getElem?_setSlot hbytes hfits]
  split_ifs with h1 h2
  · -- the slots do not overlap
    rcases Nat.lt_or_gt_of_ne h with hlt | hgt
    · have hle := Nat.mul_le_mul_right w hlt
      rw [Nat.succ_mul] at hle
      omega
    · have hle := Nat.mul_le_mul_right w hgt
      rw [Nat.succ_mul] at hle
      omega
  · rfl
  · rfl

end Write

/-- Buffers of a whole number of slots, with the same slots, are the same. -/
theorem ext_slots {w n : Nat} {xs ys : List α} (hxs : xs.length = n * w) (hys : ys.length = n * w)
    (h : ∀ i < n, slot w i xs = slot w i ys) : xs = ys := by
  refine List.ext_getElem? fun k => ?_
  by_cases hk : k < n * w
  · have hw : 0 < w := Nat.pos_of_ne_zero fun h0 => by
      rw [h0, Nat.mul_zero] at hk
      omega
    have hslot := congrArg (·[k % w]?) (h (k / w) (Nat.div_lt_of_lt_mul (by rwa [Nat.mul_comm])))
    simp only [getElem?_slot, Nat.mod_lt k hw, if_true] at hslot
    rwa [Nat.div_add_mod'] at hslot
  · rw [List.getElem?_eq_none (by omega), List.getElem?_eq_none (by omega)]

/-- A resized slot is the first one, and the others are filled. -/
theorem slot_zero_resize {w n : Nat} {fill : α} {xs : List α} (hxs : xs.length = w) (hn : w ≤ n) :
    slot w 0 (resize n fill xs) = xs := by
  rw [resize_of_le (hxs ▸ hn), slot, Nat.zero_mul, List.drop_zero, ← hxs, List.take_left]

theorem slot_succ_resize {w i n : Nat} {fill : α} {xs : List α} (hxs : xs.length = w)
    (hn : (i + 1) * w + w ≤ n) : slot w (i + 1) (resize n fill xs) = List.replicate w fill := by
  have hle : w ≤ (i + 1) * w := Nat.le_mul_of_pos_left w (Nat.succ_pos i)
  rw [resize_of_le (by omega), slot, List.drop_append, List.drop_eq_nil_of_le (by omega), List.nil_append,
    List.drop_replicate, List.take_replicate]
  congr 1
  omega

end Base
