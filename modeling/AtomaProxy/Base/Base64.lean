/-
Base64 as bits: a byte is eight of them and a character of the alphabet six,
so a text without padding is the bits of its bytes, filled up with zeros to
whole characters, and a slice of the text is a slice of these bits.
-/
import Mathlib.Data.Rat.Floor

namespace Base

/-- The lowest n bits of a number, the highest first. -/
def bitsOfNat : Nat → Nat → List Bool
  | 0, _ => []
  | n + 1, x => x.testBit n :: bitsOfNat n x

/-- The bits of bytes, in order. -/
def bitsOfBytes (bs : List UInt8) : List Bool := bs.flatMap fun b => bitsOfNat 8 b.toNat

/-- The indices into the alphabet that bytes are written with, three of them in four, without padding. -/
def base64Indices : List UInt8 → List Nat
  | [] => []
  | [a] => [a.toNat / 4, 16 * (a.toNat % 4)]
  | [a, b] => [a.toNat / 4, 16 * (a.toNat % 4) + b.toNat / 16, 4 * (b.toNat % 16)]
  | a :: b :: c :: bs =>
    [a.toNat / 4, 16 * (a.toNat % 4) + b.toNat / 16, 4 * (b.toNat % 16) + c.toNat / 64, c.toNat % 64] ++
      base64Indices bs

/-- The bytes that so many characters hold whole, from the character at an offset on. -/
def bytesWithin (bs : List UInt8) (offset chars : Nat) : List UInt8 :=
  (bs.zipIdx.filter fun p => 6 * offset ≤ 8 * p.2 ∧ 8 * p.2 + 8 ≤ 6 * (offset + chars)).map Prod.fst

@[simp] theorem length_bitsOfNat (n x : Nat) : (bitsOfNat n x).length = n := by
  induction n with
  | zero => rfl
  | succ n ih => simp [bitsOfNat, ih]

@[simp] theorem bitsOfBytes_nil : bitsOfBytes [] = [] := rfl

@[simp] theorem bitsOfBytes_cons (b : UInt8) (bs : List UInt8) :
    bitsOfBytes (b :: bs) = bitsOfNat 8 b.toNat ++ bitsOfBytes bs := rfl

@[simp] theorem length_bitsOfBytes (bs : List UInt8) : (bitsOfBytes bs).length = 8 * bs.length := by
  induction bs with
  | nil => rfl
  | cons b bs ih => simp [ih]; omega

theorem base64Indices_lt (bs : List UInt8) : ∀ x ∈ base64Indices bs, x < 64 := by
  induction bs using base64Indices.induct with
  | case1 => simp [base64Indices]
  | case2 a =>
    have := a.toNat_lt
    simp [base64Indices]
    omega
  | case3 a b =>
    have := a.toNat_lt
    have := b.toNat_lt
    simp [base64Indices]
    omega
  | case4 a b c bs ih =>
    have := a.toNat_lt
    have := b.toNat_lt
    have := c.toNat_lt
    intro x hx
    rw [base64Indices, List.mem_append] at hx
    rcases hx with hx | hx
    · simp only [List.mem_cons, List.not_mem_nil, or_false] at hx
      omega
    · exact ih x hx

/-! ## The bits of numbers -/

theorem bitsOfNat_congr {n x y : Nat} (h : ∀ i < n, x.testBit i = y.testBit i) : bitsOfNat n x = bitsOfNat n y := by
  induction n with
  | zero => rfl
  | succ n ih =>
    rw [bitsOfNat, bitsOfNat, h n (by omega), ih fun i hi => h i (by omega)]

theorem bitsOfNat_add (m n x : Nat) : bitsOfNat (m + n) x = bitsOfNat m (x / 2 ^ n) ++ bitsOfNat n (x % 2 ^ n) := by
  induction m with
  | zero =>
    rw [Nat.zero_add]
    exact bitsOfNat_congr fun i hi => by simp [hi]
  | succ m ih =>
    rw [Nat.add_right_comm, bitsOfNat, bitsOfNat, ih, Nat.testBit_div_two_pow]
    rfl

/-- A number above n lower bits: its bits, and then theirs. -/
theorem bitsOfNat_mul_add (m n x y : Nat) (h : y < 2 ^ n) :
    bitsOfNat (m + n) (2 ^ n * x + y) = bitsOfNat m x ++ bitsOfNat n y := by
  rw [bitsOfNat_add, Nat.mul_add_div (Nat.two_pow_pos n), Nat.div_eq_of_lt h, Nat.add_zero, Nat.mul_add_mod_self_left,
    Nat.mod_eq_of_lt h]

theorem bitsOfNat_zero (n : Nat) : bitsOfNat n 0 = List.replicate n false := by
  induction n with
  | zero => rfl
  | succ n ih => rw [bitsOfNat, ih, Nat.zero_testBit, List.replicate_succ]

/-- Four sextets are three bytes. -/
theorem bits_quantum (a b c : Nat) (hb : b < 2 ^ 8) (hc : c < 2 ^ 8) :
    bitsOfNat 6 (a / 4) ++ bitsOfNat 6 (16 * (a % 4) + b / 16) ++ bitsOfNat 6 (4 * (b % 16) + c / 64) ++
      bitsOfNat 6 (c % 64) = bitsOfNat 8 a ++ bitsOfNat 8 b ++ bitsOfNat 8 c := by
  have hA := bitsOfNat_add 6 2 a
  have hB := bitsOfNat_add 4 4 b
  have hC := bitsOfNat_add 2 6 c
  have hAB := bitsOfNat_mul_add 2 4 (a % 4) (b / 16) (by omega)
  have hBC := bitsOfNat_mul_add 4 2 (b % 16) (c / 64) (by omega)
  simp only [Nat.reduceAdd, Nat.reducePow] at hA hB hC hAB hBC
  rw [hA, hB, hC, hAB, hBC]
  simp only [List.append_assoc]

/-- The characters' bits are those of the bytes, and fewer than six zeros. -/
theorem flatMap_base64Indices (bs : List UInt8) : ∃ fill < 6,
    (base64Indices bs).flatMap (bitsOfNat 6) = bitsOfBytes bs ++ List.replicate fill false := by
  induction bs using base64Indices.induct with
  | case1 => exact ⟨0, by omega, rfl⟩
  | case2 a =>
    have hA := bitsOfNat_add 6 2 a.toNat
    have hfill := bitsOfNat_mul_add 2 4 (a.toNat % 4) 0 (by omega)
    simp only [Nat.reduceAdd, Nat.reducePow, Nat.add_zero] at hA hfill
    refine ⟨4, by omega, ?_⟩
    simp [base64Indices, hA, hfill, bitsOfNat_zero]
  | case3 a b =>
    have hA := bitsOfNat_add 6 2 a.toNat
    have hB := bitsOfNat_add 4 4 b.toNat
    have hAB := bitsOfNat_mul_add 2 4 (a.toNat % 4) (b.toNat / 16) (by have := b.toNat_lt; omega)
    have hfill := bitsOfNat_mul_add 4 2 (b.toNat % 16) 0 (by omega)
    simp only [Nat.reduceAdd, Nat.reducePow, Nat.add_zero] at hA hB hAB hfill
    refine ⟨2, by omega, ?_⟩
    simp [base64Indices, hA, hB, hAB, hfill, bitsOfNat_zero]
  | case4 a b c bs ih =>
    obtain ⟨fill, hfill, ih⟩ := ih
    refine ⟨fill, hfill, ?_⟩
    have hquantum := bits_quantum a.toNat b.toNat c.toNat b.toNat_lt c.toNat_lt
    rw [base64Indices, List.flatMap_append, ih, bitsOfBytes_cons, bitsOfBytes_cons, bitsOfBytes_cons]
    simp only [List.flatMap_cons, List.flatMap_nil, List.append_nil, ← List.append_assoc] at hquantum ⊢
    rw [hquantum]

/-! ## Slices -/

section Slices

variable {α β : Type _} {f : α → List β} {k : Nat}

theorem flatMap_drop (hf : ∀ x, (f x).length = k) (xs : List α) (n : Nat) :
    (xs.drop n).flatMap f = (xs.flatMap f).drop (k * n) := by
  induction xs generalizing n with
  | nil => simp
  | cons x xs ih =>
    cases n with
    | zero => rfl
    | succ n =>
      rw [List.drop_succ_cons, ih, List.flatMap_cons, Nat.mul_succ, Nat.add_comm, ← List.drop_drop,
        List.drop_left' (hf x)]

theorem flatMap_take (hf : ∀ x, (f x).length = k) (xs : List α) (n : Nat) :
    (xs.take n).flatMap f = (xs.flatMap f).take (k * n) := by
  induction xs generalizing n with
  | nil => simp
  | cons x xs ih =>
    cases n with
    | zero => rfl
    | succ n =>
      have hx : (f x).take (k * n + k) = f x := List.take_of_length_le (by rw [hf]; omega)
      rw [List.take_succ_cons, List.flatMap_cons, ih, List.flatMap_cons, Nat.mul_succ, List.take_append, hx, hf,
        Nat.add_sub_cancel]

/-- The elements whose positions lie in a range. -/
theorem filter_zipIdx (xs : List α) (low high start : Nat) :
    ((xs.zipIdx start).filter fun p => low ≤ p.2 ∧ p.2 < high).map Prod.fst =
      (xs.drop (low - start)).take (high - max low start) := by
  induction xs generalizing start with
  | nil => simp
  | cons x xs ih =>
    rw [List.zipIdx_cons, List.filter_cons]
    by_cases hlow : low ≤ start
    · have hskip : low - start = 0 := by omega
      have hskip' : low - (start + 1) = 0 := by omega
      by_cases hhigh : start < high
      · have hcount : high - max low start = high - max low (start + 1) + 1 := by omega
        rw [if_pos (by simp [hlow, hhigh]), List.map_cons, ih, hskip, hskip', hcount]
        rfl
      · have hcount : high - max low start = 0 := by omega
        have hcount' : high - max low (start + 1) = 0 := by omega
        rw [if_neg (by simp [hhigh]), ih, hcount, hcount', List.take_zero, List.take_zero]
    · have hskip : low - start = low - (start + 1) + 1 := by omega
      have hmax : max low start = max low (start + 1) := by omega
      rw [if_neg (by simp [hlow]), ih, hskip, hmax, List.drop_succ_cons]

end Slices

/-- The bytes that characters hold whole are a slice. -/
theorem bytesWithin_eq (bs : List UInt8) (offset chars : Nat) : bytesWithin bs offset chars =
    (bs.drop ((6 * offset + 7) / 8)).take (6 * (offset + chars) / 8 - (6 * offset + 7) / 8) := by
  have hrange : ∀ j, (6 * offset ≤ 8 * j ∧ 8 * j + 8 ≤ 6 * (offset + chars)) ↔
      ((6 * offset + 7) / 8 ≤ j ∧ j < 6 * (offset + chars) / 8) := by omega
  simp only [bytesWithin, hrange]
  rw [filter_zipIdx, Nat.sub_zero, Nat.max_eq_left (Nat.zero_le _)]

/-- There is a character for every six bits, the last one filled up. -/
theorem length_base64Indices (bs : List UInt8) :
    8 * bs.length ≤ 6 * (base64Indices bs).length ∧ 6 * (base64Indices bs).length < 8 * bs.length + 6 := by
  obtain ⟨fill, hfill, hbits⟩ := flatMap_base64Indices bs
  have hlength := congrArg List.length hbits
  simp [List.length_flatMap] at hlength
  omega

/-- From a byte's first bit on, the bits of a slice of characters are those of bytes. -/
theorem bits_of_slice {bs : List UInt8} {offset chars skip first count : Nat} (hskip : 6 * offset + skip = 8 * first)
    (hcount : skip + 8 * count ≤ 6 * chars) (hin : first + count ≤ bs.length) :
    (((((base64Indices bs).drop offset).take chars).flatMap (bitsOfNat 6)).drop skip).take (8 * count) =
      bitsOfBytes ((bs.drop first).take count) := by
  obtain ⟨fill, -, hbits⟩ := flatMap_base64Indices bs
  have hlength : 8 * count ≤ ((bitsOfBytes bs).drop (8 * first)).length := by
    rw [List.length_drop, length_bitsOfBytes]
    omega
  rw [flatMap_take (length_bitsOfNat 6), flatMap_drop (length_bitsOfNat 6), hbits, List.drop_take, List.take_take,
    List.drop_drop, hskip, Nat.min_eq_left (by omega), List.drop_append, List.take_append_of_le_length hlength]
  unfold bitsOfBytes
  rw [← flatMap_drop (fun b => length_bitsOfNat 8 _), ← flatMap_take (fun b => length_bitsOfNat 8 _)]

end Base
