/-
The text of a double as programs print it: the shortest decimal that has the
double for its nearest one, positional and with no exponent.

* `round_shortest`: the decimal that is found rounds to the double.
* `IsNumeral`: an unsigned numeral and the number it writes, whatever reads it;
  `decimalText_isNumeral`: the text is one of the decimal found.
* `shortest_one`: a one is written as such.
-/
import AtomaProxy.Base.Binary64

namespace Base

/-- Digits, with a point among them or with none, and the number they write. -/
inductive IsNumeral : List Char → Rat → Prop where
  | whole {w : List Char} (hne : w ≠ []) (hw : ∀ c ∈ w, c.isDigit) : IsNumeral w (Nat.ofDigitChars 10 w 0)
  | pointed {w f : List Char} (hne : w ≠ []) (hw : ∀ c ∈ w, c.isDigit) (hf : ∀ c ∈ f, c.isDigit) :
      IsNumeral (w ++ '.' :: f) (Nat.ofDigitChars 10 (w ++ f) 0 / 10 ^ f.length)

/-- A zero more in front. -/
theorem IsNumeral.zero_cons {text q} (h : IsNumeral text q) : IsNumeral ('0' :: text) q := by
  have hzero {w : List Char} (hw : ∀ c ∈ w, c.isDigit) : ∀ c ∈ '0' :: w, c.isDigit := by
    simpa [Char.isDigit] using hw
  cases h with
  | whole hne hw => simpa [Nat.ofDigitChars_cons] using IsNumeral.whole (List.cons_ne_nil _ _) (hzero hw)
  | pointed hne hw hf =>
    simpa [Nat.ofDigitChars_cons] using IsNumeral.pointed (List.cons_ne_nil _ _) (hzero hw) hf

/-- The last `k` digits of `m`. -/
def lastDigits : Nat → Nat → List Char
  | 0, _ => []
  | k + 1, m => lastDigits k (m / 10) ++ [Nat.digitChar (m % 10)]

@[simp] theorem length_lastDigits (k m : Nat) : (lastDigits k m).length = k := by
  induction k generalizing m with
  | zero => rfl
  | succ k ih => simp [lastDigits, ih]

theorem isDigit_of_mem_lastDigits {k m : Nat} : ∀ c ∈ lastDigits k m, c.isDigit := by
  induction k generalizing m with
  | zero => simp [lastDigits]
  | succ k ih =>
    intro c hc
    rcases List.mem_append.1 hc with hc | hc
    · exact ih c hc
    · rw [List.mem_singleton.1 hc, Nat.isDigit_digitChar]
      exact decide_eq_true (Nat.mod_lt _ (by norm_num))

theorem ofDigitChars_lastDigits (k m : Nat) : Nat.ofDigitChars 10 (lastDigits k m) 0 = m % 10 ^ k := by
  induction k generalizing m with
  | zero => simp [lastDigits, Nat.mod_one]
  | succ k ih =>
    rw [lastDigits, Nat.ofDigitChars_append, ih,
      Nat.ofDigitChars_cons_digitChar_of_lt_ten (Nat.mod_lt _ (by norm_num)), Nat.ofDigitChars_nil, pow_succ',
      Nat.mod_mul, add_comm]

/-- `m * 10 ^ e`, written with no exponent. -/
def decimalText (m : Nat) (e : Int) : List Char :=
  if 0 ≤ e then Nat.toDigits 10 (m * 10 ^ e.toNat)
  else Nat.toDigits 10 (m / 10 ^ (-e).toNat) ++ '.' :: lastDigits (-e).toNat m

theorem decimalText_isNumeral (m : Nat) (e : Int) : IsNumeral (decimalText m e) (m * 10 ^ e) := by
  have hdigits {n : Nat} : ∀ c ∈ Nat.toDigits 10 n, c.isDigit := fun c hc =>
    Nat.isDigit_of_mem_toDigits (by norm_num) (by norm_num) hc
  unfold decimalText
  split
  · next he =>
    obtain ⟨n, rfl⟩ := Int.eq_ofNat_of_zero_le he
    simpa using IsNumeral.whole (Nat.toDigits_ne_nil (n := m * 10 ^ n) (b := 10)) hdigits
  · next he =>
    obtain ⟨k, rfl⟩ : ∃ k : Nat, e = -k := ⟨(-e).toNat, by omega⟩
    have h := IsNumeral.pointed (Nat.toDigits_ne_nil (n := m / 10 ^ k) (b := 10)) hdigits
      (isDigit_of_mem_lastDigits (k := k) (m := m))
    rw [Nat.ofDigitChars_append, Nat.ofDigitChars_ten_toDigits, Nat.ofDigitChars_eq_ofDigitChars_zero,
      length_lastDigits, ofDigitChars_lastDigits, Nat.div_add_mod] at h
    simpa [zpow_neg, div_eq_mul_inv] using h

namespace Binary64

/-- The multiple of `10 ^ e` beside `q` that rounds to it, the nearer one where both do. -/
def decimalAt (q : Rat) (e : Int) : Option Nat :=
  let below := ⌊q / 10 ^ e⌋₊
  let byDistance := if q / 10 ^ e - below < 1 / 2 then [below, below + 1] else [below + 1, below]
  byDistance.find? fun m => round (m * 10 ^ e) = q

/-- The first decimal that rounds to `q`, from the exponent `n - 1074` down. There `q` is a whole multiple. -/
def shortestFrom (q : Rat) : Nat → Nat × Int
  | 0 => (⌊q * 10 ^ 1074⌋₊, -1074)
  | n + 1 =>
    match decimalAt q (n + 1 - 1074) with
    | .some m => (m, n + 1 - 1074)
    | .none => shortestFrom q n

/-- The shortest decimal of a double's magnitude. The largest double has 309 digits. -/
def shortest (q : Rat) : Nat × Int := if q = 0 then (0, 0) else shortestFrom q (1074 + 308)

theorem round_of_decimalAt {q : Rat} {e : Int} {m : Nat} (h : decimalAt q e = .some m) : round (m * 10 ^ e) = q := by
  simpa using List.find?_some h

theorem twos_mul_tens (m n k : Nat) : (m * 2 ^ ((n : Int) - k) * 10 ^ k : Rat) = (m * 2 ^ n * 5 ^ k : Nat) := by
  rw [zpow_sub₀ (by norm_num), show (10 : Rat) = 2 * 5 by norm_num, mul_pow]
  push_cast
  simp only [zpow_natCast]
  field_simp

/-- It is a whole multiple of the last power of ten. -/
theorem magnitude_mul (d : Binary64) : ∃ z : Nat, d.magnitude * 10 ^ 1074 = z := by
  obtain ⟨n, hn⟩ : ∃ n : Nat, d.unit = n - (1074 : Nat) := ⟨(d.unit + 1074).toNat, by have := d.unit_ge; omega⟩
  exact ⟨_, by rw [magnitude, hn]; exact twos_mul_tens d.significand n 1074⟩

theorem round_shortestFrom {q : Rat} (hq : round q = q) (hmul : ∃ z : Nat, q * 10 ^ 1074 = z) (n : Nat) :
    round ((shortestFrom q n).1 * 10 ^ (shortestFrom q n).2) = q := by
  induction n with
  | zero =>
    obtain ⟨z, hz⟩ := hmul
    have hqz : (z : Rat) * 10 ^ (-1074 : Int) = q := by
      rw [← hz, zpow_neg, mul_assoc]
      exact mul_right_eq_self₀.2 (.inl (mul_inv_cancel₀ (pow_ne_zero _ (by norm_num))))
    simp only [shortestFrom, hz, Nat.floor_natCast, hqz, hq]
  | succ n ih =>
    unfold shortestFrom
    split
    · next m h => exact round_of_decimalAt h
    · exact ih

/-- **What is written rounds to the double.** -/
theorem round_shortest (d : Binary64) :
    round ((shortest d.magnitude).1 * 10 ^ (shortest d.magnitude).2) = d.magnitude := by
  unfold shortest
  split
  · next h => rw [h]; simp
  · exact round_shortestFrom d.round_magnitude d.magnitude_mul _

theorem decimalAt_one_zero : decimalAt 1 0 = .some 1 := by
  simp [decimalAt]

/-- A power of ten is not rounded to one, nor is zero. -/
theorem decimalAt_one_succ (e : Nat) : decimalAt 1 (e + 1) = .none := by
  have hpow : (10 : Rat) ^ ((e : Int) + 1) = ((10 ^ (e + 1) : Nat) : Rat) := by push_cast; rfl
  have hlt : 1 < 10 ^ (e + 1) := Nat.one_lt_pow (by omega) (by norm_num)
  have hfloor : ⌊(1 : Rat) / 10 ^ ((e : Int) + 1)⌋₊ = 0 := by
    rw [Nat.floor_eq_zero, hpow, div_lt_one (by positivity)]
    exact_mod_cast hlt
  have hround : round (10 ^ ((e : Int) + 1)) ≠ 1 := by
    rw [hpow]
    by_cases hsmall : 10 ^ (e + 1) < 2 ^ 53
    · rw [round_natCast hsmall]
      exact_mod_cast hlt.ne'
    · have := le_round (q := (10 ^ (e + 1) : Nat)) (by exact_mod_cast not_lt.1 hsmall)
      intro h
      rw [h] at this
      norm_num at this
  simp only [decimalAt, hfloor]
  split <;> simp [hround]

theorem shortestFrom_one (k : Nat) : shortestFrom 1 (1074 + k) = (1, 0) := by
  induction k with
  | zero => simp [shortestFrom, decimalAt_one_zero]
  | succ k ih =>
    have he : ((1074 + k : Nat) : Int) + 1 - 1074 = k + 1 := by push_cast; omega
    rw [← Nat.add_assoc, shortestFrom, he, decimalAt_one_succ]
    exact ih

theorem shortest_one : shortest 1 = (1, 0) := by
  rw [shortest, if_neg (by norm_num), shortestFrom_one]

/-- The double's text. -/
def display (d : Binary64) : String :=
  if d.isFinite then
    let (m, e) := shortest d.magnitude
    String.ofList ((if d.isNegative then ['-'] else []) ++ decimalText m e)
  else if d.fraction ≠ 0 then "NaN"
  else if d.isNegative then "-inf" else "inf"

/-- **The text of a double that is not below zero**: a numeral that rounds to it, or a zero with a sign. -/
theorem display_cases {d : Binary64} (hfin : d.isFinite) (hd : 0 ≤ d.value) :
    ∃ text q, IsNumeral text q ∧ round q = d.value ∧ (q = 1 ↔ d.value = 1) ∧
      (d.display.toList = text ∨ d.display.toList = '-' :: text ∧ q = 0) := by
  refine ⟨_, _, decimalText_isNumeral (shortest d.magnitude).1 (shortest d.magnitude).2, ?_⟩
  have hround := d.round_shortest
  cases hneg : d.isNegative with
  | false =>
    have hvalue : d.value = d.magnitude := by simp [value, hneg]
    rw [hvalue]
    refine ⟨hround, ⟨fun h => ?_, fun h => ?_⟩, .inl ?_⟩
    · rw [h, round_one] at hround
      exact hround.symm
    · rw [h, shortest_one]
      norm_num
    · simp [display, hfin, hneg]
  | true =>
    have hvalue : d.value = -d.magnitude := by simp [value, hneg]
    have hzero : d.magnitude = 0 := le_antisymm (by linarith) d.magnitude_nonneg
    rw [hvalue, hzero]
    refine ⟨by simp [shortest], by simp [shortest], .inr ⟨?_, by simp [shortest]⟩⟩
    simp [display, hfin, hneg, hzero]

end Binary64

end Base
