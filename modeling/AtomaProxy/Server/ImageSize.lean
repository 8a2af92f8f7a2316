/-
Image sizes: which texts are read as WIDTHxHEIGHT, and what is reserved for
images of the size.

The parts between the x's that are no numbers are dropped before they are
counted, a number may have a plus sign, and the product wraps. An estimate is
right where none of the three shows.
-/
import AtomaProxy.Server.RequestModel
import Mathlib.Data.List.Basic

namespace AtomaProxy

/-- A decimal number that a `u64` holds: digits, and no sign. -/
def isDecimalU64 (s : List Char) : Bool := !s.isEmpty && s.all Char.isDigit && Nat.ofDigitChars 10 s 0 < 2 ^ 64

structure DecimalU64 (s : List Char) (n : UInt64) : Prop where
  isDecimal : isDecimalU64 s = true
  value : Nat.ofDigitChars 10 s 0 = n.toNat

/-- WIDTHxHEIGHT, and nothing else. -/
def IsSize (size : List Char) (width height : UInt64) : Prop :=
  ∃ w h, size = w ++ 'x' :: h ∧ DecimalU64 w width ∧ DecimalU64 h height

/-- What is to be estimated for n images of a size. -/
structure SizeEstimated (n : UInt64) (size : List Char) (result : Except AtomaProxyError ComputeUnitsEstimate) :
    Prop where
  fits : ∀ width height, IsSize size width height → n.toNat * width.toNat * height.toNat < 2 ^ 64 →
    ∃ estimate, result = .ok estimate ∧ estimate.maxOutputTokens.toNat = n.toNat * width.toNat * height.toNat
  tooLarge : ∀ width height, IsSize size width height → 2 ^ 64 ≤ n.toNat * width.toNat * height.toNat →
    ∃ e, result = .error e
  malformed : (∀ width height, ¬ IsSize size width height) → ∃ e, result = .error e

/-- Every request that a model is built of gets the estimate its size is to get. -/
def ImageSizeEstimated (request : Value) (tokenizer : Option Tokenizer) : Prop :=
  ∀ self, RequestModelImageGenerations.new request = .ok self →
    SizeEstimated self.n self.size.toList (self.getComputeUnitsEstimate tokenizer)

/-! ## The numbers -/

theorem isDigit_iff (c : Char) : c.isDigit = true ↔ '0' ≤ c ∧ c ≤ '9' := by
  simp [Char.isDigit, Char.le_def]

theorem mapM_digit? (s : List Char) : s.mapM digit? =
    if s.all Char.isDigit then .some (s.map fun c => c.toNat - '0'.toNat) else .none := by
  induction s with
  | nil => rfl
  | cons c s ih =>
    rw [List.mapM_cons, ih, List.all_cons]
    by_cases hc : c.isDigit = true
    · rw [digit?, if_pos ((isDigit_iff c).1 hc), hc]
      cases s.all Char.isDigit <;> rfl
    · rw [digit?, if_neg (mt (isDigit_iff c).2 hc), Bool.eq_false_of_not_eq_true hc]
      rfl

/-- Digits are read to the number they are the numeral of, within range. -/
theorem readDigits (s : List Char) : (do
      let ds ← s.mapM digit?
      let n := ds.foldl (fun acc d => 10 * acc + d) 0
      if ds ≠ [] ∧ n < 2 ^ 64 then Option.some (UInt64.ofNat n) else .none) =
    if isDecimalU64 s then .some (.ofNat (Nat.ofDigitChars 10 s 0)) else .none := by
  have hfold : (s.map fun c => c.toNat - '0'.toNat).foldl (fun acc d => 10 * acc + d) 0 = Nat.ofDigitChars 10 s 0 := by
    rw [List.foldl_map, Nat.ofDigitChars_eq_foldl]
  rw [mapM_digit?]
  cases hdigits : s.all Char.isDigit with
  | false => simp [isDecimalU64, hdigits]
  | true =>
    simp only [↓reduceIte, Option.bind_eq_bind, Option.bind_some, hfold]
    simp [isDecimalU64, hdigits]

/-- What `u64`'s parser takes: a decimal number, or one behind a plus sign. -/
def isNumeral : List Char → Bool
  | '+' :: s => isDecimalU64 s
  | s => isDecimalU64 s

theorem isSome_parseU64 (s : List Char) : (parseU64 s).isSome = isNumeral s := by
  unfold parseU64
  split
  · next t =>
    rw [readDigits, isNumeral]
    cases isDecimalU64 t <;> rfl
  · next hplus =>
    rw [readDigits, isNumeral.eq_2 s hplus]
    cases isDecimalU64 s <;> rfl

theorem DecimalU64.not_mem {s : List Char} {n : UInt64} {c : Char} (h : DecimalU64 s n) (hc : c.isDigit = false) :
    c ∉ s := by
  have hdigits := h.isDecimal
  simp only [isDecimalU64, Bool.and_eq_true, List.all_eq_true] at hdigits
  intro hmem
  simpa [hc] using hdigits.1.2 c hmem

theorem DecimalU64.parseU64_eq {s : List Char} {n : UInt64} (h : DecimalU64 s n) : parseU64 s = .some n := by
  have hplus : ∀ t, s ≠ '+' :: t := fun t hs => h.not_mem (by decide : '+'.isDigit = false) (by simp [hs])
  unfold parseU64
  split
  · exact absurd rfl (hplus _)
  · rw [readDigits, if_pos h.isDecimal, h.value, UInt64.ofNat_toNat]

/-! ## The sizes -/

/-- A size has two parts. -/
theorem IsSize.splitOn {size : List Char} {width height : UInt64} (h : IsSize size width height) :
    ∃ w t, size.splitOn 'x' = [w, t] ∧ DecimalU64 w width ∧ DecimalU64 t height := by
  obtain ⟨w, t, rfl, hw, ht⟩ := h
  refine ⟨w, t, ?_, hw, ht⟩
  rw [List.splitOn_append_cons_self_of_not_mem (hw.not_mem (by decide)),
    List.splitOn_eq_singleton (ht.not_mem (by decide))]

/-- The numbers of a size are read from its parts. -/
theorem IsSize.dimensions {size : List Char} {width height : UInt64} (h : IsSize size width height) :
    (size.splitOn 'x').filterMap parseU64 = [width, height] := by
  obtain ⟨w, t, hparts, hw, ht⟩ := h.splitOn
  simp [hparts, hw.parseU64_eq, ht.parseU64_eq]

theorem not_isSize {size : List Char} (h : (size.splitOn 'x').map isDecimalU64 ≠ [true, true])
    (width height : UInt64) : ¬ IsSize size width height := by
  intro hsize
  obtain ⟨w, t, hparts, hw, ht⟩ := hsize.splitOn
  simp [hparts, hw.isDecimal, ht.isDecimal] at h

theorem toNat_mul_mul (n width height : UInt64) :
    (n * width * height).toNat = n.toNat * width.toNat * height.toNat % 2 ^ 64 := by
  simp [UInt64.toNat_mul]

theorem length_dimensions (size : List Char) :
    ((size.splitOn 'x').filterMap parseU64).length = (size.splitOn 'x').countP isNumeral := by
  rw [List.length_filterMap_eq_countP]
  simp only [isSome_parseU64]

/-- The estimate is right for sizes whose product fits, and for other texts without exactly two numbers between x's. -/
structure SizeReadable (n : UInt64) (size : List Char) : Prop where
  fits : ∀ width height, IsSize size width height → n.toNat * width.toNat * height.toNat < 2 ^ 64
  refused : (∀ width height, ¬ IsSize size width height) → (size.splitOn 'x').countP isNumeral ≠ 2

theorem sizeEstimated_iff (self : RequestModelImageGenerations) (tokenizer : Option Tokenizer) :
    SizeEstimated self.n self.size.toList (self.getComputeUnitsEstimate tokenizer) ↔
      SizeReadable self.n self.size.toList := by
  unfold RequestModelImageGenerations.getComputeUnitsEstimate
  generalize self.size.toList = size
  by_cases hsize : ∃ width height, IsSize size width height
  · obtain ⟨width, height, hsize⟩ := hsize
    have hno : ¬ ∀ width height, ¬ IsSize size width height := fun h => h width height hsize
    have hunique : ∀ width' height', IsSize size width' height' → width' = width ∧ height' = height := by
      intro width' height' h
      simpa [h.dimensions] using hsize.dimensions
    rw [hsize.dimensions]
    refine ⟨fun h => ⟨fun width' height' h' => ?_, fun h' => absurd h' hno⟩,
      fun h => ⟨fun width' height' h' hfits => ?_, fun width' height' h' hlarge => ?_, fun h' => absurd h' hno⟩⟩
    · by_contra hlarge
      simpa using h.tooLarge width' height' h' (by omega)
    · obtain ⟨rfl, rfl⟩ := hunique _ _ h'
      exact ⟨_, rfl, by rw [toNat_mul_mul, Nat.mod_eq_of_lt hfits]⟩
    · have := h.fits width' height' h'
      omega
  · simp only [not_exists] at hsize
    have hcount := length_dimensions size
    refine ⟨fun h => ⟨fun width height h' => absurd h' (hsize width height), fun _ htwo => ?_⟩,
      fun h => ⟨fun width height h' => absurd h' (hsize width height),
        fun width height h' => absurd h' (hsize width height), fun _ => ?_⟩⟩
    · rw [htwo, List.length_eq_two] at hcount
      obtain ⟨width, height, hdims⟩ := hcount
      simpa [hdims] using h.malformed hsize
    · split
      · next hdims =>
        rw [hdims] at hcount
        exact absurd hcount.symm (h.refused hsize)
      · exact ⟨_, rfl⟩

def imageRequest (n : UInt64) (size : String) : Value :=
  .object [("model", .string "flux"), ("n", .number (.posInt n)), ("size", .string size)]

end AtomaProxy
