/-
The output tokens that a completion request reserves, beside those that the
body sent on to the node lets it generate: for every prompt and every choice
of it, up to the limit of one choice.

The reservation is read from one member of the body, the first of the two
limits that is there at all, and counts neither prompts nor choices. So it
covers what the body allows where the member is a limit and there is one
choice in all, or where it is none and the default is enough.
-/
import AtomaProxy.Base.Binary64
import AtomaProxy.Server.Middleware
import Mathlib.Data.ENat.Basic

namespace AtomaProxy

open Base

/-! ## What a body allows -/

def Value.asNumber : Value → Option Number
  | .number n => .some n
  | _ => .none

/-- How many a number counts: the whole ones in it, and none if it is negative. -/
def Number.count : Number → Nat
  | .posInt n => n.toNat
  | .negInt n => n.toInt.toNat
  | .float bits => ⌊(⟨bits⟩ : Binary64).value⌋₊

/-- `n`, "How many chat completion choices to generate for each input message". -/
def choices (body : Value) : Nat := (((body.get "n").bind Value.asNumber).map Number.count).getD 1

/-- `max_completion_tokens` if it is a number, else `max_tokens` if it is one. -/
def perChoiceLimit (body : Value) : Option Nat :=
  (((body.get "max_completion_tokens").bind Value.asNumber).or
    ((body.get "max_tokens").bind Value.asNumber)).map Number.count

def CompletionsPrompt.count : CompletionsPrompt → Nat
  | .single _ => 1
  | .list prompts => prompts.length
  | .tokens _ => 1
  | .tokenArrays arrays => arrays.length

/-- The tokens the node may generate; `unlimited` is what it generates for a choice where the body names no limit. -/
def allowedOutput (prompts : Nat) (body : Value) (unlimited : ℕ∞) : ℕ∞ :=
  prompts * choices body * ((perChoiceLimit body).elim unlimited fun limit => limit)

/-- A chat request, once its body has got its default, is estimated at what the body allows or more. -/
def ChatOutputReserved (body : Value) (tokenizer : Option Tokenizer) (unlimited : ℕ∞) : Prop :=
  ∀ self estimate, RequestModelChatCompletions.new (withDefaultMaxTokens body) = .ok self →
    self.getComputeUnitsEstimate tokenizer = .ok estimate →
    allowedOutput 1 (withDefaultMaxTokens body) unlimited ≤ estimate.maxOutputTokens.toNat

/-- The same of a text completion, for all its prompts. -/
def CompletionsOutputReserved (body : Value) (tokenizer : Option Tokenizer) (unlimited : ℕ∞) : Prop :=
  ∀ self estimate, RequestModelCompletions.new (withDefaultMaxTokens body) = .ok self →
    self.getComputeUnitsEstimate tokenizer = .ok estimate →
    allowedOutput self.prompt.count (withDefaultMaxTokens body) unlimited ≤ estimate.maxOutputTokens.toNat

/-! ## What is reserved -/

/-- The member that the reservation is read from. -/
def limitMember (body : Value) : Option Value :=
  (body.get "max_completion_tokens").or (body.get "max_tokens")

/-- Where the reservation is enough: with a limit there, for one choice in all, and else as far as the default goes. -/
def ReservationCovers (prompts : Nat) (body : Value) (unlimited : ℕ∞) : Prop :=
  match (limitMember body).bind Value.asU64 with
  | .some limit => prompts * choices body ≤ 1 ∨ limit = 0
  | .none => allowedOutput prompts body unlimited ≤ defaultMaxTokens.toNat

theorem Value.asU64_eq_some {v : Value} {n : UInt64} : v.asU64 = .some n ↔ v = .number (.posInt n) := by
  refine ⟨fun h => ?_, fun h => by rw [h]; rfl⟩
  unfold Value.asU64 at h
  split at h
  · simpa using h
  · simp at h

/-- An unsigned limit that is read is the one that the body sets. -/
theorem perChoiceLimit_of_read {body : Value} {limit : UInt64}
    (h : (limitMember body).bind Value.asU64 = .some limit) : perChoiceLimit body = .some limit.toNat := by
  rw [limitMember, Option.bind_eq_some_iff] at h
  obtain ⟨v, hv, hlimit⟩ := h
  rw [Value.asU64_eq_some] at hlimit
  subst hlimit
  unfold perChoiceLimit
  cases hget : body.get "max_completion_tokens" with
  | none =>
    simp only [hget, Option.none_or] at hv
    simp [hv, Value.asNumber, Number.count]
  | some w =>
    simp only [hget, Option.some_or, Option.some.injEq] at hv
    simp [hv, Value.asNumber, Number.count]

/-- A limit covers so many choices of it where there is one choice, or nothing to generate. -/
theorem mul_limit_le_iff (generations limit : Nat) :
    generations * limit ≤ limit ↔ generations ≤ 1 ∨ limit = 0 := by
  by_cases h : limit = 0
  · simp [h]
  · rw [or_iff_left h]
    exact ⟨fun hle => Nat.le_of_mul_le_mul_right (by omega) (Nat.pos_of_ne_zero h),
      fun hle => mul_le_of_le_one_left (Nat.zero_le limit) hle⟩

theorem allowedOutput_le_iff (prompts : Nat) (body : Value) (unlimited : ℕ∞) :
    allowedOutput prompts body unlimited ≤ (readMaxTokens body).toNat ↔ ReservationCovers prompts body unlimited := by
  have hread : readMaxTokens body = ((limitMember body).bind Value.asU64).getD defaultMaxTokens := rfl
  rw [hread]
  unfold ReservationCovers
  cases h : (limitMember body).bind Value.asU64 with
  | none => rfl
  | some limit =>
    rw [allowedOutput, perChoiceLimit_of_read h]
    have hnat := mul_limit_le_iff (prompts * choices body) limit.toNat
    change (prompts * choices body * (limit.toNat : ℕ∞) ≤ limit.toNat) ↔ prompts * choices body ≤ 1 ∨ limit = 0
    have hzero : limit.toNat = 0 ↔ limit = 0 := by rw [← UInt64.toNat_inj, UInt64.toNat_zero]
    rw [hzero] at hnat
    exact_mod_cast hnat

theorem RequestModelChatCompletions.maxOutputTokens_eq {body : Value} {self : RequestModelChatCompletions}
    {tokenizer : Option Tokenizer} {estimate : ComputeUnitsEstimate} (hnew : new body = .ok self)
    (hestimate : self.getComputeUnitsEstimate tokenizer = .ok estimate) :
    estimate.maxOutputTokens = readMaxTokens body := by
  simp only [new, ok_bind_iff, Except.ok.injEq] at hnew
  obtain ⟨model, -, messages, -, rfl⟩ := hnew
  cases tokenizer with
  | none => simp [getComputeUnitsEstimate] at hestimate
  | some tokenizer =>
    simp only [getComputeUnitsEstimate, ok_bind_iff, Except.ok.injEq] at hestimate
    obtain ⟨total, -, rfl⟩ := hestimate
    rfl

theorem RequestModelCompletions.maxOutputTokens_eq {body : Value} {self : RequestModelCompletions}
    {tokenizer : Option Tokenizer} {estimate : ComputeUnitsEstimate} (hnew : new body = .ok self)
    (hestimate : self.getComputeUnitsEstimate tokenizer = .ok estimate) :
    estimate.maxOutputTokens = readMaxTokens body := by
  simp only [new, ok_bind_iff, Except.ok.injEq] at hnew
  obtain ⟨model, -, member, -, prompt, -, rfl⟩ := hnew
  simp only [getComputeUnitsEstimate, ok_bind_iff, Except.ok.injEq] at hestimate
  obtain ⟨tokens, -, rfl⟩ := hestimate
  rfl

/-- A chat request for five choices of 100 tokens. -/
def fiveChoices : Value := .object
  [("model", .string "m"), ("messages", .array [.object [("role", .string "user"), ("content", .string "Hi")]]),
    ("n", .number (.posInt 5)), ("max_completion_tokens", .number (.posInt 100))]

/-- A chat request whose limit is behind a null of the other name. -/
def nullBeforeLimit : Value := .object
  [("model", .string "m"), ("messages", .array [.object [("role", .string "user"), ("content", .string "Hi")]]),
    ("max_completion_tokens", .null), ("max_tokens", .number (.posInt 100000))]

/-- A text completion of two prompts. -/
def twoPrompts : Value := .object
  [("model", .string "m"), ("prompt", .array [.string "a", .string "b"]), ("max_tokens", .number (.posInt 100))]

end AtomaProxy
