/-
`authenticate_and_lock_compute_units`: what a fiat request locks, and when
that is what its settlement will release.

The lock computes `tokens as i64 * price / ONE_MILLION` in `i64`; the
settlement computes the same formula in `u128` and converts back with a check.
For a price that is not negative the two agree with each other, and with the
floor of the exact quotient, exactly where the exact product is below 2^63.
From there on the `i64` product has wrapped: the amount locked is never the
floor any more, and half of the time it is negative.
-/
import AtomaProxy.Server.RequestModel
import AtomaProxy.Server.Settlement

namespace AtomaProxy

open Base

structure CheapestNode where
  taskSmallId : Int64
  pricePerOneMillionComputeUnits : Int64
  maxNumComputeUnits : Int64
  nodeSmallId : Int64
  deriving DecidableEq, Repr

/-- A user's own prices for a model. -/
structure Pricing where
  pricePerOneMillionInputComputeUnits : Int64
  pricePerOneMillionOutputComputeUnits : Int64
  deriving DecidableEq, Repr

/-- What the calls made before the lock answer, and the models the proxy serves with their tokenizers. -/
structure AuthAnswers where
  checkAuth : Except AtomaProxyError Int64
  tokenizers : List (String × Tokenizer)
  getCheapestNode : String → Except AtomaProxyError CheapestNode
  getCustomPricing : Int64 → String → Except AtomaProxyError (Option Pricing)

/-- `StackMetadata` of a fiat request: it has no stack. -/
structure StackMetadata where
  numInputTokens : UInt64
  maxOutputTokens : UInt64
  model : String
  userId : Int64
  selectedNodeId : Int64
  pricePerOneMillionInputComputeUnits : Int64
  pricePerOneMillionOutputComputeUnits : Int64
  deriving DecidableEq, Repr

/-- The tokenizer of the model, which image requests do without. -/
def requestTokenizer (a : AuthAnswers) (request : RequestModel) (endpoint : String) :
    Except AtomaProxyError (Option Tokenizer) :=
  if [imageGenerationsPath, confidentialImageGenerationsPath].contains endpoint then .ok .none
  else (missing (a.tokenizers.lookup request.getModel) "Model not supported" chatCompletionsPath).map .some

/-- Everything up to the lock. -/
def quote (a : AuthAnswers) (request : RequestModel) (endpoint : String) :
    Except AtomaProxyError StackMetadata := do
  let userId ← a.checkAuth
  let model := request.getModel
  let estimate ← request.getComputeUnitsEstimate (← requestTokenizer a request endpoint)
  let node ← a.getCheapestNode model
  let customPricing ← a.getCustomPricing userId model
  let pricing := customPricing.getD
    ⟨node.pricePerOneMillionComputeUnits, node.pricePerOneMillionComputeUnits⟩
  .ok {
    numInputTokens := estimate.numInputTokens
    maxOutputTokens := estimate.maxOutputTokens
    model
    userId
    selectedNodeId := node.nodeSmallId
    pricePerOneMillionInputComputeUnits := pricing.pricePerOneMillionInputComputeUnits
    pricePerOneMillionOutputComputeUnits := pricing.pricePerOneMillionOutputComputeUnits }

/-- `tokens as i64 * price / ONE_MILLION as i64`, the product wrapping. -/
def fiatLockedAmount (tokens : UInt64) (price : Int64) : Int64 := tokens.toInt64 * price / 1000000

/-- What a lock is answered with. -/
def lockReply (s : FiatTables) (userId inputAmount outputAmount : Int64) (endpoint : String) :
    Except AtomaProxyError Bool :=
  stateManagerReply "LockUserFiatBalance" endpoint (handleLockUserFiatBalance s userId inputAmount outputAmount).2

/-- `authenticate_and_lock_compute_units`; `reply` is what the lock is answered with. -/
def authenticateAndLockComputeUnits (a : AuthAnswers) (request : RequestModel) (endpoint : String)
    (reply : Int64 → Int64 → Int64 → String → Except AtomaProxyError Bool) : Handler StackMetadata := do
  let m ← .ofExcept (quote a request endpoint)
  let inputAmount := fiatLockedAmount m.numInputTokens m.pricePerOneMillionInputComputeUnits
  let outputAmount := fiatLockedAmount m.maxOutputTokens m.pricePerOneMillionOutputComputeUnits
  .send (.lockUserFiatBalance m.userId inputAmount outputAmount)
  let lockedFiat ← .ofExcept (reply m.userId inputAmount outputAmount endpoint)
  if lockedFiat then pure m
  else .fail (.fiatPaymentsOnly "Fiat payments only, no stacks available" endpoint)

/-- `handle_authenticate_and_lock_compute_units`: the request model of the endpoint, from the body. -/
def requestModelOf (endpoint : String) (body : Value) : Except AtomaProxyError RequestModel :=
  let wrap {α} (what : String) (x : Except AtomaProxyError α) : Except AtomaProxyError α :=
    x.mapError fun e => .requestError
      ("Failed to parse body as " ++ what ++ " request model: " ++ e.display) endpoint
  if endpoint = completionsPath then
    (wrap "completions" (RequestModelCompletions.new body)).map (·.toRequestModel)
  else if endpoint = chatCompletionsPath then
    (wrap "chat completions" (RequestModelChatCompletions.new body)).map (·.toRequestModel)
  else if endpoint = embeddingsPath then
    (wrap "embeddings" (RequestModelEmbeddings.new body)).map (·.toRequestModel)
  else if endpoint = imageGenerationsPath then
    (wrap "image generations" (RequestModelImageGenerations.new body)).map (·.toRequestModel)
  else
    .error (.internalError
      ("Invalid endpoint for current middleware, this should never happen: " ++ endpoint) .none endpoint)

def handleAuthenticateAndLockComputeUnits (a : AuthAnswers) (body : Value) (endpoint : String)
    (reply : Int64 → Int64 → Int64 → String → Except AtomaProxyError Bool) : Handler StackMetadata := do
  let request ← .ofExcept (requestModelOf endpoint body)
  authenticateAndLockComputeUnits a request endpoint reply

/-! ## The two computations -/

theorem fiatLockedAmount_toInt (tokens : UInt64) (price : Int64) : (fiatLockedAmount tokens price).toInt =
    (Int.bmod (tokens.toNat * price.toInt) (2 ^ 64)).tdiv 1000000 := by
  have hm : (1000000 : Int64).toInt = 1000000 := rfl
  rw [fiatLockedAmount, Int64.toInt_div_of_ne_right _ _ (by decide), Int64.toInt_mul, toInt_toInt64_bmod,
    Int.bmod_mul_bmod, hm]

theorem tdiv_million_bounds {w : Int} (h : InI64 w) : -9223372036854 ≤ w.tdiv 1000000 ∧
    w.tdiv 1000000 ≤ 9223372036854 ∧ (0 ≤ w → w.tdiv 1000000 = w / 1000000) ∧ (w < 0 → w.tdiv 1000000 ≤ 0) := by
  unfold InI64 at h
  rcases le_or_gt 0 w with h0 | h0
  · rw [Int.tdiv_eq_ediv_of_nonneg h0]
    omega
  · have hneg : w.tdiv 1000000 = -((-w) / 1000000) := by
      rw [← Int.tdiv_eq_ediv_of_nonneg (by omega), Int.neg_tdiv, neg_neg]
    rw [hneg]
    omega

theorem inI64_bmod (z : Int) : InI64 (Int.bmod z (2 ^ 64)) := by
  have h1 := @Int.le_bmod z (2 ^ 64) (by decide)
  have h2 := @Int.bmod_lt z (2 ^ 64) (by decide)
  unfold InI64
  omega

theorem bmod_sub_self (z : Int) : (Int.bmod z (2 ^ 64) - z) % 2 ^ 64 = 0 := by
  rw [Int.bmod_def]
  omega

/-- Below 2^63 the wrapping product is exact, and the amount locked is the floor of the quotient. -/
theorem fiatLockedAmount_of_lt {tokens : UInt64} {price : Int64} (hp : 0 ≤ price.toInt)
    (h : tokens.toNat * price.toInt < 2 ^ 63) :
    (fiatLockedAmount tokens price).toInt = tokens.toNat * price.toInt / 1000000 := by
  have h0 : 0 ≤ tokens.toNat * price.toInt := Int.mul_nonneg (by omega) hp
  have hb : Int.bmod (tokens.toNat * price.toInt) (2 ^ 64) = tokens.toNat * price.toInt :=
    Int.bmod_eq_of_le (by omega) (by omega)
  rw [fiatLockedAmount_toInt, hb, Int.tdiv_eq_ediv_of_nonneg h0]

/-- From 2^63 on the amount locked is not the floor. -/
theorem lt_of_fiatLockedAmount_eq {tokens : UInt64} {price : Int64} (hp : 0 ≤ price.toInt)
    (h : (fiatLockedAmount tokens price).toInt = tokens.toNat * price.toInt / 1000000) :
    tokens.toNat * price.toInt < 2 ^ 63 := by
  have h0 : 0 ≤ tokens.toNat * price.toInt := Int.mul_nonneg (by omega) hp
  have hw := inI64_bmod (tokens.toNat * price.toInt)
  rw [fiatLockedAmount_toInt] at h
  obtain ⟨h1, h2, h3, h4⟩ := tdiv_million_bounds hw
  have hdvd := bmod_sub_self (tokens.toNat * price.toInt)
  unfold InI64 at hw
  generalize Int.bmod (tokens.toNat * price.toInt) (2 ^ 64) = w at *
  generalize tokens.toNat * price.toInt = p at *
  omega

/-- What the settlement computes from the tokens it was passed, for an exact product below 2^63. -/
theorem fiatAmount_of_lt {tokens : UInt64} {price : Int64} (hp : 0 ≤ price.toInt)
    (h : tokens.toNat * price.toInt < 2 ^ 63) :
    fiatAmount tokens.toInt64 price = .some (fiatLockedAmount tokens price) := by
  have h0 : 0 ≤ tokens.toNat * price.toInt := Int.mul_nonneg (by omega) hp
  rw [fiatAmount, i64OfInt?_eq_some, fiatLockedAmount_of_lt hp h]
  rcases Int.le_iff_eq_or_lt.1 hp with hz | hpos
  · -- a price of zero, where the tokens may be any
    simp only [fiatProduct, u128OfI64_nonneg hp, ← hz, Int.toNat_zero, Nat.mul_zero, Nat.zero_mod, Nat.zero_div,
      Int.mul_zero, Int.zero_ediv, Nat.cast_zero]
  · have ht : tokens.toNat < 2 ^ 63 := by
      have : (tokens.toNat : Int) ≤ tokens.toNat * price.toInt := le_mul_of_one_le_right (by omega) hpos
      omega
    rw [fiatProduct_nonneg (toInt_toInt64_nonneg.2 ht) hp, toInt_toInt64 ht]

/-! ## Lock and settlement -/

def StackMetadata.lockedInput (m : StackMetadata) : Int64 :=
  fiatLockedAmount m.numInputTokens m.pricePerOneMillionInputComputeUnits

def StackMetadata.lockedOutput (m : StackMetadata) : Int64 :=
  fiatLockedAmount m.maxOutputTokens m.pricePerOneMillionOutputComputeUnits

/-- The exact input and output amounts, over the integers. -/
def StackMetadata.exactInput (m : StackMetadata) : Int :=
  m.numInputTokens.toNat * m.pricePerOneMillionInputComputeUnits.toInt / 1000000

def StackMetadata.exactOutput (m : StackMetadata) : Int :=
  m.maxOutputTokens.toNat * m.pricePerOneMillionOutputComputeUnits.toInt / 1000000

/-- The settlement of the request, for the tokens it is found to have used. -/
def StackMetadata.settlement (m : StackMetadata) (inputTokens outputTokens : Int64) (endpoint : String) :
    Handler Unit :=
  updateStateManagerFiat m.userId m.numInputTokens.toInt64 inputTokens m.maxOutputTokens.toInt64 outputTokens
    m.pricePerOneMillionInputComputeUnits m.pricePerOneMillionOutputComputeUnits m.model endpoint

/-- Where the request is admitted, what it locked is not negative, is the floor of the exact amounts, and is
what its settlement releases, whatever the request is found to have used. -/
def LocksWhatItSettles (a : AuthAnswers) (request : RequestModel) (endpoint : String) (s : FiatTables) : Prop :=
  ∀ m, (authenticateAndLockComputeUnits a request endpoint (lockReply s)).ending = .ok m →
    ∃ input output : Int64,
      (authenticateAndLockComputeUnits a request endpoint (lockReply s)).sent =
        [.lockUserFiatBalance m.userId input output] ∧
      0 ≤ input.toInt ∧ 0 ≤ output.toInt ∧ input.toInt = m.exactInput ∧ output.toInt = m.exactOutput ∧
      (m.settlement 0 0 endpoint).sent =
        [.updateStackNumTokensFiat ⟨m.userId, m.model, input, 0, 0, output, 0, 0⟩] ∧
      ∀ inputTokens outputTokens e,
        .updateStackNumTokensFiat e ∈ (m.settlement inputTokens outputTokens endpoint).sent →
          e.estimatedInputAmount = input ∧ e.estimatedOutputAmount = output

theorem authenticateAndLock_eq {a request endpoint m} (h : quote a request endpoint = .ok m) (reply) :
    authenticateAndLockComputeUnits a request endpoint reply =
      ⟨[.lockUserFiatBalance m.userId m.lockedInput m.lockedOutput],
        match reply m.userId m.lockedInput m.lockedOutput endpoint with
        | .ok true => .ok m
        | .ok false => .err (.fiatPaymentsOnly "Fiat payments only, no stacks available" endpoint)
        | .error e => .err e⟩ := by
  simp only [authenticateAndLockComputeUnits, h, Eff.ofExcept_ok_bind, Eff.send_bind, StackMetadata.lockedInput,
    StackMetadata.lockedOutput]
  rcases reply m.userId _ _ endpoint with e | granted
  · rfl
  · cases granted <;> rfl

/-- A request is admitted where the user's row grants the lock. -/
theorem authenticateAndLock_ok {a request endpoint m s m'} (h : quote a request endpoint = .ok m) :
    (authenticateAndLockComputeUnits a request endpoint (lockReply s)).ending = .ok m' ↔
      m' = m ∧ (handleLockUserFiatBalance s m.userId m.lockedInput m.lockedOutput).2 = .ok true := by
  rw [authenticateAndLock_eq h]
  unfold lockReply
  rcases (handleLockUserFiatBalance s m.userId m.lockedInput m.lockedOutput).2 with e | granted
  · cases e <;> simp [stateManagerReply, Except.mapError]
  · cases granted <;> simp [stateManagerReply, Except.mapError, eq_comm]

theorem fiatAmount_zero {price : Int64} (hp : 0 ≤ price.toInt) : fiatAmount 0 price = .some 0 := by
  have h0 : (0 : Int64).toInt = 0 := rfl
  rw [fiatAmount, i64OfInt?_eq_some, fiatProduct_nonneg (by rw [h0]) hp, h0]
  simp

/-- A user whose balance has room for any amount a lock can compute. -/
def roomyBalance (userId : Int64) : FiatTables where
  fiatBalances := fun u => if u = userId then .some (.ofBalance 4611686018427387904) else .none
  usagePerDay := fun _ => .none
  usagePerModel := fun _ => .none

theorem roomyBalance_grants {u i o : Int64} (hi : -9223372036854 ≤ i.toInt ∧ i.toInt ≤ 9223372036854)
    (ho : -9223372036854 ≤ o.toInt ∧ o.toInt ≤ 9223372036854) :
    (handleLockUserFiatBalance (roomyBalance u) u i o).2 = .ok true := by
  have hin : InI64 (i.toInt + o.toInt) := by
    unfold InI64
    omega
  have hle : Int64.ofInt (i.toInt + o.toInt) ≤ 4611686018427387904 := by
    have hbal : (4611686018427387904 : Int64).toInt = 4611686018427387904 := rfl
    rw [Int64.le_iff_toInt_le, toInt_ofInt hin, hbal]
    omega
  refine handleLockUserFiatBalance_granted.2 ⟨.ofBalance 4611686018427387904, { FiatBalance.ofBalance
    4611686018427387904 with overchargedUnsettledInputAmount := i, overchargedUnsettledCompletionsAmount := o },
    if_pos rfl, ?_⟩
  simp only [FiatBalance.lock, FiatBalance.lockTerms, FiatBalance.ofBalance, bigintSum, bigintAdd_zero,
    bigintAdd_eq_ok.2 (toInt_ofInt hin), bind, Except.bind, hle, if_true]

theorem fiatLockedAmount_bounds (tokens : UInt64) (price : Int64) :
    -9223372036854 ≤ (fiatLockedAmount tokens price).toInt ∧ (fiatLockedAmount tokens price).toInt ≤ 9223372036854 := by
  rw [fiatLockedAmount_toInt]
  have hb := tdiv_million_bounds (inI64_bmod (tokens.toNat * price.toInt))
  exact ⟨hb.1, hb.2.1⟩

/-- A settlement that is sent releases what was locked, and one of a failed request is sent. -/
theorem settlement_releases {m : StackMetadata} {endpoint : String}
    (hpi : 0 ≤ m.pricePerOneMillionInputComputeUnits.toInt) (hpo : 0 ≤ m.pricePerOneMillionOutputComputeUnits.toInt)
    (hi : m.numInputTokens.toNat * m.pricePerOneMillionInputComputeUnits.toInt < 2 ^ 63)
    (ho : m.maxOutputTokens.toNat * m.pricePerOneMillionOutputComputeUnits.toInt < 2 ^ 63) :
    (m.settlement 0 0 endpoint).sent =
        [.updateStackNumTokensFiat ⟨m.userId, m.model, m.lockedInput, 0, 0, m.lockedOutput, 0, 0⟩] ∧
      ∀ inputTokens outputTokens e,
        .updateStackNumTokensFiat e ∈ (m.settlement inputTokens outputTokens endpoint).sent →
          e.estimatedInputAmount = m.lockedInput ∧ e.estimatedOutputAmount = m.lockedOutput := by
  have hei := fiatAmount_of_lt hpi hi
  have heo := fiatAmount_of_lt hpo ho
  refine ⟨?_, fun inputTokens outputTokens e he => ?_⟩
  · rw [StackMetadata.settlement, updateStateManagerFiat_of_some hei heo (fiatAmount_zero hpi) (fiatAmount_zero hpo)]
    rfl
  · unfold StackMetadata.settlement at he
    cases hai : fiatAmount inputTokens m.pricePerOneMillionInputComputeUnits with
    | none =>
      obtain ⟨err, heq⟩ := updateStateManagerFiat_of_none (.inr (.inr (.inl hai)))
      rw [heq] at he
      cases he
    | some ai =>
      cases hao : fiatAmount outputTokens m.pricePerOneMillionOutputComputeUnits with
      | none =>
        obtain ⟨err, heq⟩ := updateStateManagerFiat_of_none (.inr (.inr (.inr hao)))
        rw [heq] at he
        cases he
      | some ao =>
        rw [updateStateManagerFiat_of_some hei heo hai hao, List.mem_singleton,
          StateManagerEvent.updateStackNumTokensFiat.injEq] at he
        rw [he]
        exact ⟨rfl, rfl⟩

/-- **Main result.** At prices that are not negative, a request locks what it settles, whatever the balances,
exactly when both exact products are below 2^63. -/
theorem locks_what_it_settles_iff {a request endpoint m} (hq : quote a request endpoint = .ok m)
    (hpi : 0 ≤ m.pricePerOneMillionInputComputeUnits.toInt)
    (hpo : 0 ≤ m.pricePerOneMillionOutputComputeUnits.toInt) :
    (∀ s, LocksWhatItSettles a request endpoint s) ↔
      m.numInputTokens.toNat * m.pricePerOneMillionInputComputeUnits.toInt < 2 ^ 63 ∧
        m.maxOutputTokens.toNat * m.pricePerOneMillionOutputComputeUnits.toInt < 2 ^ 63 := by
  constructor
  · intro h
    have hok := (authenticateAndLock_ok hq).2 ⟨rfl, roomyBalance_grants
      (fiatLockedAmount_bounds m.numInputTokens m.pricePerOneMillionInputComputeUnits)
      (fiatLockedAmount_bounds m.maxOutputTokens m.pricePerOneMillionOutputComputeUnits)⟩
    obtain ⟨input, output, hsent, _, _, hin, hout, _⟩ := h (roomyBalance m.userId) m hok
    rw [authenticateAndLock_eq hq] at hsent
    simp only [List.cons.injEq, StateManagerEvent.lockUserFiatBalance.injEq, true_and, and_true] at hsent
    obtain ⟨rfl, rfl⟩ := hsent
    exact ⟨lt_of_fiatLockedAmount_eq hpi hin, lt_of_fiatLockedAmount_eq hpo hout⟩
  · rintro ⟨hi, ho⟩ s m' hok
    obtain ⟨rfl, _⟩ := (authenticateAndLock_ok hq).1 hok
    have hin : m'.lockedInput.toInt = m'.exactInput := fiatLockedAmount_of_lt hpi hi
    have hout : m'.lockedOutput.toInt = m'.exactOutput := fiatLockedAmount_of_lt hpo ho
    obtain ⟨hzero, hall⟩ := @settlement_releases m' endpoint hpi hpo hi ho
    refine ⟨m'.lockedInput, m'.lockedOutput, by rw [authenticateAndLock_eq hq], ?_, ?_, hin, hout, hzero, hall⟩
    · rw [hin]
      exact Int.ediv_nonneg (Int.mul_nonneg (by omega) hpi) (by decide)
    · rw [hout]
      exact Int.ediv_nonneg (Int.mul_nonneg (by omega) hpo) (by decide)

/-- A proxy with one model, whose tokenizer finds two tokens in any text, at one price. -/
def answersExample (price : Int64) : AuthAnswers where
  checkAuth := .ok 1
  tokenizers := [("model", fun _ => .ok 2)]
  getCheapestNode := fun _ => .ok ⟨5, price, 1000000, 7⟩
  getCustomPricing := fun _ _ => .ok .none

/-- A chat with one message that asks for at most `n` tokens. -/
def bodyExample (n : UInt64) : Value := .object [("model", .string "model"),
  ("messages", .array [.object [("role", .string "user"), ("content", .string "hi")]]),
  ("max_completion_tokens", .number (.posInt n))]

def requestExample (n : UInt64) : RequestModel := RequestModelChatCompletions.toRequestModel
  ⟨"model", [.object [("role", .string "user"), ("content", .string "hi")]], n⟩

def metadataExample (n : UInt64) (price : Int64) : StackMetadata := ⟨5, n, "model", 1, 7, price, price⟩

theorem requestModelOf_example (n : UInt64) :
    requestModelOf chatCompletionsPath (bodyExample n) = .ok (requestExample n) := rfl

theorem quote_example (n : UInt64) (price : Int64) :
    quote (answersExample price) (requestExample n) chatCompletionsPath = .ok (metadataExample n price) := rfl

theorem locks_what_it_settles_example :
    LocksWhatItSettles (answersExample 100) (requestExample 8192) chatCompletionsPath (roomyBalance 1) :=
  (locks_what_it_settles_iff (quote_example 8192 100) (by decide) (by decide)).2 (by decide) (roomyBalance 1)

/-- A body that asks for 2^63 tokens at a price of one locks a negative output amount. -/
theorem locks_what_it_settles_fails : ¬ ∀ (a : AuthAnswers) (body : Value) (endpoint : String)
    (request : RequestModel) (m : StackMetadata) (s : FiatTables),
    requestModelOf endpoint body = .ok request → quote a request endpoint = .ok m →
    0 ≤ m.pricePerOneMillionInputComputeUnits.toInt → 0 ≤ m.pricePerOneMillionOutputComputeUnits.toInt →
    LocksWhatItSettles a request endpoint s := by
  intro h
  have hq := quote_example 9223372036854775808 1
  have hok := (authenticateAndLock_ok hq).2 ⟨rfl, roomyBalance_grants
    (fiatLockedAmount_bounds _ _) (fiatLockedAmount_bounds _ _)⟩
  obtain ⟨input, output, hsent, _, hnonneg, _⟩ := h _ _ _ _ _ (roomyBalance 1)
    (requestModelOf_example 9223372036854775808) hq (by decide) (by decide) _ hok
  rw [authenticateAndLock_eq hq] at hsent
  simp only [List.cons.injEq, StateManagerEvent.lockUserFiatBalance.injEq, true_and, and_true] at hsent
  have hneg : (metadataExample 9223372036854775808 1).lockedOutput.toInt = -9223372036854 := by decide
  rw [← hsent.2, hneg] at hnonneg
  omega

end AtomaProxy
