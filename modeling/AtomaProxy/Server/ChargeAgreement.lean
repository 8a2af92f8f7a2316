/-
Whether one response is charged alike in the two ways a node can give it: as
JSON, settled from its `usage`, or as a stream, settled from the usage that one
of its events carried.

A stream settles its usage only where `[DONE]` ends it and the parser's `i64`
holds all three counts; else its drop settles the estimated input and the
number of its events. A completion as JSON charges a fiat balance nothing for
input and all tokens for output.
-/
import AtomaProxy.Server.FiatRequest
import AtomaProxy.Server.SseItems

namespace AtomaProxy

open Base

/-! ## One response, given in two ways -/

/-- The handlers of chats and completions. -/
inductive TextHandler where
  | chatCompletions
  | confidentialChatCompletions
  | completions
  | confidentialCompletions
  deriving DecidableEq, Repr

def TextHandler.create : TextHandler →
    HandlerCalls → RequestMetadataExtension → Value → NodeAnswer → Handler Response
  | .chatCompletions => chatCompletionsCreate
  | .confidentialChatCompletions => confidentialChatCompletionsCreate
  | .completions => completionsCreate
  | .confidentialCompletions => confidentialCompletionsCreate

/-- The endpoint that does not have its hashes verified. -/
def TextHandler.confidentialPath : TextHandler → String
  | .chatCompletions | .confidentialChatCompletions => confidentialChatCompletionsPath
  | .completions | .confidentialCompletions => confidentialCompletionsPath

/-- The counts of a `usage` object. -/
structure Usage where
  promptTokens : UInt64
  completionTokens : UInt64
  totalTokens : UInt64
  deriving DecidableEq, Repr

/-- `v` is an object with these counts. -/
structure Usage.Of (u : Usage) (v : Value) : Prop where
  prompt : v.get "prompt_tokens" = .some (.number (.posInt u.promptTokens))
  completion : v.get "completion_tokens" = .some (.number (.posInt u.completionTokens))
  total : v.get "total_tokens" = .some (.number (.posInt u.totalTokens))

/-- Every count fits an `i64`. -/
def Usage.Small (u : Usage) : Prop :=
  u.promptTokens.toNat < 2 ^ 63 ∧ u.completionTokens.toNat < 2 ^ 63 ∧ u.totalTokens.toNat < 2 ^ 63

instance (u : Usage) : Decidable u.Small := inferInstanceAs (Decidable (_ ∧ _))

/-- The usage an event carries. -/
def chunkUsage (chunk : Value) : Option Value :=
  (chunk.get "usage").bind fun u => if u.isNull then .none else .some u

/-- What an item does to an open stream, its chunk being verified. -/
def Streamer.after (s : Streamer) : SseItem → Streamer
  | .event _ chunk =>
    { s with
      status := .started
      usage := (chunkUsage chunk).or s.usage
      numGeneratedTokens := s.numGeneratedTokens + 1 }
  | _ => { s with status := .started }

/-- The last usage that the events carried. -/
def lastUsage (items : List SseItem) : Option Value :=
  items.foldl (fun acc i =>
    match i with
    | .event _ chunk => (chunkUsage chunk).or acc
    | _ => acc) .none

def SseItem.isEvent : SseItem → Bool
  | .event .. => true
  | _ => false

def numEvents (items : List SseItem) : Nat := items.countP SseItem.isEvent

/-- How a stream ends after its events: with `[DONE]`, without it, with an error, or dropped. -/
inductive StreamEnd where
  | done
  | finished
  | failed (text : String)
  | dropped
  deriving DecidableEq, Repr

def StreamEnd.upstream : StreamEnd → List Upstream
  | .done => [.chunk SseItem.done.bytes]
  | .finished => [.finished]
  | .failed text => [.error text]
  | .dropped => []

/-- The stream of the items, each in one chunk, and its end. -/
def streamOf (items : List SseItem) (ending : StreamEnd) : List Upstream :=
  items.map (fun i => .chunk i.bytes) ++ ending.upstream

/-- A response with one usage, as JSON and as the items of a stream, both verified. -/
structure SameResponse (calls : HandlerCalls) (handler : TextHandler) (endpoint : String) (u : Usage)
    (response : Value) (items : List SseItem) : Prop where
  verified : verifyResponseHashAndSignature calls.crypto response (endpoint ≠ handler.confidentialPath) = .ok ()
  reported : ∃ v, response.get "usage" = .some v ∧ u.Of v
  notDone : .done ∉ items
  text : ∀ {text chunk}, .event text chunk ∈ items → calls.streamer.JsonText text chunk
  eventsVerified : ∀ {text chunk}, .event text chunk ∈ items →
    verifyResponseHashAndSignature calls.crypto chunk (endpoint ≠ confidentialChatCompletionsPath) = .ok ()
  carried : ∃ v, lastUsage items = .some v ∧ u.Of v

/-! ## What is settled -/

def isSettlement : StateManagerEvent → Bool
  | .updateStackNumTokens .. | .updateStackNumTokensFiat _ => true
  | _ => false

def settlements (sent : List StateManagerEvent) : List StateManagerEvent := sent.filter isSettlement

/-- The settlement charges the reported input at the input rate and the reported output at the output rate. -/
structure FiatSettlement.AtRates (f : FiatSettlement) (metadata : RequestMetadataExtension) (u : Usage) : Prop where
  inputTokens : f.inputTokens.toInt = u.promptTokens.toNat
  outputTokens : f.outputTokens.toInt = u.completionTokens.toNat
  inputAmount : f.inputAmount.toInt =
    u.promptTokens.toNat * metadata.pricePerOneMillionInputComputeUnits.toInt / 1000000
  outputAmount : f.outputAmount.toInt =
    u.completionTokens.toNat * metadata.pricePerOneMillionOutputComputeUnits.toInt / 1000000

/-- The two runs settle the same, and charge a fiat balance at its rates. -/
structure ChargesAgree (metadata : RequestMetadataExtension) (u : Usage) (plain streamed : List StateManagerEvent) :
    Prop where
  same : settlements plain = settlements streamed
  rates : ∀ f, .updateStackNumTokensFiat f ∈ plain → f.AtRates metadata u

/-- Both estimates convert to amounts. -/
def RequestMetadataExtension.EstimatesFit (metadata : RequestMetadataExtension) : Prop :=
  AmountFits metadata.inputTokens metadata.pricePerOneMillionInputComputeUnits ∧
    AmountFits metadata.outputTokens metadata.pricePerOneMillionOutputComputeUnits

/-- Both counts do. -/
def RequestMetadataExtension.TokensFit (metadata : RequestMetadataExtension) (inputTokens outputTokens : Int64) : Prop :=
  AmountFits inputTokens metadata.pricePerOneMillionInputComputeUnits ∧
    AmountFits outputTokens metadata.pricePerOneMillionOutputComputeUnits

instance (metadata : RequestMetadataExtension) : Decidable metadata.EstimatesFit :=
  inferInstanceAs (Decidable (_ ∧ _))

instance (metadata : RequestMetadataExtension) (i o : Int64) : Decidable (metadata.TokensFit i o) :=
  inferInstanceAs (Decidable (_ ∧ _))

/-- The tokens that the endpoint charges a fiat balance for. -/
def TextHandler.fiatTokens (handler : TextHandler) (u : Usage) : Int64 × Int64 :=
  match handler with
  | .chatCompletions | .confidentialChatCompletions => (u.promptTokens.toInt64, u.completionTokens.toInt64)
  | .completions | .confidentialCompletions => (0, u.totalTokens.toInt64)

/-- The tokens that JSON is charged for: the error of an amount that does not convert releases the estimates. -/
def chargedTokens (handler : TextHandler) (metadata : RequestMetadataExtension) (u : Usage) : Int64 × Int64 :=
  let tokens := handler.fiatTokens u
  if metadata.TokensFit tokens.1 tokens.2 then tokens else (0, 0)

/-- When the two agree. -/
def AgreeWhen (handler : TextHandler) (metadata : RequestMetadataExtension) (u : Usage) (numEvents : Nat)
    (ending : StreamEnd) : Prop :=
  match metadata.selectedStackSmallId with
  | .some _ => ending = .done ∧ u.Small ∨ u.totalTokens.toInt64 = metadata.inputTokens + Int64.ofNat numEvents
  | .none =>
    ¬ metadata.EstimatesFit ∨
      chargedTokens handler metadata u = (u.promptTokens.toInt64, u.completionTokens.toInt64) ∧
        u.promptTokens.toNat < 2 ^ 63 ∧ u.completionTokens.toNat < 2 ^ 63 ∧
        (ending = .done ∧ u.Small ∨
          metadata.inputTokens = u.promptTokens.toInt64 ∧ Int64.ofNat numEvents = u.completionTokens.toInt64)

instance (handler : TextHandler) (metadata : RequestMetadataExtension) (u : Usage) (n : Nat) (ending : StreamEnd) :
    Decidable (AgreeWhen handler metadata u n ending) := by
  unfold AgreeWhen
  split <;> infer_instance

/-! ## The settlement of a fiat balance -/

section Fiat

variable {metadata : RequestMetadataExtension}

/-- The settlement of `i` and `o` tokens, where the amounts convert. -/
def RequestMetadataExtension.fiatSettlement (metadata : RequestMetadataExtension) (i o : Int64) : FiatSettlement where
  userId := metadata.userId
  modelName := metadata.modelName
  estimatedInputAmount := (fiatAmount metadata.inputTokens metadata.pricePerOneMillionInputComputeUnits).getD 0
  inputAmount := (fiatAmount i metadata.pricePerOneMillionInputComputeUnits).getD 0
  inputTokens := i
  estimatedOutputAmount := (fiatAmount metadata.outputTokens metadata.pricePerOneMillionOutputComputeUnits).getD 0
  outputAmount := (fiatAmount o metadata.pricePerOneMillionOutputComputeUnits).getD 0
  outputTokens := o

theorem settle_of_fits (hfiat : metadata.selectedStackSmallId = .none) (he : metadata.EstimatesFit) {i o : Int64}
    (ht : metadata.TokensFit i o) (et t : Int64) :
    metadata.settle et t metadata.inputTokens i metadata.outputTokens o =
      ⟨[.updateStackNumTokensFiat (metadata.fiatSettlement i o)], .ok ()⟩ := by
  obtain ⟨aei, hei⟩ := amountFits_iff.1 he.1
  obtain ⟨aeo, heo⟩ := amountFits_iff.1 he.2
  obtain ⟨ai, hi⟩ := amountFits_iff.1 ht.1
  obtain ⟨ao, ho⟩ := amountFits_iff.1 ht.2
  rw [settle_fiat hfiat, updateStateManagerFiat_of_some hei heo hi ho, RequestMetadataExtension.fiatSettlement, hei,
    heo, hi, ho]
  rfl

theorem settle_of_not_fits (hfiat : metadata.selectedStackSmallId = .none) {i o : Int64}
    (h : ¬ (metadata.EstimatesFit ∧ metadata.TokensFit i o)) (et t : Int64) :
    ∃ e, metadata.settle et t metadata.inputTokens i metadata.outputTokens o = ⟨[], .err e⟩ := by
  rw [settle_fiat hfiat]
  refine updateStateManagerFiat_of_none ?_
  simp only [RequestMetadataExtension.EstimatesFit, RequestMetadataExtension.TokensFit, amountFits_iff,
    ← Option.isSome_iff_exists, ← Option.not_isSome_iff_eq_none] at h ⊢
  tauto

theorem tokensFit_zero : metadata.TokensFit 0 0 :=
  ⟨amountFits_iff.2 (converts_zero _), amountFits_iff.2 (converts_zero _)⟩

theorem chargedTokens_fit (handler : TextHandler) (u : Usage) :
    metadata.TokensFit (chargedTokens handler metadata u).1 (chargedTokens handler metadata u).2 := by
  unfold chargedTokens
  dsimp only
  split
  · assumption
  · exact tokensFit_zero

/-- What is charged are the tokens at their rates. -/
theorem fiatSettlement_rates {i o : Int64} (ht : metadata.TokensFit i o) :
    (metadata.fiatSettlement i o).inputAmount.toInt =
        i.toInt * metadata.pricePerOneMillionInputComputeUnits.toInt / 1000000 ∧
      (metadata.fiatSettlement i o).outputAmount.toInt =
        o.toInt * metadata.pricePerOneMillionOutputComputeUnits.toInt / 1000000 := by
  obtain ⟨ai, hi⟩ := amountFits_iff.1 ht.1
  obtain ⟨ao, ho⟩ := amountFits_iff.1 ht.2
  rw [RequestMetadataExtension.fiatSettlement, hi, ho]
  exact ⟨(fiatAmount_eq_some.1 hi).2, (fiatAmount_eq_some.1 ho).2⟩

theorem fiatSettlement_inj {i o i' o' : Int64} (h : metadata.fiatSettlement i o = metadata.fiatSettlement i' o') :
    i = i' ∧ o = o' :=
  ⟨congrArg FiatSettlement.inputTokens h, congrArg FiatSettlement.outputTokens h⟩

end Fiat

/-! ## The response as JSON -/

theorem usageTokens_of {response usage : Value} {key : String} {n : UInt64} (hr : response.get "usage" = .some usage)
    (hk : usage.get key = .some (.number (.posInt n))) : usageTokens response key = n.toInt64 := by
  simp [usageTokens, hr, hk, Value.asU64]

/-- What a handler does with JSON that is verified. -/
def settleVerified (handler : TextHandler) (metadata : RequestMetadataExtension) (u : Usage) (response : Value) :
    Handler Response := do
  .send (.updateNodeThroughputPerformance metadata.modelName u.promptTokens.toInt64 u.completionTokens.toInt64)
  (metadata.settle (metadata.inputTokens + metadata.outputTokens) u.totalTokens.toInt64 metadata.inputTokens
    (handler.fiatTokens u).1 metadata.outputTokens (handler.fiatTokens u).2).handle
      fun _ => .fail (.internalError (if metadata.selectedStackSmallId.isSome then "Error updating state manager"
        else "Error updating fiat state manager") .none metadata.endpoint)
  pure (.json response)

/-- A handler on JSON that is a verified success. -/
theorem create_plain {handler : TextHandler} {calls : HandlerCalls} {metadata : RequestMetadataExtension} {u : Usage}
    {response usage payload : Value} {status : Nat} {reason : Option String} {stream : List Upstream}
    (hverified : verifyResponseHashAndSignature calls.crypto response (metadata.endpoint ≠ handler.confidentialPath) =
      .ok ()) (hr : response.get "usage" = .some usage) (hu : u.Of usage) (hpayload : isStreaming payload = false)
    (hstatus : isSuccess status) :
    handler.create calls metadata payload (.answered status reason (.ok response) stream) =
      handlerTask (settleVerified handler metadata u response) metadata.release metadata.endpoint := by
  have hp := usageTokens_of hr hu.prompt
  have hc := usageTokens_of hr hu.completion
  have ht := usageTokens_of hr hu.total
  have hrun : ∀ fiatTokens, fiatTokens response = handler.fiatTokens u →
      handleNonStreamingResponse calls metadata (.answered status reason (.ok response) stream)
        (metadata.endpoint ≠ handler.confidentialPath) fiatTokens = settleVerified handler metadata u response := by
    intro fiatTokens htokens
    unfold handleNonStreamingResponse NodeAnswer.success
    dsimp only
    rw [if_pos hstatus, Eff.pure_bind]
    dsimp only [parsed, Except.mapError]
    rw [Eff.ofExcept_ok_bind, hverified, Eff.ofEnding_ok_bind, hp, hc, ht, htokens, settleVerified]
  cases handler with
  | chatCompletions | confidentialChatCompletions =>
    show handlerTask (handleChatCompletionsRequest calls metadata payload _) _ _ = _
    rw [handleChatCompletionsRequest, if_neg (by rw [hpayload]; exact Bool.false_ne_true)]
    exact congrArg (handlerTask · _ _) (hrun _ (by rw [hp, hc]; rfl))
  | completions | confidentialCompletions =>
    show handlerTask (handleCompletionsRequest calls metadata payload _) _ _ = _
    rw [handleCompletionsRequest, if_neg (by rw [hpayload]; exact Bool.false_ne_true)]
    exact congrArg (handlerTask · _ _) (hrun _ (by rw [ht]; rfl))

/-- What JSON settles. -/
def plainSettlement (handler : TextHandler) (metadata : RequestMetadataExtension) (u : Usage) :
    List StateManagerEvent :=
  match metadata.selectedStackSmallId with
  | .some stackSmallId =>
    [.updateStackNumTokens stackSmallId (metadata.inputTokens + metadata.outputTokens) u.totalTokens.toInt64]
  | .none =>
    let tokens := chargedTokens handler metadata u
    if metadata.EstimatesFit then [.updateStackNumTokensFiat (metadata.fiatSettlement tokens.1 tokens.2)] else []

/-- A task that settles, and releases where that fails. -/
theorem settlements_plain (handler : TextHandler) (metadata : RequestMetadataExtension) (u : Usage)
    (response : Value) : settlements (handlerTask (settleVerified handler metadata u response) metadata.release
      metadata.endpoint).sent = plainSettlement handler metadata u := by
  rw [handlerTask, Eff.sent_spawned, settleVerified, Eff.send_bind]
  unfold plainSettlement
  cases hpaid : metadata.selectedStackSmallId with
  | some stackSmallId =>
    have hsettle : ∀ et t ei i eo o, metadata.settle et t ei i eo o = .send (.updateStackNumTokens stackSmallId et t) := by
      intros
      rw [RequestMetadataExtension.settle, hpaid]
      rfl
    rw [hsettle, Eff.handle_ok rfl, Eff.bind_ok _ rfl, Eff.handle_ok rfl]
    rfl
  | none =>
    dsimp only
    by_cases he : metadata.EstimatesFit
    · by_cases ht : metadata.TokensFit (handler.fiatTokens u).1 (handler.fiatTokens u).2
      · have hcharged : chargedTokens handler metadata u = handler.fiatTokens u := if_pos ht
        rw [settle_of_fits hpaid he ht, Eff.handle_ok rfl, Eff.bind_ok _ rfl, Eff.handle_ok rfl, if_pos he, hcharged]
        rfl
      · have hcharged : chargedTokens handler metadata u = (0, 0) := if_neg ht
        obtain ⟨e, hsettle⟩ := settle_of_not_fits hpaid (fun h => ht h.2)
          (metadata.inputTokens + metadata.outputTokens) u.totalTokens.toInt64
        rw [hsettle, Eff.handle_err rfl, Eff.bind_err _ rfl, Eff.handle_err rfl, RequestMetadataExtension.release,
          settle_of_fits hpaid he tokensFit_zero, Eff.bind_ok _ rfl, if_pos he, hcharged]
        rfl
    · obtain ⟨e, hsettle⟩ := settle_of_not_fits hpaid (i := (handler.fiatTokens u).1) (o := (handler.fiatTokens u).2)
        (fun h => he h.1) (metadata.inputTokens + metadata.outputTokens) u.totalTokens.toInt64
      obtain ⟨e', hrelease⟩ := settle_of_not_fits hpaid (i := 0) (o := 0) (fun h => he h.1) metadata.totalTokens 0
      rw [hsettle, Eff.handle_err rfl, Eff.bind_err _ rfl, Eff.handle_err rfl, RequestMetadataExtension.release,
        hrelease, Eff.bind_err _ rfl, if_neg he]
      rfl

/-! ## The response as a stream -/

namespace Streamer

variable {calls : StreamerCalls} {s : Streamer}

/-- The stream is open and between items. -/
structure Between (s : Streamer) : Prop where
  status : s.status = .notStarted ∨ s.status = .started
  pos : s.keepAlivePos = 0
  buffer : s.chunkBuffer = []

theorem Between.open (h : s.Between) : s.status ≠ .completed := by
  rcases h.status with hs | hs <;> rw [hs] <;> exact (nomatch ·)

/-- A poll of an open stream starts it. -/
theorem pollNext_starts (h : s.Between) (bytes : List UInt8) :
    s.pollNext calls (.chunk bytes) = { s with status := .started }.pollNext calls (.chunk bytes) := by
  rw [pollNext, if_neg h.open, pollNext, if_neg fun hs => by cases hs]
  rfl

theorem pollNext_doneItem (h : s.Between) :
    s.pollNext calls (.chunk SseItem.done.bytes) = handleFinalChunk { s with status := .completed } := by
  rw [pollNext_starts h, SseItem.bytes,
    pollNext_prefixed (s := { s with status := .started }) rfl h.pos (by decide), if_pos (by decide)]

theorem pollNext_keepAliveItem (h : s.Between) :
    s.pollNext calls (.chunk SseItem.keepAlive.bytes) = ⟨s.after .keepAlive, [], .pending⟩ := by
  rw [pollNext_starts h, SseItem.bytes, pollNext_chunk rfl, if_pos rfl]
  rfl

/-- A poll of an event that is verified yields it. -/
theorem pollNext_eventItem (h : s.Between) {text : List UInt8} {chunk : Value} (hj : calls.JsonText text chunk)
    (hv : calls.verify chunk (s.config.endpoint ≠ confidentialChatCompletionsPath) = .ok ()) :
    s.pollNext calls (.chunk (SseItem.event text chunk).bytes) =
      ⟨s.after (.event text chunk), [], .event chunk⟩ := by
  have hvalid : validUtf8 (dataPrefix ++ (text ++ eventEnd)) :=
    validUtf8_append_of (by decide) (validUtf8_append_of hj.valid (by decide))
  have hne : text ++ eventEnd ≠ [] := List.append_ne_nil_of_right_ne_nil text (by decide)
  have hdone : doneChunk.isPrefixOf (text ++ eventEnd) = false :=
    isPrefixOf_eq_false (hj.plain hne (List.append_nil _)).notDone
  have hparse := @StreamerCalls.JsonText.whole calls text chunk hj [] eventEnd blank_nil blank_eventEnd
  rw [List.nil_append] at hparse
  rw [pollNext_starts h, SseItem.bytes, pollNext_prefixed (s := { s with status := .started }) rfl h.pos hvalid,
    hdone, if_neg Bool.false_ne_true, parseChunk, hparse]
  unfold yieldChunk after
  dsimp only
  rw [hv, ← h.buffer]
  unfold chunkUsage
  cases chunk.get "usage" with
  | none => rfl
  | some u => by_cases hnull : u.isNull = true <;> simp [hnull]

/-- What polls of items keep. -/
theorem Between.after (h : s.Between) (i : SseItem) : (s.after i).Between := by
  cases i <;> exact ⟨.inr rfl, h.pos, h.buffer⟩

theorem after_config (i : SseItem) : (s.after i).config = s.config := by
  cases i <;> rfl

theorem after_handled (i : SseItem) : (s.after i).isFinalChunkHandled = s.isFinalChunkHandled := by
  cases i <;> rfl

/-- Verified items are polled one by one, and nothing is sent. -/
theorem drive_items (items : List SseItem) (rest : List Upstream) (h : s.Between) (hnot : .done ∉ items)
    (hj : ∀ {text chunk}, .event text chunk ∈ items → calls.JsonText text chunk)
    (hv : ∀ {text chunk}, .event text chunk ∈ items →
      calls.verify chunk (s.config.endpoint ≠ confidentialChatCompletionsPath) = .ok ()) :
    s.drive calls (items.map (fun i => .chunk i.bytes) ++ rest) = (items.foldl after s).drive calls rest := by
  induction items generalizing s with
  | nil => rfl
  | cons i items ih =>
    have hrest := @ih (s.after i) (h.after i) (fun hi => hnot (List.mem_cons_of_mem i hi))
      (fun hi => hj (List.mem_cons_of_mem i hi))
      (fun hi => (after_config i).symm ▸ hv (List.mem_cons_of_mem i hi))
    rw [List.map_cons, List.cons_append, drive, List.foldl_cons, ← hrest]
    cases i with
    | event text chunk =>
      rw [pollNext_eventItem h (hj List.mem_cons_self) (hv List.mem_cons_self)]
      rfl
    | keepAlive =>
      rw [pollNext_keepAliveItem h]
      rfl
    | done => exact absurd List.mem_cons_self hnot

/-- What the items leave a stream with. -/
theorem foldl_after (items : List SseItem) (h : s.Between) :
    (items.foldl after s).Between ∧ (items.foldl after s).config = s.config ∧
      (items.foldl after s).isFinalChunkHandled = s.isFinalChunkHandled ∧
      (items.foldl after s).numGeneratedTokens = s.numGeneratedTokens + Int64.ofNat (numEvents items) ∧
      (items.foldl after s).usage = items.foldl (fun acc i =>
        match i with
        | .event _ chunk => (chunkUsage chunk).or acc
        | _ => acc) s.usage := by
  induction items generalizing s with
  | nil => exact ⟨h, rfl, rfl, by simp [numEvents], rfl⟩
  | cons i items ih =>
    obtain ⟨hbetween, hconfig, hhandled, hnum, husage⟩ := ih (h.after i)
    refine ⟨hbetween, hconfig.trans (after_config i), hhandled.trans (after_handled i), ?_, ?_⟩
    · rw [List.foldl_cons, hnum, numEvents, numEvents, List.countP_cons]
      cases i with
      | event text chunk =>
        show s.numGeneratedTokens + 1 + Int64.ofNat (numEvents items) = _ + Int64.ofNat (numEvents items + 1)
        rw [Int64.ofNat_add, Int64.add_assoc, Int64.add_comm 1]
        rfl
      | _ => rfl
    · rw [List.foldl_cons, husage, List.foldl_cons]
      cases i <;> rfl

end Streamer

/-- The settlement of a stream is that of its request. -/
theorem streamer_settle (metadata : RequestMetadataExtension) (i o t : Int64) :
    metadata.streamer.settle i o t =
      metadata.settle (metadata.inputTokens + metadata.outputTokens) t metadata.inputTokens i metadata.outputTokens o :=
  rfl

/-- The settlement of a dropped stream. -/
def dropSettlement (metadata : RequestMetadataExtension) (numEvents : Nat) : Handler Unit :=
  metadata.streamer.settle metadata.inputTokens (Int64.ofNat numEvents)
    (metadata.inputTokens + Int64.ofNat numEvents)

/-- The settlement of the usage. -/
def usageSettlement (metadata : RequestMetadataExtension) (u : Usage) : Handler Unit :=
  metadata.streamer.settle u.promptTokens.toInt64 u.completionTokens.toInt64 u.totalTokens.toInt64

/-- What a stream settles. -/
def streamedSettlement (metadata : RequestMetadataExtension) (u : Usage) (numEvents : Nat) (ending : StreamEnd) :
    List StateManagerEvent :=
  if ending = .done ∧ u.Small ∧ (usageSettlement metadata u).ending = .ok () then (usageSettlement metadata u).sent
  else (dropSettlement metadata numEvents).sent

theorem usageField_of {s : Streamer} {v : Value} {key : String} {n : UInt64} (hs : s.usage = .some v)
    (hk : v.get key = .some (.number (.posInt n))) :
    s.usageField key = if n.toNat < 2 ^ 63 then .some n.toInt64 else .none := by
  rw [Streamer.usageField, hs, Option.bind_some, hk, Option.bind_some, Value.asI64]

/-- What the last chunk's handling sends, and whether it settles: the usage where its counts are small. -/
theorem handleFinalChunk_usage {s : Streamer} {metadata : RequestMetadataExtension} {u : Usage} {v : Value}
    (hc : s.config = metadata.streamer) (hs : s.usage = .some v) (hu : u.Of v) :
    (u.Small ∧ (usageSettlement metadata u).ending = .ok () ∧
        s.handleFinalChunk = ⟨{ s with isFinalChunkHandled := true }, (usageSettlement metadata u).sent, .finished⟩) ∨
      (¬ (u.Small ∧ (usageSettlement metadata u).ending = .ok ()) ∧ ∃ e, s.handleFinalChunk = ⟨s, [], .error e⟩) := by
  unfold Streamer.handleFinalChunk
  rw [usageField_of hs hu.prompt, usageField_of hs hu.completion, usageField_of hs hu.total]
  by_cases hp : u.promptTokens.toNat < 2 ^ 63
  · by_cases hcompletion : u.completionTokens.toNat < 2 ^ 63
    · by_cases ht : u.totalTokens.toNat < 2 ^ 63
      · rw [if_pos hp, if_pos hcompletion, if_pos ht, hc]
        dsimp only
        rcases metadata.streamer.settle_cases u.promptTokens.toInt64 u.completionTokens.toInt64
          u.totalTokens.toInt64 with ⟨e, he, _⟩ | ⟨err, he⟩
        · refine .inl ⟨⟨hp, hcompletion, ht⟩, ?_, ?_⟩
          · rw [usageSettlement, he]
          · rw [usageSettlement, he]
        · refine .inr ⟨fun h => ?_, ?_⟩
          · rw [usageSettlement, he] at h
            exact nomatch h.2
          · rw [he]
            exact ⟨_, rfl⟩
      · rw [if_pos hp, if_pos hcompletion, if_neg ht]
        exact .inr ⟨fun h => ht h.1.2.2, _, rfl⟩
    · rw [if_pos hp, if_neg hcompletion]
      exact .inr ⟨fun h => hcompletion h.1.2.1, _, rfl⟩
  · rw [if_neg hp]
    exact .inr ⟨fun h => hp h.1.1, _, rfl⟩

/-- **What a stream's task sends.** -/
theorem task_stream {calls : HandlerCalls} {handler : TextHandler} {metadata : RequestMetadataExtension} {u : Usage}
    {response : Value} {items : List SseItem} (h : SameResponse calls handler metadata.endpoint u response items)
    (ending : StreamEnd) : Streamer.task calls.streamer metadata.streamer (streamOf items ending) =
      streamedSettlement metadata u (numEvents items) ending := by
  obtain ⟨v, hlast, hu⟩ := h.carried
  have hnew : (Streamer.new metadata.streamer).Between := ⟨.inl rfl, rfl, rfl⟩
  have hdrive := @Streamer.drive_items calls.streamer _ items ending.upstream hnew h.notDone h.text
    h.eventsVerified
  obtain ⟨hbetween, hconfig, hhandled, hnum, husage⟩ := Streamer.foldl_after items hnew
  rw [streamOf, Streamer.task, hdrive]
  generalize items.foldl Streamer.after (Streamer.new metadata.streamer) = s at *
  have hnum' : s.numGeneratedTokens = Int64.ofNat (numEvents items) := hnum.trans (Int64.zero_add _)
  -- a stream that has not settled settles by its drop
  have hdrop : ∀ s' : Streamer, s'.config = s.config → s'.isFinalChunkHandled = false →
      s'.numGeneratedTokens = s.numGeneratedTokens → s'.drop = (dropSettlement metadata (numEvents items)).sent := by
    intro s' hc hf hn
    rw [Streamer.drop, if_neg (by rw [hf]; exact Bool.false_ne_true), hc, hconfig, hn, hnum']
    rfl
  cases ending with
  | dropped =>
    show [] ++ s.drop = _
    rw [streamedSettlement, if_neg (fun h => by cases h.1), List.nil_append]
    exact hdrop s rfl hhandled rfl
  | finished =>
    rw [streamedSettlement, if_neg (fun h => by cases h.1), StreamEnd.upstream, Streamer.drive, Streamer.pollNext,
      if_neg hbetween.open]
    exact hdrop _ rfl hhandled rfl
  | failed text =>
    rw [streamedSettlement, if_neg (fun h => by cases h.1), StreamEnd.upstream, Streamer.drive, Streamer.pollNext,
      if_neg hbetween.open]
    exact hdrop _ rfl hhandled rfl
  | done =>
    rw [StreamEnd.upstream, Streamer.drive, Streamer.pollNext_doneItem hbetween]
    rcases handleFinalChunk_usage (s := { s with status := .completed }) hconfig (husage.trans hlast) hu with
      ⟨hsmall, hok, hfinal⟩ | ⟨hnot, e, hfinal⟩
    · rw [hfinal, streamedSettlement, if_pos ⟨rfl, hsmall, hok⟩]
      exact List.append_nil _
    · rw [hfinal, streamedSettlement, if_neg fun h => hnot h.2]
      exact hdrop _ rfl hhandled rfl

/-- A handler on a stream that is a success. -/
theorem create_streamed {handler : TextHandler} {calls : HandlerCalls} {metadata : RequestMetadataExtension}
    {payload : Value} {status : Nat} {reason : Option String} {json : Except String Value} {stream : List Upstream}
    (hpayload : isStreaming payload = true) (hstatus : isSuccess status) :
    (handler.create calls metadata payload (.answered status reason json stream)).sent =
      Streamer.task calls.streamer metadata.streamer stream := by
  have hrun : (handlerTask (handleStreamingResponse calls metadata (.answered status reason json stream))
      metadata.release metadata.endpoint).sent = Streamer.task calls.streamer metadata.streamer stream := by
    unfold handleStreamingResponse NodeAnswer.success
    dsimp only
    rw [if_pos hstatus, Eff.pure_bind, handlerTask, Eff.handle_ok rfl]
    rfl
  cases handler with
  | chatCompletions | confidentialChatCompletions =>
    show (handlerTask (handleChatCompletionsRequest calls metadata payload _) _ _).sent = _
    rw [handleChatCompletionsRequest, if_pos hpayload]
    exact hrun
  | completions | confidentialCompletions =>
    show (handlerTask (handleCompletionsRequest calls metadata payload _) _ _).sent = _
    rw [handleCompletionsRequest, if_pos hpayload]
    exact hrun

/-! ## When they agree -/

theorem settlements_settle (c : StreamerConfig) (i o t : Int64) :
    settlements (c.settle i o t).sent = (c.settle i o t).sent := by
  unfold StreamerConfig.settle
  rcases c.settle_cases i o t with ⟨e, he, hby⟩ | ⟨err, he⟩
  · unfold StreamerConfig.settle at he
    rw [he]
    unfold StreamerConfig.SettledBy at hby
    split at hby
    · obtain ⟨total, rfl⟩ := hby
      rfl
    · obtain ⟨f, rfl, _⟩ := hby
      rfl
  · unfold StreamerConfig.settle at he
    rw [he]
    rfl

theorem toInt_eq_toNat {a : Int64} {n : UInt64} : a.toInt = n.toNat ↔ a = n.toInt64 ∧ n.toNat < 2 ^ 63 := by
  constructor
  · intro h
    have hlt := Int64.toInt_lt a
    have hn : n.toNat < 2 ^ 63 := by omega
    exact ⟨Int64.toInt_inj.1 (h.trans (toInt_toInt64 hn).symm), hn⟩
  · intro h
    obtain ⟨rfl, hn⟩ := h
    exact toInt_toInt64 hn

/-- The stack's case: the total is the usage's, or the drop's happens to be that. -/
theorem agree_stack {handler : TextHandler} {metadata : RequestMetadataExtension} {stackSmallId : Int64}
    (hpaid : metadata.selectedStackSmallId = .some stackSmallId) (u : Usage) (n : Nat) (ending : StreamEnd) :
    plainSettlement handler metadata u = streamedSettlement metadata u n ending ↔
      AgreeWhen handler metadata u n ending := by
  have hsettle : ∀ i o t, metadata.streamer.settle i o t = .send (.updateStackNumTokens stackSmallId
      (metadata.inputTokens + metadata.outputTokens) t) := by
    intro i o t
    rw [streamer_settle, RequestMetadataExtension.settle, hpaid]
    rfl
  unfold plainSettlement streamedSettlement AgreeWhen usageSettlement dropSettlement
  rw [hpaid, hsettle, hsettle]
  by_cases hdone : ending = .done ∧ u.Small
  · simp [hdone]
  · simp [hdone]

/-- The fiat balance's case, where the estimates convert. -/
theorem agree_fiat {handler : TextHandler} {metadata : RequestMetadataExtension}
    (hfiat : metadata.selectedStackSmallId = .none) (he : metadata.EstimatesFit) {u : Usage}
    (hcharged : chargedTokens handler metadata u = (u.promptTokens.toInt64, u.completionTokens.toInt64)) (n : Nat)
    (ending : StreamEnd) : plainSettlement handler metadata u = streamedSettlement metadata u n ending ↔
      ending = .done ∧ u.Small ∨
        metadata.inputTokens = u.promptTokens.toInt64 ∧ Int64.ofNat n = u.completionTokens.toInt64 := by
  have hplain : plainSettlement handler metadata u = [.updateStackNumTokensFiat
      (metadata.fiatSettlement u.promptTokens.toInt64 u.completionTokens.toInt64)] := by
    unfold plainSettlement
    rw [hfiat, hcharged]
    exact if_pos he
  have hfit : metadata.TokensFit u.promptTokens.toInt64 u.completionTokens.toInt64 := by
    have h := @chargedTokens_fit metadata handler u
    rw [hcharged] at h
    exact h
  have husage : usageSettlement metadata u = ⟨[.updateStackNumTokensFiat
      (metadata.fiatSettlement u.promptTokens.toInt64 u.completionTokens.toInt64)], .ok ()⟩ := by
    rw [usageSettlement, streamer_settle]
    exact settle_of_fits hfiat he hfit _ _
  unfold streamedSettlement
  rw [hplain, husage]
  by_cases hdone : ending = .done ∧ u.Small
  · rw [if_pos ⟨hdone.1, hdone.2, rfl⟩]
    exact ⟨fun _ => .inl hdone, fun _ => rfl⟩
  · rw [if_neg fun h => hdone ⟨h.1, h.2.1⟩, dropSettlement, streamer_settle]
    by_cases hn : metadata.TokensFit metadata.inputTokens (Int64.ofNat n)
    · rw [settle_of_fits hfiat he hn]
      constructor
      · intro h
        obtain ⟨hi, ho⟩ := fiatSettlement_inj (StateManagerEvent.updateStackNumTokensFiat.inj (List.cons.inj h).1)
        exact .inr ⟨hi.symm, ho.symm⟩
      · intro h
        obtain ⟨hi, ho⟩ := h.resolve_left hdone
        rw [hi, ho]
    · obtain ⟨e, hsettle⟩ := settle_of_not_fits hfiat (fun h => hn h.2)
        (metadata.inputTokens + metadata.outputTokens) (metadata.inputTokens + Int64.ofNat n)
      rw [hsettle]
      refine ⟨(nomatch ·), fun h => ?_⟩
      obtain ⟨hi, ho⟩ := h.resolve_left hdone
      exact absurd (hi ▸ ho ▸ hfit) hn

/-- The tokens charged are the reported ones. -/
theorem atRates_iff {handler : TextHandler} {metadata : RequestMetadataExtension} {u : Usage} :
    (metadata.fiatSettlement (chargedTokens handler metadata u).1 (chargedTokens handler metadata u).2).AtRates
        metadata u ↔
      chargedTokens handler metadata u = (u.promptTokens.toInt64, u.completionTokens.toInt64) ∧
        u.promptTokens.toNat < 2 ^ 63 ∧ u.completionTokens.toNat < 2 ^ 63 := by
  obtain ⟨hin, hout⟩ := fiatSettlement_rates (@chargedTokens_fit metadata handler u)
  rw [Prod.ext_iff]
  constructor
  · intro h
    obtain ⟨h1, hp⟩ := toInt_eq_toNat.1 h.inputTokens
    obtain ⟨h2, hc⟩ := toInt_eq_toNat.1 h.outputTokens
    exact ⟨⟨h1, h2⟩, hp, hc⟩
  · intro h
    obtain ⟨⟨h1, h2⟩, hp, hc⟩ := h
    have hp' := toInt_eq_toNat.2 ⟨h1, hp⟩
    have hc' := toInt_eq_toNat.2 ⟨h2, hc⟩
    exact ⟨hp', hc', by rw [hin, hp'], by rw [hout, hc']⟩

/-- The two settlements. -/
theorem agree_iff (handler : TextHandler) (metadata : RequestMetadataExtension) (u : Usage) (n : Nat)
    (ending : StreamEnd) :
    plainSettlement handler metadata u = streamedSettlement metadata u n ending ∧
        (∀ f, .updateStackNumTokensFiat f ∈ plainSettlement handler metadata u → f.AtRates metadata u) ↔
      AgreeWhen handler metadata u n ending := by
  cases hpaid : metadata.selectedStackSmallId with
  | some stackSmallId =>
    rw [← agree_stack hpaid]
    refine and_iff_left fun f hf => ?_
    simp [plainSettlement, hpaid] at hf
  | none =>
    unfold AgreeWhen
    rw [hpaid]
    dsimp only
    by_cases he : metadata.EstimatesFit
    · have hone : plainSettlement handler metadata u = [.updateStackNumTokensFiat (metadata.fiatSettlement
          (chargedTokens handler metadata u).1 (chargedTokens handler metadata u).2)] := by
        unfold plainSettlement
        rw [hpaid]
        exact if_pos he
      have hrates : (∀ f, .updateStackNumTokensFiat f ∈ plainSettlement handler metadata u → f.AtRates metadata u) ↔
          chargedTokens handler metadata u = (u.promptTokens.toInt64, u.completionTokens.toInt64) ∧
            u.promptTokens.toNat < 2 ^ 63 ∧ u.completionTokens.toNat < 2 ^ 63 := by
        rw [hone, ← atRates_iff]
        simp only [List.mem_singleton, StateManagerEvent.updateStackNumTokensFiat.injEq, forall_eq]
      rw [hrates]
      constructor
      · intro h
        obtain ⟨hsame, hcharged, hp, hc⟩ := h
        exact .inr ⟨hcharged, hp, hc, (agree_fiat hpaid he hcharged n ending).1 hsame⟩
      · intro h
        obtain ⟨hcharged, hp, hc, hend⟩ := h.resolve_left (not_not_intro he)
        exact ⟨(agree_fiat hpaid he hcharged n ending).2 hend, hcharged, hp, hc⟩
    · -- no estimate converts, and neither run settles
      have hplain : plainSettlement handler metadata u = [] := by
        unfold plainSettlement
        rw [hpaid]
        exact if_neg he
      have hstreamed : streamedSettlement metadata u n ending = [] := by
        obtain ⟨e, husage⟩ := settle_of_not_fits hpaid (i := u.promptTokens.toInt64) (o := u.completionTokens.toInt64)
          (fun h => he h.1) (metadata.inputTokens + metadata.outputTokens) u.totalTokens.toInt64
        obtain ⟨e', hdrop⟩ := settle_of_not_fits hpaid (i := metadata.inputTokens) (o := Int64.ofNat n)
          (fun h => he h.1) (metadata.inputTokens + metadata.outputTokens) (metadata.inputTokens + Int64.ofNat n)
        unfold streamedSettlement
        rw [usageSettlement, dropSettlement, streamer_settle, streamer_settle, husage, hdrop]
        split <;> rfl
      rw [hplain, hstreamed]
      exact ⟨fun _ => .inl he, fun _ => ⟨rfl, fun _ => (nomatch ·)⟩⟩

/-- **Main result.** A response settles alike as JSON and as a stream, and at the reported counts and their rates,
exactly when `AgreeWhen` says. -/
theorem charges_agree_iff {calls : HandlerCalls} {handler : TextHandler} {metadata : RequestMetadataExtension}
    {u : Usage} {response : Value} {items : List SseItem}
    (hsame : SameResponse calls handler metadata.endpoint u response items) {payload streamPayload : Value}
    (hpayload : isStreaming payload = false) (hstream : isStreaming streamPayload = true) {status : Nat}
    (hstatus : isSuccess status) (reason : Option String) (stream : List Upstream) (json : Except String Value)
    (ending : StreamEnd) :
    ChargesAgree metadata u
        (handler.create calls metadata payload (.answered status reason (.ok response) stream)).sent
        (handler.create calls metadata streamPayload
          (.answered status reason json (streamOf items ending))).sent ↔
      AgreeWhen handler metadata u (numEvents items) ending := by
  obtain ⟨v, hr, hu⟩ := hsame.reported
  have hplain := settlements_plain handler metadata u response
  have hstreamed : settlements (streamedSettlement metadata u (numEvents items) ending) =
      streamedSettlement metadata u (numEvents items) ending := by
    unfold streamedSettlement
    split
    · exact settlements_settle _ _ _ _
    · exact settlements_settle _ _ _ _
  rw [create_plain hsame.verified hr hu hpayload hstatus, create_streamed hstream hstatus, task_stream hsame,
    ← agree_iff]
  generalize (handlerTask (settleVerified handler metadata u response) metadata.release metadata.endpoint).sent =
    plain at *
  have hmem : ∀ f, .updateStackNumTokensFiat f ∈ plain ↔
      .updateStackNumTokensFiat f ∈ plainSettlement handler metadata u := by
    intro f
    rw [← hplain, settlements, List.mem_filter]
    exact ⟨fun h => ⟨h, rfl⟩, And.left⟩
  constructor
  · intro h
    refine ⟨?_, fun f hf => h.rates f ((hmem f).2 hf)⟩
    rw [← hplain, h.same, hstreamed]
  · intro h
    refine ⟨?_, fun f hf => h.2 f ((hmem f).1 hf)⟩
    rw [hplain, h.1, hstreamed]

/-- A response of 30 tokens, as JSON and as the text of an event. -/
def chargedExample : Value := .object [
  ("usage", .object [("prompt_tokens", .number (.posInt 10)), ("completion_tokens", .number (.posInt 20)),
    ("total_tokens", .number (.posInt 30))]),
  ("response_hash", .string "aGFzaA=="),
  ("signature", .string "c2lnbmF0dXJl")]

def chargedText : List UInt8 := ascii ("\x7b\"usage\":\x7b\"prompt_tokens\":10,\"completion_tokens\":20," ++
  "\"total_tokens\":30\x7d,\"response_hash\":\"aGFzaA==\",\"signature\":\"c2lnbmF0dXJl\"\x7d")

/-- A library that finds the hash and the signature of that response in order. -/
def chargedCalls : HandlerCalls where
  crypto := {
    signatureFromStr := fun _ => .ok ⟨.ed25519, [], []⟩
    publicKeyFromBytes := fun _ _ => .ok ()
    schemeKeyFromBytes := fun _ _ => .ok ()
    schemeSignatureFromBytes := fun _ _ => .ok ()
    verify := fun _ _ _ _ => .ok ()
    decodeBase64 := fun text => if text = "aGFzaA==" then .some (ascii "hash") else .none
    blake2 := fun _ => ascii "hash" }
  fromStr := oneTextParser chargedText chargedExample

/-- A request at 1 per token of input and 2 of output, that a fiat balance pays for. -/
def chargedMetadata (endpoint : String) : RequestMetadataExtension where
  nodeAddress := "http://node"
  nodeId := 7
  numInputTokens := .some 12
  maxOutputTokens := 100
  userId := 1
  selectedStackSmallId := .none
  pricePerOneMillionInputComputeUnits := 1000000
  pricePerOneMillionOutputComputeUnits := 2000000
  endpoint
  modelName := "model"

def chargedItems : List SseItem := [.event chargedText chargedExample]

set_option maxRecDepth 2000 in
theorem sameResponse_example (handler : TextHandler) {endpoint : String} :
    SameResponse chargedCalls handler endpoint ⟨10, 20, 30⟩ chargedExample chargedItems := by
  have hverified : ∀ flag, verifyResponseHashAndSignature chargedCalls.crypto chargedExample flag = .ok () := by
    intro flag
    cases flag <;> rfl
  refine ⟨hverified _, ⟨_, rfl, rfl, rfl, rfl⟩, fun hi => (nomatch List.mem_singleton.1 hi), fun hi => ?_, fun hi => ?_,
    ⟨_, rfl, rfl, rfl, rfl⟩⟩
  · obtain ⟨rfl, rfl⟩ := SseItem.event.inj (List.mem_singleton.1 hi)
    exact oneTextParser_jsonText rfl ⟨chargedText.tail, rfl⟩ (by decide) (by decide)
  · obtain ⟨rfl, rfl⟩ := SseItem.event.inj (List.mem_singleton.1 hi)
    exact hverified _

/-- A request body with its `stream` flag. -/
def streamFlag (stream : Bool) : Value := .object [("stream", .bool stream)]

/-- A chat whose stream ends with `[DONE]`. -/
theorem charges_agree_example : ChargesAgree (chargedMetadata chatCompletionsPath) ⟨10, 20, 30⟩
    (TextHandler.chatCompletions.create chargedCalls (chargedMetadata chatCompletionsPath) (streamFlag false)
      (.answered 200 .none (.ok chargedExample) [])).sent
    (TextHandler.chatCompletions.create chargedCalls (chargedMetadata chatCompletionsPath) (streamFlag true)
      (.answered 200 .none (.error "not JSON") (streamOf chargedItems .done))).sent :=
  (charges_agree_iff (sameResponse_example .chatCompletions) rfl rfl (by decide) .none [] _ .done).2 (by decide)

/-- A completion is charged all its tokens at the output rate where it is not streamed. -/
theorem charges_agree_fails : ¬ ∀ (calls : HandlerCalls) (handler : TextHandler) (metadata : RequestMetadataExtension)
    (u : Usage) (response : Value) (items : List SseItem) (payload streamPayload : Value) (ending : StreamEnd),
    SameResponse calls handler metadata.endpoint u response items → isStreaming payload = false →
    isStreaming streamPayload = true →
    ChargesAgree metadata u
      (handler.create calls metadata payload (.answered 200 .none (.ok response) [])).sent
      (handler.create calls metadata streamPayload (.answered 200 .none (.ok .null) (streamOf items ending))).sent := by
  intro h
  have hagree := h chargedCalls .completions (chargedMetadata completionsPath) ⟨10, 20, 30⟩ chargedExample chargedItems
    (streamFlag false) (streamFlag true) .done (sameResponse_example .completions) rfl rfl
  have hsame := hagree.same
  rw [create_plain (u := ⟨10, 20, 30⟩) (sameResponse_example .completions).verified rfl ⟨rfl, rfl, rfl⟩ rfl (by decide),
    create_streamed rfl (by decide), task_stream (sameResponse_example .completions), settlements_plain] at hsame
  exact absurd hsame (by decide)

end AtomaProxy
