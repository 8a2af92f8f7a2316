/-
What a handler can send, whatever its node answers: the throughput of its
model, and settlements of what its request has to pay for, the stack of its
metadata or, where there is none, the balance of its user.
-/
import AtomaProxy.Server.ConfidentialCompute
import AtomaProxy.Server.FiatRequest

namespace AtomaProxy

open Base

/-- The event is one a handler of the request may send. -/
def RequestMetadataExtension.HandlerEvent (metadata : RequestMetadataExtension) : StateManagerEvent → Prop
  | .updateNodeThroughputPerformance .. => True
  | .updateStackNumTokens stackSmallId .. => metadata.selectedStackSmallId = .some stackSmallId
  | .updateStackNumTokensFiat settlement =>
    metadata.selectedStackSmallId = .none ∧ settlement.userId = metadata.userId
  | .lockUserFiatBalance .. | .lockStack _ => False

section HandlerEvent

variable {calls : HandlerCalls} {metadata : RequestMetadataExtension} {answer : NodeAnswer}

theorem sends_fiat {P : StateManagerEvent → Prop} {u ei i eo o pi po : Int64} {m endpoint : String}
    (h : ∀ settlement, settlement.userId = u → P (.updateStackNumTokensFiat settlement)) :
    (updateStateManagerFiat u ei i eo o pi po m endpoint).Sends P := by
  have hquiet : ∀ t p w, (convertAmount t p w endpoint).Sends P :=
    fun t p w => Eff.sends_of_nil (convertAmount_sent t p w endpoint)
  unfold updateStateManagerFiat
  exact (hquiet _ _ _).bind fun _ _ => (hquiet _ _ _).bind fun _ _ => (hquiet _ _ _).bind fun _ _ =>
    (hquiet _ _ _).bind fun _ _ => Eff.sends_send (h _ rfl)

theorem sends_settle (et t ei i eo o : Int64) : (metadata.settle et t ei i eo o).Sends metadata.HandlerEvent := by
  unfold RequestMetadataExtension.settle
  cases hs : metadata.selectedStackSmallId with
  | some stackSmallId => exact Eff.sends_send hs
  | none => exact sends_fiat fun _ hu => ⟨hs, hu⟩

theorem sends_success {P : StateManagerEvent → Prop} {sendError : String → AtomaProxyError} {endpoint : String} :
    (answer.success sendError endpoint).Sends P := by
  refine Eff.sends_of_nil ?_
  unfold NodeAnswer.success
  split
  · rfl
  · split <;> rfl

/-- The parse and the verification send nothing. -/
theorem sends_verified {α : Type} {P : StateManagerEvent → Prop} {json : Except String Value}
    {parseError : String → AtomaProxyError} {verifyHash : Bool} {rest : Value → Handler α}
    (hrest : ∀ response, (rest response).Sends P) :
    Eff.Sends P (do
      let response ← parsed json parseError
      .ofEnding (verifyResponseHashAndSignature calls.crypto response verifyHash)
      rest response) :=
  Eff.Sends.bind (Eff.sends_of_nil (Eff.sent_ofExcept _)) fun response _ =>
    Eff.Sends.bind (Eff.sends_of_nil rfl) fun _ _ => hrest response

theorem sends_verifiedResponse {what parseErrorMessage : String} {verifyHash : Bool}
    {throughput : Value → Int64 × Int64} :
    (handleVerifiedResponse calls metadata answer what parseErrorMessage verifyHash throughput).Sends
      metadata.HandlerEvent :=
  sends_success.bind fun _ _ => sends_verified fun _ =>
    (Eff.sends_send trivial).bind fun _ _ => Eff.sends_of_nil rfl

theorem sends_nonStreaming {verifyHash : Bool} {fiatTokens : Value → Int64 × Int64} :
    (handleNonStreamingResponse calls metadata answer verifyHash fiatTokens).Sends metadata.HandlerEvent :=
  sends_success.bind fun _ _ => sends_verified fun _ =>
    (Eff.sends_send trivial).bind fun _ _ =>
      ((sends_settle _ _ _ _ _ _).handle fun _ => Eff.sends_of_nil rfl).bind fun _ _ => Eff.sends_of_nil rfl

/-- A settlement of the request's stream is one of the request. -/
theorem handlerEvent_of_settledBy {e : StateManagerEvent} (h : metadata.streamer.SettledBy e) :
    metadata.HandlerEvent e := by
  unfold StreamerConfig.SettledBy at h
  cases hs : metadata.selectedStackSmallId with
  | some stackSmallId =>
    rw [show metadata.streamer.stackSmallId = .some stackSmallId from hs] at h
    obtain ⟨totalTokens, rfl⟩ := h
    exact hs
  | none =>
    rw [show metadata.streamer.stackSmallId = .none from hs] at h
    obtain ⟨settlement, rfl, huser, _⟩ := h
    exact ⟨hs, huser⟩

theorem sends_task (stream : List Upstream) :
    ∀ e ∈ Streamer.task calls.streamer metadata.streamer stream, metadata.HandlerEvent e := by
  obtain ⟨n, hinv⟩ := @settledOnce_drive calls.streamer metadata.streamer stream 0 (.new metadata.streamer) []
    (Streamer.settledOnce_new _)
  rw [List.nil_append] at hinv
  rcases hd : (Streamer.new metadata.streamer).drive calls.streamer stream with ⟨s, sent⟩
  rw [hd] at hinv
  dsimp only at hinv
  intro e he
  rw [Streamer.task, hd, List.mem_append] at he
  rcases he with he | he
  · by_cases hf : s.isFinalChunkHandled = true
    · obtain ⟨_, e', he', hby⟩ := hinv.settled hf
      rw [he', List.mem_singleton] at he
      exact he ▸ handlerEvent_of_settledBy hby
    · rw [hinv.pending (eq_false_of_ne_true hf)] at he
      cases he
  · rw [Streamer.drop] at he
    split at he
    · cases he
    · rw [hinv.config] at he
      rcases metadata.streamer.settle_cases metadata.streamer.estimatedInputTokens s.numGeneratedTokens
        (metadata.streamer.estimatedInputTokens + s.numGeneratedTokens) with ⟨e', hsettle, hby⟩ | ⟨err, hsettle⟩
      · rw [hsettle, List.mem_singleton] at he
        exact he ▸ handlerEvent_of_settledBy hby
      · rw [hsettle] at he
        cases he

theorem sends_streaming : (handleStreamingResponse calls metadata answer).Sends metadata.HandlerEvent :=
  sends_success.bind fun _ _ => sends_task _

theorem sends_chat {payload : Value} :
    (handleChatCompletionsRequest calls metadata payload answer).Sends metadata.HandlerEvent := by
  unfold handleChatCompletionsRequest
  split
  · exact sends_streaming
  · exact sends_nonStreaming

theorem sends_completion {payload : Value} :
    (handleCompletionsRequest calls metadata payload answer).Sends metadata.HandlerEvent := by
  unfold handleCompletionsRequest
  split
  · exact sends_streaming
  · exact sends_nonStreaming

/-- A settlement, and then the error it was made for. -/
theorem sends_settleAndFail {α : Type} {et t ei i eo o : Int64} {e : AtomaProxyError} :
    Eff.Sends metadata.HandlerEvent (do
      metadata.settle et t ei i eo o
      .fail e : Handler α) :=
  (sends_settle _ _ _ _ _ _).bind fun _ _ => Eff.sends_of_nil rfl

theorem sends_handlerTask {work : Handler Response} (h : work.Sends metadata.HandlerEvent) (endpoint : String) :
    (handlerTask work metadata.release endpoint).Sends metadata.HandlerEvent :=
  (h.handle fun _ => sends_settleAndFail).spawned

/-- A task that settles a verified answer. -/
theorem sends_settlingTask {what parseErrorMessage : String} {verifyHash : Bool}
    {throughput : Value → Int64 × Int64} {et t ei i eo o et' ei' eo' o' : Int64} {e : AtomaProxyError}
    (total input : Value → Int64) : Eff.Sends metadata.HandlerEvent (Eff.spawned (do
      let response ← (handleVerifiedResponse calls metadata answer what parseErrorMessage verifyHash throughput).handle
        fun e => do
          metadata.settle et t ei i eo o
          .fail e
      metadata.settle et' (total response) ei' (input response) eo' o'
      pure (.json response)) e : Handler Response) :=
  ((sends_verifiedResponse.handle fun _ => sends_settleAndFail).bind fun _ _ =>
    (sends_settle _ _ _ _ _ _).bind fun _ _ => Eff.sends_of_nil rfl).spawned

theorem sends_intoResponse {P : StateManagerEvent → Prop} {x : Handler Response} (h : x.Sends P) :
    (intoResponse x).Sends P := h.handle fun _ => Eff.sends_of_nil rfl

/-- **What a regular handler sends.** -/
theorem sends_regularHandler (calls : ServerCalls) (headers : Headers) (body : Value) :
    (regularHandler calls headers body answer metadata).Sends metadata.HandlerEvent := by
  unfold regularHandler
  split
  · exact Eff.sends_of_nil rfl
  · refine sends_intoResponse ?_
    split
    · exact sends_handlerTask sends_completion _
    · split
      · exact sends_handlerTask sends_chat _
      · split
        · exact sends_settlingTask (fun _ => metadata.inputTokens) (fun _ => metadata.inputTokens)
        · exact sends_settlingTask (fun _ => metadata.totalTokens) (fun _ => metadata.inputTokens)

/-- **What a confidential one sends.** -/
theorem sends_confidentialHandler (calls : ServerCalls) (headers : Headers) (body : Value) :
    (confidentialHandler calls headers body answer metadata).Sends metadata.HandlerEvent := by
  unfold confidentialHandler
  split
  · exact Eff.sends_of_nil rfl
  · refine sends_intoResponse ?_
    split
    · exact sends_handlerTask sends_chat _
    · split
      · exact sends_handlerTask sends_completion _
      · split
        · exact sends_settlingTask (fun response => usageTokens response "total_tokens")
            (fun response => usageTokens response "total_tokens")
        · exact sends_handlerTask (sends_verifiedResponse.bind fun _ _ => Eff.sends_of_nil rfl) _

end HandlerEvent

end AtomaProxy
