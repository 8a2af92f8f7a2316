/-
What a request's settlements take off the locked units of its stack.

A confidential request reserves nothing itself: its units are those of the
lock that was taken for it, and its metadata carries the units it asked for.
Chats and completions release these however they end, unless the verification
of the answer panics; an image only where it fails; embeddings release the
input tokens, which nobody counted. A body that the handler's extractor turns
down releases nothing.
-/
import AtomaProxy.Server.HandlerEvents

namespace AtomaProxy

open Base

/-- The units that the event, once it is applied, takes off a stack's locked ones. -/
def StateManagerEvent.releases (stackSmallId : Int64) : StateManagerEvent → Int
  | .updateStackNumTokens id estimatedTotalTokens _ => if id = stackSmallId then estimatedTotalTokens.toInt else 0
  | _ => 0

def released (stackSmallId : Int64) (sent : List StateManagerEvent) : Int :=
  (sent.map (StateManagerEvent.releases stackSmallId)).sum

/-- The JSON of an answer that is a success. -/
def NodeAnswer.jsonBody : NodeAnswer → Option Value
  | .answered status _ (.ok response) _ => if isSuccess status then .some response else .none
  | _ => .none

/-- What becomes of an answer that is read as JSON: it is verified or refused, or the verification panics. -/
def NodeAnswer.verified (answer : NodeAnswer) (crypto : ResponseCrypto) (verifyHash : Bool) : Ending Unit Value :=
  match answer.jsonBody with
  | .none => .err ()
  | .some response =>
    match verifyResponseHashAndSignature crypto response verifyHash with
    | .ok _ => .ok response
    | .err _ => .err ()
    | .panic => .panic

/-- A confidential request of that endpoint, once the node has answered, releases the units it asked for. -/
def releasesUnits (calls : ServerCalls) (headers : Headers) (body : Value) (answer : NodeAnswer)
    (endpoint : String) : Bool :=
  match jsonExtractor calls headers body with
  | .error _ => false
  | .ok payload =>
    if endpoint = confidentialChatCompletionsPath ∨ endpoint = confidentialCompletionsPath then
      isStreaming payload || !answer.jsonBody.any (Value.badResponseHash calls.crypto)
    else if endpoint = confidentialEmbeddingsPath then false
    else (answer.verified calls.crypto (endpoint ≠ confidentialImageGenerationsPath)).isErr

section Released

variable {stackSmallId : Int64}

@[simp] theorem released_nil : released stackSmallId [] = 0 := rfl

@[simp] theorem released_cons (e : StateManagerEvent) (sent : List StateManagerEvent) :
    released stackSmallId (e :: sent) = e.releases stackSmallId + released stackSmallId sent := List.sum_cons

@[simp] theorem released_append (sent sent' : List StateManagerEvent) :
    released stackSmallId (sent ++ sent') = released stackSmallId sent + released stackSmallId sent' := by
  rw [released, List.map_append, List.sum_append]
  rfl

theorem released_eq_zero {sent : List StateManagerEvent} (h : ∀ e ∈ sent, e.releases stackSmallId = 0) :
    released stackSmallId sent = 0 := by
  refine List.sum_eq_zero fun n hn => ?_
  obtain ⟨e, he, rfl⟩ := List.mem_map.1 hn
  exact h e he

end Released

/-! ## What the handlers release -/

section Handlers

variable {calls : HandlerCalls} {answer : NodeAnswer} {verifyHash : Bool}

/-- The call of the node, the parse and the verification, and the rest of a handler on an answer that is verified. -/
def NodeAnswer.thenVerified {α : Type} (calls : HandlerCalls) (answer : NodeAnswer)
    (sendError parseError : String → AtomaProxyError) (endpoint : String) (verifyHash : Bool)
    (rest : Value → Handler α) : Handler α := do
  let (json, _) ← answer.success sendError endpoint
  let response ← parsed json parseError
  .ofEnding (verifyResponseHashAndSignature calls.crypto response verifyHash)
  rest response

theorem thenVerified_cases {α : Type} {sendError parseError : String → AtomaProxyError} {endpoint : String}
    {rest : Value → Handler α} :
    let x := answer.thenVerified calls sendError parseError endpoint verifyHash rest
    (∃ response, answer.verified calls.crypto verifyHash = .ok response ∧ x = rest response) ∨
      (answer.verified calls.crypto verifyHash = .err () ∧ ∃ e, x = .fail e) ∨
      answer.verified calls.crypto verifyHash = .panic ∧ x = .panicked := by
  cases answer with
  | unreachable text => exact .inr (.inl ⟨rfl, _, rfl⟩)
  | answered status reason json stream =>
    unfold NodeAnswer.verified NodeAnswer.jsonBody NodeAnswer.thenVerified NodeAnswer.success
    by_cases hs : isSuccess status = true
    · cases json with
      | error text =>
        simp only [hs, if_true]
        exact .inr (.inl ⟨trivial, _, rfl⟩)
      | ok response =>
        simp only [hs, if_true, Eff.pure_bind, parsed, Except.mapError, Eff.ofExcept_ok_bind]
        cases hv : verifyResponseHashAndSignature calls.crypto response verifyHash with
        | ok u => exact .inl ⟨response, rfl, rfl⟩
        | err e => exact .inr (.inl ⟨rfl, e, rfl⟩)
        | panic => exact .inr (.inr ⟨rfl, rfl⟩)
    · cases json with
      | error text | ok response =>
        simp only [hs, Bool.false_eq_true, if_false]
        exact .inr (.inl ⟨trivial, _, rfl⟩)

/-- The verification panics where a success says a hash that is not base64. -/
theorem verified_panic : answer.verified calls.crypto verifyHash = .panic ↔
    answer.jsonBody.any (Value.badResponseHash calls.crypto) = true := by
  unfold NodeAnswer.verified
  cases answer.jsonBody with
  | none => simp
  | some response =>
    rw [Option.any_some, ← @verifyResponse_panic _ _ verifyHash]
    dsimp only
    cases verifyResponseHashAndSignature calls.crypto response verifyHash <;> simp

theorem not_badResponseHash (h : answer.verified calls.crypto verifyHash ≠ .panic) :
    answer.jsonBody.any (Value.badResponseHash calls.crypto) = false :=
  (Bool.not_eq_true _).mp (mt verified_panic.2 h)

variable {metadata : RequestMetadataExtension} {stackSmallId : Int64}

theorem settle_ofStack (hstack : metadata.selectedStackSmallId = .some stackSmallId) (et t ei i eo o : Int64) :
    metadata.settle et t ei i eo o = .send (.updateStackNumTokens stackSmallId et t) := by
  rw [RequestMetadataExtension.settle, hstack]
  rfl

theorem inputTokens_ofNone (hinput : metadata.numInputTokens = .none) : metadata.inputTokens = 0 := by
  rw [RequestMetadataExtension.inputTokens, hinput]
  rfl

theorem totalTokens_ofNone (hinput : metadata.numInputTokens = .none) :
    metadata.totalTokens = metadata.outputTokens := by
  rw [RequestMetadataExtension.totalTokens, RequestMetadataExtension.outputTokens, hinput, Option.getD_none,
    UInt64.zero_add]

theorem inputTokens_add_outputTokens : metadata.inputTokens + metadata.outputTokens = metadata.totalTokens :=
  (UInt64.toInt64_add _ _).symm

/-- A task whose work is an error releases all. -/
theorem released_handlerTask_fail (hstack : metadata.selectedStackSmallId = .some stackSmallId) (e : AtomaProxyError)
    (endpoint : String) :
    released stackSmallId (handlerTask (.fail e) metadata.release endpoint).sent = metadata.totalTokens.toInt := by
  rw [handlerTask, Eff.sent_spawned, Eff.handle_err rfl, RequestMetadataExtension.release, settle_ofStack hstack,
    Eff.send_bind]
  simp [StateManagerEvent.releases]

/-- One whose work panics releases nothing. -/
theorem sent_handlerTask_panicked (onErr : Handler Unit) (endpoint : String) :
    (handlerTask .panicked onErr endpoint).sent = [] := rfl

/-- One whose work succeeds does nothing else. -/
theorem sent_handlerTask_ok (sent : List StateManagerEvent) (r : Response) (onErr : Handler Unit) (endpoint : String) :
    (handlerTask ⟨sent, .ok r⟩ onErr endpoint).sent = sent := rfl

theorem nonStreaming_cases {fiatTokens : Value → Int64 × Int64}
    (hstack : metadata.selectedStackSmallId = .some stackSmallId) :
    let x := handleNonStreamingResponse calls metadata answer verifyHash fiatTokens
    (∃ response, answer.verified calls.crypto verifyHash = .ok response ∧ ∃ input output total,
      x = ⟨[.updateNodeThroughputPerformance metadata.modelName input output,
        .updateStackNumTokens stackSmallId metadata.totalTokens total], .ok (.json response)⟩) ∨
      (answer.verified calls.crypto verifyHash = .err () ∧ ∃ e, x = .fail e) ∨
      answer.verified calls.crypto verifyHash = .panic ∧ x = .panicked := by
  dsimp only
  rw [handleNonStreamingResponse]
  rcases thenVerified_cases with ⟨response, hv, hx⟩ | hrest
  · refine .inl ⟨response, hv, usageTokens response "prompt_tokens", usageTokens response "completion_tokens",
      usageTokens response "total_tokens", hx.trans ?_⟩
    rw [settle_ofStack hstack, inputTokens_add_outputTokens]
    rfl
  · exact .inr hrest

theorem verifiedResponse_cases {what parseErrorMessage : String} {throughput : Value → Int64 × Int64} :
    let x := handleVerifiedResponse calls metadata answer what parseErrorMessage verifyHash throughput
    (∃ response, answer.verified calls.crypto verifyHash = .ok response ∧
      x = ⟨[.updateNodeThroughputPerformance metadata.modelName (throughput response).1 (throughput response).2],
        .ok response⟩) ∨
      (answer.verified calls.crypto verifyHash = .err () ∧ ∃ e, x = .fail e) ∨
      answer.verified calls.crypto verifyHash = .panic ∧ x = .panicked := thenVerified_cases

/-- The task that drives a stack's stream settles it once. -/
theorem released_task (hstack : metadata.selectedStackSmallId = .some stackSmallId) (stream : List Upstream) :
    released stackSmallId (Streamer.task calls.streamer metadata.streamer stream) = metadata.totalTokens.toInt := by
  obtain ⟨n, hinv⟩ := @settledOnce_drive calls.streamer metadata.streamer stream 0 (.new metadata.streamer) []
    (Streamer.settledOnce_new _)
  rw [List.nil_append] at hinv
  have hby : ∀ e, metadata.streamer.SettledBy e → e.releases stackSmallId = metadata.totalTokens.toInt := by
    intro e he
    unfold StreamerConfig.SettledBy at he
    rw [show metadata.streamer.stackSmallId = .some stackSmallId from hstack] at he
    obtain ⟨total, rfl⟩ := he
    show (if stackSmallId = stackSmallId then (metadata.inputTokens + metadata.outputTokens).toInt else 0) = _
    rw [if_pos rfl, inputTokens_add_outputTokens]
  rcases hd : (Streamer.new metadata.streamer).drive calls.streamer stream with ⟨s, sent⟩
  rw [hd] at hinv
  dsimp only at hinv
  rw [Streamer.task, hd, released_append]
  by_cases hf : s.isFinalChunkHandled = true
  · obtain ⟨_, e, he, hsettled⟩ := hinv.settled hf
    rw [he, Streamer.drop, if_pos hf, released_cons, hby e hsettled, released_nil, Int.add_zero, Int.add_zero]
  · rw [Bool.not_eq_true] at hf
    obtain ⟨e, he, hsettled⟩ := Streamer.drop_settles hinv.config hf fun hnone => by
      cases hstack.symm.trans hnone
    rw [hinv.pending hf, he, released_cons, hby e hsettled, released_nil, Int.zero_add, Int.add_zero]

/-- The task of a chat or a completion, streaming or not. -/
theorem released_generation {streaming : Bool} {fiatTokens : Value → Int64 × Int64} {endpoint : String}
    (hstack : metadata.selectedStackSmallId = .some stackSmallId) :
    released stackSmallId (handlerTask (if streaming = true then handleStreamingResponse calls metadata answer
      else handleNonStreamingResponse calls metadata answer verifyHash fiatTokens) metadata.release endpoint).sent =
      if streaming || !answer.jsonBody.any (Value.badResponseHash calls.crypto) then metadata.totalTokens.toInt
      else 0 := by
  cases streaming with
  | true =>
    rw [if_pos rfl, Bool.true_or, if_pos rfl]
    have hcases : (∃ stream, handleStreamingResponse calls metadata answer =
        ⟨Streamer.task calls.streamer metadata.streamer stream, .ok .events⟩) ∨
        ∃ e, handleStreamingResponse calls metadata answer = .fail e := by
      unfold handleStreamingResponse NodeAnswer.success
      cases answer with
      | unreachable text => exact .inr ⟨_, rfl⟩
      | answered status reason json stream =>
        by_cases hs : isSuccess status = true
        · simp only [hs, if_true, Eff.pure_bind]
          exact .inl ⟨stream, rfl⟩
        · simp only [hs, Bool.false_eq_true, if_false]
          exact .inr ⟨_, rfl⟩
    rcases hcases with ⟨stream, hx⟩ | ⟨e, hx⟩
    · rw [hx, sent_handlerTask_ok, released_task hstack]
    · rw [hx, released_handlerTask_fail hstack]
  | false =>
    rw [if_neg Bool.false_ne_true, Bool.false_or]
    rcases @nonStreaming_cases calls answer verifyHash metadata stackSmallId fiatTokens hstack with
      ⟨response, hv, input, output, total, hx⟩ | ⟨hv, e, hx⟩ | ⟨hv, hx⟩
    · have hgood := @not_badResponseHash calls answer verifyHash fun hpanic => by cases hv.symm.trans hpanic
      rw [hx, sent_handlerTask_ok, hgood]
      simp [StateManagerEvent.releases]
    · have hgood := @not_badResponseHash calls answer verifyHash fun hpanic => by cases hv.symm.trans hpanic
      rw [hx, released_handlerTask_fail hstack, hgood]
      rfl
    · rw [hx, sent_handlerTask_panicked, verified_panic.1 hv]
      rfl

/-- A task that settles its stack with the same estimate, however it ends. -/
theorem released_settlingTask {what parseErrorMessage : String} {throughput : Value → Int64 × Int64}
    {joinError : AtomaProxyError} {et t ei i eo o : Int64} {t' i' o' ei' eo' : Value → Int64}
    (hstack : metadata.selectedStackSmallId = .some stackSmallId) :
    released stackSmallId (Eff.spawned (do
      let response ← (handleVerifiedResponse calls metadata answer what parseErrorMessage verifyHash throughput).handle
        fun e => do
          metadata.settle et t ei i eo o
          .fail e
      metadata.settle et (t' response) (ei' response) (i' response) (eo' response) (o' response)
      pure (.json response)) joinError : Handler Response).sent =
      if answer.jsonBody.any (Value.badResponseHash calls.crypto) then 0 else et.toInt := by
  have hreleases : ∀ total, (StateManagerEvent.updateStackNumTokens stackSmallId et total).releases stackSmallId =
      et.toInt := fun _ => if_pos rfl
  rw [Eff.sent_spawned]
  rcases verifiedResponse_cases with ⟨response, hv, hx⟩ | ⟨hv, e, hx⟩ | ⟨hv, hx⟩
  · have hgood := @not_badResponseHash calls answer verifyHash fun hpanic => by cases hv.symm.trans hpanic
    rw [hx, Eff.handle_ok rfl, Eff.bind_ok _ rfl, hgood]
    dsimp only
    rw [settle_ofStack hstack, Eff.send_bind, released_append, released_cons, released_cons, hreleases]
    simp [StateManagerEvent.releases]
  · have hgood := @not_badResponseHash calls answer verifyHash fun hpanic => by cases hv.symm.trans hpanic
    rw [hx, Eff.handle_err rfl, settle_ofStack hstack, Eff.send_bind, Eff.bind_err _ rfl, hgood]
    exact (released_cons _ _).trans (by rw [hreleases]; simp)
  · rw [hx, Eff.handle_panic rfl, Eff.bind_panic _ rfl, verified_panic.1 hv]
    rfl

/-- The task of confidential embeddings: input tokens that nobody counted. -/
theorem released_embeddings (hstack : metadata.selectedStackSmallId = .some stackSmallId)
    (hinput : metadata.numInputTokens = .none) :
    released stackSmallId (confidentialEmbeddingsCreate calls metadata answer).sent = 0 := by
  unfold confidentialEmbeddingsCreate handleEmbeddingsResponse RequestMetadataExtension.releaseInput
  refine (released_settlingTask hstack).trans ?_
  rw [inputTokens_ofNone hinput]
  exact ite_self _

/-- The task of a confidential image, which settles where it fails. -/
theorem released_imageGenerations (hstack : metadata.selectedStackSmallId = .some stackSmallId)
    (hinput : metadata.numInputTokens = .none) :
    released stackSmallId (confidentialImageGenerationsCreate calls metadata answer).sent =
      if (answer.verified calls.crypto (metadata.endpoint ≠ confidentialImageGenerationsPath)).isErr = true then
        metadata.outputTokens.toInt
      else 0 := by
  rw [confidentialImageGenerationsCreate, handleImageGenerationResponse]
  rcases verifiedResponse_cases with ⟨response, hv, hx⟩ | ⟨hv, e, hx⟩ | ⟨hv, hx⟩
  · rw [hx, Eff.bind_ok _ rfl, hv]
    rfl
  · rw [hx, Eff.fail_bind, released_handlerTask_fail hstack, totalTokens_ofNone hinput, hv]
    rfl
  · rw [hx, Eff.panicked_bind, hv]
    rfl

end Handlers

/-- **What a confidential request's end releases of its stack.** -/
theorem released_confidentialHandler {calls : ServerCalls} {headers : Headers} {body : Value} {answer : NodeAnswer}
    {metadata : RequestMetadataExtension} {stackSmallId : Int64}
    (hstack : metadata.selectedStackSmallId = .some stackSmallId) (hinput : metadata.numInputTokens = .none) :
    released stackSmallId (confidentialHandler calls headers body answer metadata).sent =
      if releasesUnits calls headers body answer metadata.endpoint = true then metadata.outputTokens.toInt else 0 := by
  unfold confidentialHandler
  cases hpayload : jsonExtractor calls headers body with
  | error status =>
    unfold releasesUnits
    rw [hpayload]
    rfl
  | ok payload =>
    have hreleases : releasesUnits calls headers body answer metadata.endpoint =
        if metadata.endpoint = confidentialChatCompletionsPath ∨ metadata.endpoint = confidentialCompletionsPath then
          isStreaming payload || !answer.jsonBody.any (Value.badResponseHash calls.crypto)
        else if metadata.endpoint = confidentialEmbeddingsPath then false
        else (answer.verified calls.crypto (metadata.endpoint ≠ confidentialImageGenerationsPath)).isErr := by
      unfold releasesUnits
      rw [hpayload]
    dsimp only
    rw [sent_intoResponse, hreleases]
    by_cases hchat : metadata.endpoint = confidentialChatCompletionsPath
    · rw [if_pos hchat, if_pos (Or.inl hchat)]
      exact (totalTokens_ofNone hinput) ▸ released_generation hstack
    · rw [if_neg hchat]
      by_cases hcompletions : metadata.endpoint = confidentialCompletionsPath
      · rw [if_pos hcompletions, if_pos (Or.inr hcompletions)]
        exact (totalTokens_ofNone hinput) ▸ released_generation hstack
      · rw [if_neg hcompletions, if_neg (not_or.2 ⟨hchat, hcompletions⟩)]
        by_cases hembeddings : metadata.endpoint = confidentialEmbeddingsPath
        · rw [if_pos hembeddings, if_pos hembeddings]
          exact released_embeddings hstack hinput
        · rw [if_neg hembeddings, if_neg hembeddings]
          exact released_imageGenerations hstack hinput

/-- A stack that the request does not name is not settled. -/
theorem released_of_handlerEvent {metadata : RequestMetadataExtension} {stackSmallId : Int64}
    (hstack : metadata.selectedStackSmallId ≠ .some stackSmallId) {sent : List StateManagerEvent}
    (h : ∀ e ∈ sent, metadata.HandlerEvent e) : released stackSmallId sent = 0 := by
  refine released_eq_zero fun e he => ?_
  have hevent := h e he
  cases e with
  | updateStackNumTokens id estimated total =>
    refine if_neg fun hid => hstack ?_
    rw [← hid]
    exact hevent
  | _ => rfl

/-- What follows releases nothing. -/
theorem released_bind {α β : Type} {stackSmallId : Int64} {x : Handler α} {f : α → Handler β}
    (h : ∀ a, released stackSmallId (f a).sent = 0) :
    released stackSmallId (x >>= f).sent = released stackSmallId x.sent := by
  cases hend : x.ending with
  | ok a => rw [Eff.bind_ok _ hend, released_append, h a, Int.add_zero]
  | err e => rw [Eff.bind_err _ hend]
  | panic => rw [Eff.bind_panic _ hend]

theorem released_lockStack (stackSmallId : Int64) (headers : Headers) (endpoint : String) :
    released stackSmallId (headers.lockStack endpoint).sent = 0 := by
  unfold Headers.lockStack
  split
  · split
    · split <;> rfl
    · rfl
  · rfl

/-- The middleware that reads the node's status marks a stack, and releases nothing. -/
theorem released_handleLocked {calls : ServerCalls} {headers : Headers} {body : Value} {answer : NodeAnswer}
    {metadata : RequestMetadataExtension} {stackSmallId : Int64} (hauthorized : ∃ value, headers.authorization = .some value)
    (hsize : ¬ calls.serializedLength body > maxBodySize) :
    released stackSmallId (handleLockedConfidentialStack calls answer headers body metadata).sent =
      released stackSmallId
        (confidentialHandler calls { headers with authorization := .none } body answer metadata).sent := by
  obtain ⟨value, hvalue⟩ := hauthorized
  unfold handleLockedConfidentialStack
  rw [hvalue]
  dsimp only
  rw [if_neg hsize]
  refine released_bind fun response => ?_
  split
  · rw [released_bind fun _ => rfl]
    exact released_lockStack _ _ _
  · rfl
  · rfl

end AtomaProxy
