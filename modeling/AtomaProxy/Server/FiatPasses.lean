/-
A fiat request from its authentication on: every lock that is granted is
settled exactly once.

A request takes one pass through the authentication, and a second one where
its node answered 423 and the stack that the headers name was sent to be
locked. A pass settles its lock where both amounts are those the settlement
computes and the request, if it is prepared, reaches a handler that settles.
-/
import AtomaProxy.Server.HandlerEvents

namespace AtomaProxy

open Base

/-! ## Answers that are 423 -/

/-- The ending becomes the response 423, where a value that is no error becomes one of status `status`. -/
def IsLocked {α : Type} (status : α → Nat) : Ending AtomaProxyError α → Prop
  | .ok a => status a = 423
  | .err e => e.statusCode = 423
  | .panic => False

/-- The node answered 423. -/
def NodeAnswer.isLocked : NodeAnswer → Bool
  | .answered status .. => status == 423
  | .unreachable _ => false

theorem handleStatusCodeError_locked {status : Nat} {reason : Option String} {endpoint : String} :
    (handleStatusCodeError status reason endpoint).statusCode = 423 ↔ status = 423 := by
  unfold handleStatusCodeError
  dsimp only
  split <;> simp_all [AtomaProxyError.statusCode]

section Answered

variable {calls : HandlerCalls} {metadata : RequestMetadataExtension} {answer : NodeAnswer}

/-- The call of the node, and a rest that does not answer 423. -/
theorem isLocked_success {α : Type} {status : α → Nat} {sendError : String → AtomaProxyError} {endpoint : String}
    {rest : Except String Value × List Upstream → Handler α} (hsend : ∀ text, (sendError text).statusCode ≠ 423)
    (hrest : ∀ a, ¬ IsLocked status (rest a).ending) :
    IsLocked status (answer.success sendError endpoint >>= rest).ending ↔ answer.isLocked = true := by
  cases answer with
  | unreachable text => exact ⟨fun h => absurd h (hsend text), (nomatch ·)⟩
  | answered code reason json stream =>
    unfold NodeAnswer.success NodeAnswer.isLocked
    dsimp only
    by_cases hs : isSuccess code
    · rw [if_pos hs, Eff.pure_bind]
      refine ⟨fun h => absurd h (hrest _), fun h => ?_⟩
      obtain rfl : code = 423 := by simpa using h
      exact absurd hs (by decide)
    · rw [if_neg hs, Eff.fail_bind, beq_iff_eq]
      exact handleStatusCodeError_locked

/-- After the parse and the verification, which fail with 500, it is the rest that answers. -/
theorem not_isLocked_verified {α : Type} {status : α → Nat} {json : Except String Value} {verifyHash : Bool}
    {message : String → String} {clientMessage : Option String} {endpoint : String} {rest : Value → Handler α}
    (hrest : ∀ response, ¬ IsLocked status (rest response).ending) :
    ¬ IsLocked status (do
      let response ← parsed json fun text => .internalError (message text) clientMessage endpoint
      .ofEnding (verifyResponseHashAndSignature calls.crypto response verifyHash)
      rest response).ending := by
  cases json with
  | error text => exact fun h => absurd h (by decide : (500 : Nat) ≠ 423)
  | ok response =>
    dsimp only [parsed, Except.mapError]
    rw [Eff.ofExcept_ok_bind]
    cases hv : verifyResponseHashAndSignature calls.crypto response verifyHash with
    | ok a => exact hrest response
    | err e =>
      obtain ⟨text, rfl⟩ := verifyResponse_err hv
      exact fun h => absurd h (by decide : (500 : Nat) ≠ 423)
    | panic => exact id

theorem isLocked_nonStreaming {verifyHash : Bool} {fiatTokens : Value → Int64 × Int64} :
    IsLocked Response.status (handleNonStreamingResponse calls metadata answer verifyHash fiatTokens).ending ↔
      answer.isLocked = true := by
  refine isLocked_success (fun _ => (by decide : (429 : Nat) ≠ 423)) fun a => not_isLocked_verified fun response => ?_
  rw [Eff.send_bind, Eff.ending_bind]
  unfold Eff.handle
  split
  · exact fun h => absurd h (by decide : (200 : Nat) ≠ 423)
  · exact fun h => absurd h (by decide : (500 : Nat) ≠ 423)
  · exact id

theorem isLocked_streaming :
    IsLocked Response.status (handleStreamingResponse calls metadata answer).ending ↔ answer.isLocked = true :=
  isLocked_success (fun _ => (by decide : (429 : Nat) ≠ 423)) fun _ h => absurd h (by decide : (200 : Nat) ≠ 423)

theorem isLocked_verifiedResponse {what parseErrorMessage : String} {verifyHash : Bool}
    {throughput : Value → Int64 × Int64} :
    IsLocked (fun _ => 200) (handleVerifiedResponse calls metadata answer what parseErrorMessage verifyHash
      throughput).ending ↔ answer.isLocked = true :=
  isLocked_success (fun _ => (by decide : (500 : Nat) ≠ 423)) fun _ => not_isLocked_verified fun _ h =>
    absurd h (by decide : (200 : Nat) ≠ 423)

/-- Where the node answered 423 its call is an error. -/
theorem success_locked {α : Type} {sendError : String → AtomaProxyError} {endpoint : String}
    {rest : Except String Value × List Upstream → Handler α} (h : answer.isLocked = true) :
    ∃ e, (answer.success sendError endpoint >>= rest).ending = .err e := by
  cases answer with
  | unreachable text => cases h
  | answered code reason json stream =>
    obtain rfl : code = 423 := beq_iff_eq.1 h
    exact ⟨_, rfl⟩

/-- A task answers 423 where its node does and its error arm succeeds. -/
theorem isLocked_handlerTask {work : Handler Response} {onErr : Handler Unit}
    (hwork : IsLocked Response.status work.ending ↔ answer.isLocked = true)
    (hfails : answer.isLocked = true → ∃ e, work.ending = .err e)
    (herr : ∀ e, onErr.ending = .err e → e.statusCode ≠ 423) (endpoint : String) :
    IsLocked Response.status (handlerTask work onErr endpoint).ending ↔
      answer.isLocked = true ∧ onErr.ending = .ok () := by
  rw [handlerTask]
  cases hend : work.ending with
  | ok a =>
    rw [hend] at hwork
    rw [Eff.handle_ok hend]
    refine hwork.trans ⟨fun h => ?_, And.left⟩
    obtain ⟨e, he⟩ := hfails h
    cases hend.symm.trans he
  | err e =>
    rw [hend] at hwork
    rw [Eff.handle_err hend]
    cases honErr : onErr.ending with
    | ok u =>
      rw [Eff.bind_ok _ honErr]
      exact hwork.trans (and_iff_left rfl).symm
    | err e' =>
      rw [Eff.bind_err _ honErr]
      exact ⟨fun h => absurd h (herr e' honErr), fun h => by cases h.2⟩
    | panic =>
      rw [Eff.bind_panic _ honErr]
      exact ⟨fun h => absurd h (by decide : (500 : Nat) ≠ 423), fun h => by cases h.2⟩
  | panic =>
    rw [hend] at hwork
    rw [Eff.handle_panic hend]
    exact ⟨fun h => absurd h (by decide : (500 : Nat) ≠ 423), fun h => (hwork.2 h.1).elim⟩

/-- So does one that settles its answer. -/
theorem isLocked_settlingTask {work : Handler Value} {onErr : Handler Unit} {onOk : Value → Handler Unit}
    (hwork : IsLocked (fun _ => 200) work.ending ↔ answer.isLocked = true)
    (herr : ∀ e, onErr.ending = .err e → e.statusCode ≠ 423)
    (hok : ∀ response e, (onOk response).ending = .err e → e.statusCode ≠ 423) (endpoint : String) :
    IsLocked Response.status (Eff.spawned (do
      let response ← work.handle fun e => do
        onErr
        .fail e
      onOk response
      pure (.json response))
      (.internalError "Failed to spawn image generation task" .none endpoint) : Handler Response).ending ↔
      answer.isLocked = true ∧ onErr.ending = .ok () := by
  cases hend : work.ending with
  | ok a =>
    rw [hend] at hwork
    have hno : answer.isLocked ≠ true := fun h => absurd (hwork.2 h) (by decide : (200 : Nat) ≠ 423)
    rw [Eff.handle_ok hend, Eff.bind_ok _ rfl]
    refine ⟨fun h => ?_, fun h => absurd h.1 hno⟩
    cases honOk : (onOk a).ending with
    | ok u =>
      rw [Eff.bind_ok _ honOk] at h
      exact absurd h (by decide : (200 : Nat) ≠ 423)
    | err e =>
      rw [Eff.bind_err _ honOk] at h
      exact absurd h (hok a e honOk)
    | panic =>
      rw [Eff.bind_panic _ honOk] at h
      exact absurd h (by decide : (500 : Nat) ≠ 423)
  | err e =>
    rw [hend] at hwork
    rw [Eff.handle_err hend]
    cases honErr : onErr.ending with
    | ok u =>
      rw [Eff.bind_ok _ honErr, Eff.bind_err _ rfl]
      exact hwork.trans (and_iff_left rfl).symm
    | err e' =>
      rw [Eff.bind_err _ honErr, Eff.bind_err _ rfl]
      exact ⟨fun h => absurd h (herr e' honErr), fun h => by cases h.2⟩
    | panic =>
      rw [Eff.bind_panic _ honErr, Eff.bind_panic _ rfl]
      exact ⟨fun h => absurd h (by decide : (500 : Nat) ≠ 423), fun h => by cases h.2⟩
  | panic =>
    rw [hend] at hwork
    rw [Eff.handle_panic hend, Eff.bind_panic _ rfl]
    exact ⟨fun h => absurd h (by decide : (500 : Nat) ≠ 423), fun h => (hwork.2 h.1).elim⟩

theorem isLocked_intoResponse (x : Handler Response) :
    IsLocked Response.status (intoResponse x).ending ↔ IsLocked Response.status x.ending := by
  unfold intoResponse
  cases h : x.ending with
  | ok a => rw [Eff.handle_ok h]
  | err e =>
    rw [Eff.handle_err h]
    exact Iff.rfl
  | panic => rw [Eff.handle_panic h]

end Answered

/-! ## Requests that a stack pays for -/

/-- An event that is no lock and no settlement of a fiat balance. -/
def NotFiat (e : StateManagerEvent) : Prop := lockEvent e = .none

theorem lockEvents_of_sends {α : Type} {x : Handler α} (h : x.Sends NotFiat) : lockEvents x.sent = [] :=
  List.filterMap_eq_nil_iff.2 h

/-- What a stack pays for touches no fiat balance. -/
theorem notFiat_of_handlerEvent {metadata : RequestMetadataExtension} {stackSmallId : Int64}
    (hstack : metadata.selectedStackSmallId = .some stackSmallId) {e : StateManagerEvent}
    (h : metadata.HandlerEvent e) : NotFiat e := by
  cases e with
  | updateStackNumTokensFiat settlement => exact absurd (hstack.symm.trans h.1) (Option.some_ne_none _)
  | lockUserFiatBalance userId inputAmount outputAmount => exact h.elim
  | updateStackNumTokens id estimated total => rfl
  | updateNodeThroughputPerformance modelName inputTokens outputTokens => rfl
  | lockStack id => rfl

/-- The retry on a stack sends nothing of a fiat balance. -/
theorem lockEvents_retryOnStack (calls : ServerCalls) (answers : RequestAnswers) (headers : Headers) (body : Value)
    (metadata : RequestMetadataExtension) :
    lockEvents (retryOnStack calls answers headers body metadata).sent = [] := by
  refine lockEvents_of_sends ?_
  unfold retryOnStack
  refine Eff.Sends.bind (Eff.sends_of_nil (Eff.sent_ofExcept _)) fun node _ => ?_
  cases node.stackSmallId with
  | none => exact Eff.sends_of_nil rfl
  | some stackSmallId =>
    dsimp only
    split
    · next retried hretried =>
      have hstack : retried.selectedStackSmallId = .some stackSmallId := by
        unfold tryValidateStackForRequest prepareRequest at hretried
        obtain ⟨_, _, hretried⟩ := ok_bind_iff.1 hretried
        obtain ⟨_, _, hretried⟩ := ok_bind_iff.1 hretried
        obtain ⟨_, _, hretried⟩ := ok_bind_iff.1 hretried
        cases hretried
        rfl
      exact (sends_regularHandler calls headers body).mono fun _ => notFiat_of_handlerEvent hstack
    · exact Eff.Sends.bind (Eff.sends_send (show NotFiat _ from rfl)) fun _ _ => Eff.sends_of_nil rfl

/-! ## Where a fiat request's settlement succeeds -/

/-- A settlement of estimates that convert succeeds. -/
theorem updateStateManagerFiat_ok {u ei i eo o pi po : Int64} {m endpoint : String}
    (h : settlementOf u ei eo pi po ≠ []) (hi : i = ei ∨ ∃ a, fiatAmount i pi = .some a)
    (ho : o = eo ∨ ∃ a, fiatAmount o po = .some a) :
    (updateStateManagerFiat u ei i eo o pi po m endpoint).ending = .ok () := by
  have hsent := @lockEvents_settlement u ei i eo o pi po m endpoint hi ho
  rcases updateStateManagerFiat_cases u ei i eo o pi po m endpoint with ⟨_, hend⟩ | ⟨e, he⟩
  · exact hend
  · rw [he] at hsent
    exact absurd hsent.symm h

/-- An amount that does not convert is an internal error. -/
theorem convertAmount_err {t p : Int64} {w endpoint : String} {e : AtomaProxyError}
    (h : (convertAmount t p w endpoint).ending = .err e) : e.statusCode = 500 := by
  unfold convertAmount at h
  split at h
  · cases h
  · cases h
    rfl

theorem updateStateManagerFiat_err {u ei i eo o pi po : Int64} {m endpoint : String} {e : AtomaProxyError}
    (h : (updateStateManagerFiat u ei i eo o pi po m endpoint).ending = .err e) : e.statusCode = 500 := by
  -- the first of the four conversions that fails
  have hbind : ∀ {t p : Int64} {w : String} {rest : Int64 → Handler Unit},
      (∀ a, (rest a).ending = .err e → e.statusCode = 500) →
      (convertAmount t p w endpoint >>= rest).ending = .err e → e.statusCode = 500 := by
    intro t p w rest hrest hend
    rw [Eff.ending_bind] at hend
    cases hc : (convertAmount t p w endpoint).ending with
    | ok a =>
      rw [hc] at hend
      exact hrest a hend
    | err e' =>
      rw [hc] at hend
      cases hend
      exact convertAmount_err hc
    | panic =>
      rw [hc] at hend
      cases hend
  refine hbind (fun _ => hbind fun _ => hbind fun _ => hbind fun _ hsent => ?_) h
  cases hsent

theorem settle_err {metadata : RequestMetadataExtension} {et t ei i eo o : Int64} (e : AtomaProxyError)
    (h : (metadata.settle et t ei i eo o).ending = .err e) : e.statusCode ≠ 423 := by
  unfold RequestMetadataExtension.settle at h
  split at h
  · cases h
  · rw [updateStateManagerFiat_err h]
    decide

/-- Releasing a fiat request's estimates succeeds where their amounts convert. -/
theorem release_ok_iff {metadata : RequestMetadataExtension} (hfiat : metadata.selectedStackSmallId = .none)
    {et t : Int64} : (metadata.settle et t metadata.inputTokens 0 metadata.outputTokens 0).ending = .ok () ↔
      metadata.settlement ≠ [] := by
  rw [settle_fiat hfiat]
  refine ⟨fun h hnil => ?_, fun h => updateStateManagerFiat_ok h (.inr (converts_zero _)) (.inr (converts_zero _))⟩
  rcases updateStateManagerFiat_cases metadata.userId metadata.inputTokens 0 metadata.outputTokens 0
    metadata.pricePerOneMillionInputComputeUnits metadata.pricePerOneMillionOutputComputeUnits metadata.modelName
    metadata.endpoint with ⟨hsent, _⟩ | ⟨e, he⟩
  · unfold RequestMetadataExtension.settlement settlementOf at hnil
    have hnone : fiatAmount metadata.inputTokens metadata.pricePerOneMillionInputComputeUnits = .none ∨
        fiatAmount metadata.outputTokens metadata.pricePerOneMillionOutputComputeUnits = .none := by
      cases hi : fiatAmount metadata.inputTokens metadata.pricePerOneMillionInputComputeUnits with
      | none => exact .inl rfl
      | some i =>
        cases ho : fiatAmount metadata.outputTokens metadata.pricePerOneMillionOutputComputeUnits with
        | none => exact .inr rfl
        | some o =>
          rw [hi, ho] at hnil
          cases hnil
    obtain ⟨e, he⟩ := @updateStateManagerFiat_of_none metadata.userId metadata.inputTokens 0 metadata.outputTokens 0
      metadata.pricePerOneMillionInputComputeUnits metadata.pricePerOneMillionOutputComputeUnits metadata.modelName
      metadata.endpoint (hnone.imp id .inl)
    rw [he] at h
    cases h
  · rw [he] at h
    cases h

/-- A request that the extractor rejects is not answered 423. -/
theorem rejection_ne_locked {calls : ServerCalls} {headers : Headers} {body : Value} {status : Nat}
    (h : jsonExtractor calls headers body = .error status) : status ≠ 423 := by
  unfold jsonExtractor at h
  split at h
  · cases h
    decide
  · split at h
    · cases h
      decide
    · split at h
      · cases h
        decide
      · cases h

/-- A regular handler of a fiat request answers 423 where its node does and its amounts convert. -/
theorem isLocked_regularHandler {calls : ServerCalls} {headers : Headers} {body : Value} {answer : NodeAnswer}
    {metadata : RequestMetadataExtension} (hfiat : metadata.selectedStackSmallId = .none)
    (hembeddings : metadata.endpoint = embeddingsPath → metadata.outputTokens = 0) :
    IsLocked Response.status (regularHandler calls headers body answer metadata).ending ↔
      (jsonExtractor calls headers body).isOk ∧ answer.isLocked = true ∧ metadata.settlement ≠ [] := by
  have hrelease := @release_ok_iff metadata hfiat metadata.totalTokens 0
  cases hj : jsonExtractor calls headers body with
  | error status =>
    rw [regularHandler, hj]
    exact ⟨fun h => absurd h (rejection_ne_locked hj), fun h => by cases h.1⟩
  | ok payload =>
    rw [regularHandler, hj]
    dsimp only
    have haccepted : (Except.ok payload : Except Nat Value).isOk = true := rfl
    rw [isLocked_intoResponse, and_iff_right haccepted]
    by_cases hc : metadata.endpoint = completionsPath
    · rw [if_pos hc, ← hrelease]
      refine isLocked_handlerTask ?_ ?_ settle_err _
      · unfold handleCompletionsRequest
        split
        · exact isLocked_streaming
        · exact isLocked_nonStreaming
      · unfold handleCompletionsRequest
        split <;> exact success_locked
    · rw [if_neg hc]
      by_cases hch : metadata.endpoint = chatCompletionsPath
      · rw [if_pos hch, ← hrelease]
        refine isLocked_handlerTask ?_ ?_ settle_err _
        · unfold handleChatCompletionsRequest
          split
          · exact isLocked_streaming
          · exact isLocked_nonStreaming
        · unfold handleChatCompletionsRequest
          split <;> exact success_locked
      · rw [if_neg hch]
        by_cases he : metadata.endpoint = embeddingsPath
        · have hinput := @release_ok_iff metadata hfiat metadata.inputTokens 0
          rw [hembeddings he] at hinput
          rw [if_pos he, ← hinput]
          exact isLocked_settlingTask isLocked_verifiedResponse settle_err (fun _ => settle_err) _
        · rw [if_neg he, ← hrelease]
          exact isLocked_settlingTask isLocked_verifiedResponse settle_err (fun _ => settle_err) _

/-! ## A pass -/

/-- What a pass is to lock, from a body that names its limit. -/
def PassAnswers.quoted (p : PassAnswers) (headers : Headers) (body : Value) (endpoint : String) :
    Except AtomaProxyError StackMetadata := do
  let request ← requestModelOf endpoint body
  quote { p.auth with checkAuth := checkAuth headers p.auth.checkAuth endpoint } request endpoint

/-- The lock is granted. -/
def PassAnswers.granted (p : PassAnswers) : Bool :=
  match p.lockReply with
  | .ok granted => granted
  | .error _ => false

/-- The settlement of what was locked, where its amounts convert. -/
def StackMetadata.settled (m : StackMetadata) : List LockEvent :=
  settlementOf m.userId m.numInputTokens.toInt64 m.maxOutputTokens.toInt64 m.pricePerOneMillionInputComputeUnits
    m.pricePerOneMillionOutputComputeUnits

/-- Both amounts are what the settlement computes. -/
def StackMetadata.Fits (m : StackMetadata) : Prop :=
  ProductFits m.numInputTokens m.pricePerOneMillionInputComputeUnits ∧
    ProductFits m.maxOutputTokens m.pricePerOneMillionOutputComputeUnits

/-- The settlement carries the locked amounts exactly where they fit. -/
theorem StackMetadata.settled_iff {m : StackMetadata} :
    m.settled = [.settled m.userId m.lockedInput m.lockedOutput] ↔ m.Fits := by
  unfold StackMetadata.settled settlementOf StackMetadata.Fits StackMetadata.lockedInput StackMetadata.lockedOutput
  rw [← fiatAmount_eq_locked, ← fiatAmount_eq_locked]
  cases fiatAmount m.numInputTokens.toInt64 m.pricePerOneMillionInputComputeUnits with
  | none => simp
  | some input =>
    cases fiatAmount m.maxOutputTokens.toInt64 m.pricePerOneMillionOutputComputeUnits with
    | none => simp
    | some output => simp

/-- There is at most one settlement, and it is one. -/
theorem StackMetadata.settled_cases (m : StackMetadata) : m.settled = [] ∨ ∃ i o, m.settled = [.settled m.userId i o] := by
  unfold StackMetadata.settled settlementOf
  split
  · exact .inr ⟨_, _, rfl⟩
  · exact .inl rfl

theorem quoted_authorization {p : PassAnswers} {headers : Headers} {body : Value} {endpoint : String}
    {m : StackMetadata} (h : p.quoted headers body endpoint = .ok m) :
    ∃ value, headers.authorization = .some value := by
  obtain ⟨request, _, h⟩ := ok_bind_iff.1 h
  obtain ⟨userId, h, _⟩ := ok_bind_iff.1 h
  dsimp only [checkAuth] at h
  cases ha : headers.authorization with
  | none =>
    rw [ha] at h
    cases h
  | some value => exact ⟨value, rfl⟩

/-- An embeddings request has no output to lock for. -/
theorem quoted_embeddings {p : PassAnswers} {headers : Headers} {body : Value} {m : StackMetadata}
    (h : p.quoted headers body embeddingsPath = .ok m) : m.maxOutputTokens = 0 := by
  obtain ⟨request, hrequest, h⟩ := ok_bind_iff.1 h
  obtain ⟨userId, _, h⟩ := ok_bind_iff.1 h
  obtain ⟨tokenizer, _, h⟩ := ok_bind_iff.1 h
  obtain ⟨estimate, hestimate, h⟩ := ok_bind_iff.1 h
  obtain ⟨node, _, h⟩ := ok_bind_iff.1 h
  obtain ⟨pricing, _, h⟩ := ok_bind_iff.1 h
  cases h
  show estimate.maxOutputTokens = 0
  rw [requestModelOf, if_neg (by decide), if_neg (by decide), if_pos rfl] at hrequest
  cases hnew : RequestModelEmbeddings.new body with
  | error e =>
    rw [hnew] at hrequest
    cases hrequest
  | ok r =>
    rw [hnew] at hrequest
    cases hrequest
    dsimp only [RequestModelEmbeddings.toRequestModel] at hestimate
    unfold RequestModelEmbeddings.getComputeUnitsEstimate at hestimate
    split at hestimate
    · cases hestimate
    · split at hestimate
      · cases hestimate
        rfl
      · cases hestimate

/-- A prepared request is settled as it was locked. -/
theorem createFiatRequest_ok {p : PassAnswers} {body : Value} {m : StackMetadata} {endpoint : String}
    {metadata : RequestMetadataExtension} (h : createFiatRequest p body m endpoint = .ok metadata) :
    metadata.selectedStackSmallId = .none ∧ metadata.endpoint = endpoint ∧
      metadata.outputTokens = m.maxOutputTokens.toInt64 ∧ metadata.settlement = m.settled := by
  unfold createFiatRequest prepareRequest at h
  obtain ⟨_, _, h⟩ := ok_bind_iff.1 h
  obtain ⟨_, _, h⟩ := ok_bind_iff.1 h
  obtain ⟨_, _, h⟩ := ok_bind_iff.1 h
  cases h
  exact ⟨rfl, rfl, rfl, rfl⟩

/-- What a pass sends. -/
theorem sent_authenticate (p : PassAnswers) (headers : Headers) (body : Value) (endpoint : String)
    (next : Value → RequestMetadataExtension → Handler Response) :
    (authenticateMiddleware p headers body endpoint next).sent =
      match p.quoted headers (withDefaultMaxTokens body) endpoint with
      | .error _ => []
      | .ok m => .lockUserFiatBalance m.userId m.lockedInput m.lockedOutput ::
          if p.granted then
            (afterLock p (withDefaultMaxTokens body) m endpoint (next (withDefaultMaxTokens body))).sent
          else [] := by
  rw [authenticateMiddleware, Eff.sent_spawned, handleAuthenticateAndLockComputeUnits]
  unfold PassAnswers.quoted
  generalize withDefaultMaxTokens body = body
  cases hrequest : requestModelOf endpoint body with
  | error e => rfl
  | ok request =>
    rw [Eff.ofExcept_ok_bind]
    dsimp only [bind, Except.bind]
    generalize hauth : ({ p.auth with checkAuth := checkAuth headers p.auth.checkAuth endpoint } : AuthAnswers) = a
    cases hquote : quote a request endpoint with
    | error e =>
      rw [authenticateAndLockComputeUnits, hquote]
      rfl
    | ok m =>
      rw [authenticateAndLock_eq hquote]
      unfold PassAnswers.granted
      cases hreply : p.lockReply with
      | error e => rfl
      | ok granted => cases granted <;> rfl

/-- What a pass adds to the trace. -/
theorem lockEvents_authenticate (p : PassAnswers) (headers : Headers) (body : Value) (endpoint : String)
    (next : Value → RequestMetadataExtension → Handler Response) :
    lockEvents (authenticateMiddleware p headers body endpoint next).sent =
      match p.quoted headers (withDefaultMaxTokens body) endpoint with
      | .error _ => []
      | .ok m => .locked m.userId m.lockedInput m.lockedOutput ::
          if p.granted then
            lockEvents (afterLock p (withDefaultMaxTokens body) m endpoint (next (withDefaultMaxTokens body))).sent
          else [] := by
  rw [sent_authenticate]
  cases p.quoted headers (withDefaultMaxTokens body) endpoint with
  | error e => rfl
  | ok m => cases p.granted <;> rfl

/-- The pass settles its lock: its amounts fit, and what it prepares is handled as `Handled` says. -/
def PassAnswers.Settles (p : PassAnswers) (headers : Headers) (body : Value) (endpoint : String)
    (Handled : RequestMetadataExtension → Prop) : Prop :=
  ∀ m, p.quoted headers body endpoint = .ok m → p.granted = true →
    m.Fits ∧ ∀ metadata, createFiatRequest p body m endpoint = .ok metadata → Handled metadata

/-- The trace does not begin with a settlement. -/
def NotSettled (events : List LockEvent) : Prop := ∀ u i o rest, events ≠ .settled u i o :: rest

theorem notSettled_nil : NotSettled [] := fun _ _ _ _ => (nomatch ·)

theorem eachLockSettled_granted {grants : List Bool} {u i o : Int64} {settled more : List LockEvent}
    (hs : settled = [] ∨ ∃ i' o', settled = [.settled u i' o']) (hmore : NotSettled more) :
    EachLockSettled (true :: grants) (.locked u i o :: (settled ++ more)) ↔
      settled = [.settled u i o] ∧ EachLockSettled grants more := by
  constructor
  · intro h
    rcases hs with rfl | ⟨i', o', rfl⟩
    · rw [List.nil_append] at h
      cases h
      exact absurd rfl (hmore u i o _)
    · rw [List.singleton_append] at h
      cases h with
      | granted h => exact ⟨rfl, h⟩
  · intro h
    obtain ⟨rfl, h⟩ := h
    exact .granted h

/-- **A pass, and what comes after it.** -/
theorem eachLockSettled_pass {p : PassAnswers} {headers : Headers} {body : Value} {endpoint : String}
    {next : Value → RequestMetadataExtension → Handler Response} {grants : List Bool}
    {Handled : RequestMetadataExtension → Prop}
    (hnext : ∀ m metadata, p.quoted headers (withDefaultMaxTokens body) endpoint = .ok m →
      createFiatRequest p (withDefaultMaxTokens body) m endpoint = .ok metadata → ∃ (settles : Bool) (more : List LockEvent),
        lockEvents (next (withDefaultMaxTokens body) metadata).sent =
            (if settles then metadata.settlement else []) ++ more ∧ NotSettled more ∧
          (m.Fits → (Handled metadata ↔ settles = true ∧ EachLockSettled grants more))) :
    EachLockSettled (p.granted :: grants) (lockEvents (authenticateMiddleware p headers body endpoint next).sent) ↔
      p.Settles headers (withDefaultMaxTokens body) endpoint Handled := by
  rw [lockEvents_authenticate]
  generalize withDefaultMaxTokens body = body at *
  unfold PassAnswers.Settles
  cases hquoted : p.quoted headers body endpoint with
  | error e => exact ⟨fun _ m => (nomatch ·), fun _ => .nil⟩
  | ok m =>
    cases hgranted : p.granted with
    | false => exact ⟨fun _ _ _ => (nomatch ·), fun _ => .refused .nil⟩
    | true =>
      have hfits : m.settled = [.settled m.userId m.lockedInput m.lockedOutput] ↔ m.Fits := m.settled_iff
      simp only [if_true, Except.ok.injEq, forall_eq', true_implies, afterLock]
      cases hcreate : createFiatRequest p body m endpoint with
      | error e =>
        have hsent : lockEvents (do
            updateStateManagerFiat m.userId m.numInputTokens.toInt64 0 m.maxOutputTokens.toInt64 0
              m.pricePerOneMillionInputComputeUnits m.pricePerOneMillionOutputComputeUnits m.model endpoint
            .fail e : Handler Response).sent = m.settled ++ [] := by
          rw [Eff.sent_bind_of_quiet fun _ => rfl, List.append_nil]
          exact lockEvents_settlement (.inr (converts_zero _)) (.inr (converts_zero _))
        dsimp only
        rw [hsent, eachLockSettled_granted m.settled_cases notSettled_nil, hfits]
        exact ⟨fun h => ⟨h.1, fun _ => (nomatch ·)⟩, fun h => ⟨h.1, .nil⟩⟩
      | ok metadata =>
        obtain ⟨settles, more, hsent, hmore, hiff⟩ := hnext m metadata hquoted hcreate
        obtain ⟨_, _, _, hsettlement⟩ := createFiatRequest_ok hcreate
        rw [hsettlement] at hsent
        dsimp only
        rw [hsent]
        simp only [Except.ok.injEq, forall_eq']
        cases settles with
        | false =>
          rw [if_neg Bool.false_ne_true, eachLockSettled_granted (.inl rfl) hmore]
          exact ⟨fun h => (nomatch h.1), fun h => (nomatch ((hiff h.1).1 h.2).1)⟩
        | true =>
          rw [if_pos rfl, eachLockSettled_granted m.settled_cases hmore, hfits]
          exact ⟨fun h => ⟨h.1, (hiff h.1).2 ⟨rfl, h.2⟩⟩, fun h => ⟨h.1, ((hiff h.1).1 h.2).2⟩⟩

theorem notSettled_authenticate (p : PassAnswers) (headers : Headers) (body : Value) (endpoint : String)
    (next : Value → RequestMetadataExtension → Handler Response) :
    NotSettled (lockEvents (authenticateMiddleware p headers body endpoint next).sent) := by
  rw [lockEvents_authenticate]
  intro u i o rest h
  split at h <;> cases h

/-! ## The request -/

/-- A task's response is one, whatever its task ended with. -/
theorem ending_intoResponse_spawned (x : Handler Response) (e : AtomaProxyError) :
    ∃ response, (intoResponse (x.spawned e)).ending = .ok response := by
  unfold intoResponse Eff.handle Eff.spawned
  cases x.ending <;> exact ⟨_, rfl⟩

/-- A regular handler ends with a response. -/
theorem ending_regularHandler (calls : ServerCalls) (headers : Headers) (body : Value) (answer : NodeAnswer)
    (metadata : RequestMetadataExtension) :
    ∃ response, (regularHandler calls headers body answer metadata).ending = .ok response := by
  unfold regularHandler
  split
  · exact ⟨_, rfl⟩
  · split
    · exact ending_intoResponse_spawned _ _
    · split
      · exact ending_intoResponse_spawned _ _
      · split <;> exact ending_intoResponse_spawned _ _

/-- What the request goes on with once its first node answered. -/
def afterAnswer (calls : ServerCalls) (answers : RequestAnswers) (headers : Headers) (body : Value)
    (metadata : RequestMetadataExtension) (response : Response) : Handler Response :=
  match response.status with
  | 423 => do
    headers.lockStack metadata.endpoint
    authenticateMiddleware answers.second { headers with stackSmallId := .none } body metadata.endpoint
      fun body => regularHandler calls { headers with stackSmallId := .none } body answers.secondNode
  | 425 => retryOnStack calls answers headers body metadata
  | _ => pure response

theorem handleLockedStackMiddleware_eq {calls : ServerCalls} {answers : RequestAnswers} {headers : Headers}
    {body : Value} {metadata : RequestMetadataExtension} {value : String} (h : headers.authorization = .some value) :
    handleLockedStackMiddleware calls answers headers body metadata =
      if calls.serializedLength body > maxBodySize then
        .fail (.requestError "The body is too big: length limit exceeded" metadata.endpoint)
      else
        regularHandler calls { headers with authorization := .none } body answers.firstNode metadata >>=
          afterAnswer calls answers headers body metadata := by
  rcases headers with ⟨authorization, contentType, stackSmallId⟩
  cases h
  rfl

/-- A body that the middleware finds too big is one that the extractor rejects. -/
theorem not_isOk_of_tooBig {calls : ServerCalls} {headers : Headers} {body : Value}
    (h : calls.serializedLength body > maxBodySize) : ¬ (jsonExtractor calls headers body).isOk := by
  unfold jsonExtractor
  split
  · exact Bool.false_ne_true
  · split
    · exact Bool.false_ne_true
    · rw [if_pos (Nat.lt_trans (by decide : defaultBodyLimit < maxBodySize) h)]
      exact Bool.false_ne_true

/-- Every granted lock of the request is settled: its first pass is, and where its node answered 423 and the
stack of its headers was sent to be locked, the second one is too. -/
def RequestSettles (calls : ServerCalls) (answers : RequestAnswers) (headers : Headers) (body : Value)
    (endpoint : String) : Prop :=
  let again := { headers with stackSmallId := .none }
  let bodyAgain := withDefaultMaxTokens (withDefaultMaxTokens body)
  answers.first.Settles headers (withDefaultMaxTokens body) endpoint fun metadata =>
    HandlerSettles calls { headers with authorization := .none } (withDefaultMaxTokens body) answers.firstNode metadata ∧
      (answers.firstNode.isLocked = true → (headers.lockStack endpoint).ending = .ok () →
        answers.second.Settles again bodyAgain endpoint (HandlerSettles calls again bodyAgain answers.secondNode))

theorem settlement_ne_nil {m : StackMetadata} (h : m.Fits) : m.settled ≠ [] := by
  rw [StackMetadata.settled_iff.2 h]
  exact (nomatch ·)

/-- A prepared embeddings request has no output tokens. -/
theorem outputTokens_of_embeddings {p : PassAnswers} {headers : Headers} {body : Value} {endpoint : String}
    {m : StackMetadata} {metadata : RequestMetadataExtension} (hquoted : p.quoted headers body endpoint = .ok m)
    (hcreate : createFiatRequest p body m endpoint = .ok metadata) :
    metadata.endpoint = embeddingsPath → metadata.outputTokens = 0 := by
  obtain ⟨_, hendpoint, hout, _⟩ := createFiatRequest_ok hcreate
  intro he
  rw [hendpoint] at he
  subst he
  rw [hout, quoted_embeddings hquoted]
  rfl

/-- The second pass, whose handler is the last. -/
theorem eachLockSettled_lastPass (calls : ServerCalls) (p : PassAnswers) (headers : Headers) (body : Value)
    (endpoint : String) (answer : NodeAnswer) :
    EachLockSettled [p.granted] (lockEvents (authenticateMiddleware p headers body endpoint fun body =>
      regularHandler calls headers body answer).sent) ↔
      p.Settles headers (withDefaultMaxTokens body) endpoint
        (HandlerSettles calls headers (withDefaultMaxTokens body) answer) := by
  refine eachLockSettled_pass fun m metadata hquoted hcreate => ?_
  have hembeddings := outputTokens_of_embeddings hquoted hcreate
  obtain ⟨hfiat, _, _, _⟩ := createFiatRequest_ok hcreate
  refine ⟨decide (HandlerSettles calls headers (withDefaultMaxTokens body) answer metadata), [], ?_, notSettled_nil,
    fun _ => ⟨fun h => ⟨decide_eq_true h, .nil⟩, fun h => of_decide_eq_true h.1⟩⟩
  rw [List.append_nil, lockEvents_regularHandler hfiat hembeddings]
  simp only [decide_eq_true_eq]

/-- What comes after the first answer does not begin with a settlement, and it is a pass after a 423. -/
theorem afterAnswer_spec (calls : ServerCalls) (answers : RequestAnswers) (headers : Headers) (body : Value)
    (metadata : RequestMetadataExtension) (response : Response) :
    NotSettled (lockEvents (afterAnswer calls answers headers body metadata response).sent) ∧
      (EachLockSettled [answers.second.granted]
          (lockEvents (afterAnswer calls answers headers body metadata response).sent) ↔
        (response.status = 423 → (headers.lockStack metadata.endpoint).ending = .ok () →
          answers.second.Settles { headers with stackSmallId := .none } (withDefaultMaxTokens body) metadata.endpoint
            (HandlerSettles calls { headers with stackSmallId := .none } (withDefaultMaxTokens body)
              answers.secondNode))) := by
  by_cases h423 : response.status = 423
  · have hafter : afterAnswer calls answers headers body metadata response = (do
        headers.lockStack metadata.endpoint
        authenticateMiddleware answers.second { headers with stackSmallId := .none } body metadata.endpoint
          fun body => regularHandler calls { headers with stackSmallId := .none } body answers.secondNode) := by
      rw [afterAnswer, h423]
      rfl
    have hlock : lockEvents (headers.lockStack metadata.endpoint).sent = [] := by
      unfold Headers.lockStack
      split
      · split
        · split <;> rfl
        · rfl
      · rfl
    rw [hafter]
    simp only [h423, true_implies]
    cases hend : (headers.lockStack metadata.endpoint).ending with
    | ok a =>
      rw [Eff.bind_ok _ hend]
      dsimp only
      rw [lockEvents_append, hlock, List.nil_append]
      exact ⟨notSettled_authenticate _ _ _ _ _, (eachLockSettled_lastPass calls answers.second _ body _ _).trans
        ⟨fun h _ => h, fun h => h rfl⟩⟩
    | err e =>
      rw [Eff.bind_err _ hend, hlock]
      exact ⟨notSettled_nil, fun _ => (nomatch ·), fun _ => .nil⟩
    | panic =>
      rw [Eff.bind_panic _ hend, hlock]
      exact ⟨notSettled_nil, fun _ => (nomatch ·), fun _ => .nil⟩
  · have hafter : lockEvents (afterAnswer calls answers headers body metadata response).sent = [] := by
      unfold afterAnswer
      split
      · next h => exact absurd h h423
      · exact lockEvents_retryOnStack calls answers headers body metadata
      · rfl
    rw [hafter]
    exact ⟨notSettled_nil, fun _ h => absurd h h423, fun _ => .nil⟩

/-- A library without signatures, where "!" is not base64. -/
def responseCryptoExample : ResponseCrypto where
  signatureFromStr := fun _ => .error "invalid signature"
  publicKeyFromBytes := fun _ _ => .ok ()
  schemeKeyFromBytes := fun _ _ => .ok ()
  schemeSignatureFromBytes := fun _ _ => .ok ()
  verify := fun _ _ _ _ => .error "signature error"
  decodeBase64 := fun text => if text = "!" then .none else .some []
  blake2 := fun _ => []

def serverCallsExample : ServerCalls where
  crypto := responseCryptoExample
  fromStr := fun _ => .error ⟨true, "EOF while parsing a value"⟩
  isJsonContentType := fun text => text == "application/json"
  serializedLength := fun _ => 100

def headersExample : Headers := ⟨.some "Bearer token", .some "application/json", .none⟩

/-- A chat of at most 8192 tokens at a price of 1 a token, whose node answers a success with the hash "!". -/
def requestAnswersExample : RequestAnswers where
  first := ⟨answersExample 1000000, .ok true, .ok ⟨"http://node", "signature"⟩⟩
  firstNode := .answered 200 (.some "OK") (.ok (.object [("response_hash", .string "!")])) []
  second := ⟨answersExample 1000000, .ok true, .ok ⟨"http://node", "signature"⟩⟩
  retryStack := .error (.notFound "no stack" chatCompletionsPath)
  retryProcess := .ok ⟨"http://node", "signature"⟩
  secondNode := .unreachable "connection refused"

end AtomaProxy
