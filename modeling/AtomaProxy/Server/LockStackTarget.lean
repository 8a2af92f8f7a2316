/-
Which stacks a request asks to be locked.

`handle_locked_stack_middleware` takes the stack from a header of the request.
The middleware before it records the stack that pays, in the metadata, and sets
that header on none of its paths: a fiat request has no stack, and the stack of
a confidential one is in its body. So the header is the client's, and where the
node answers 423 the stack it names is locked. After that a request is not
handled by this middleware again: a second authentication and a retry lead to
the handler.
-/
import AtomaProxy.Server.FiatPasses

namespace AtomaProxy

open Base

/-- The stacks that a request asks to be locked. -/
def lockedStack : StateManagerEvent → Option Int64
  | .lockStack stackSmallId => .some stackSmallId
  | _ => .none

def lockedStacks (sent : List StateManagerEvent) : List Int64 := sent.filterMap lockedStack

/-- The stack that the headers name. -/
def Headers.namedStack (headers : Headers) : Option Int64 :=
  (headers.stackSmallId.bind headerToStr).bind fun text => parseI64 text.toList

/-- The metadata of a request that the authentication lets go on, from a body that names its limit. -/
def PassAnswers.admitted (p : PassAnswers) (headers : Headers) (body : Value) (endpoint : String) :
    Option RequestMetadataExtension :=
  match p.quoted headers body endpoint with
  | .ok m => if p.granted then (createFiatRequest p body m endpoint).toOption else .none
  | .error _ => .none

/-- A request of a client, with what its calls are answered. -/
inductive ClientRequest where
  | regular (answers : RequestAnswers)
  | confidential (answers : ConfidentialAnswers) (node : NodeAnswer) (locks : Locks) (now : Instant) (pick : Nat)

namespace ClientRequest

variable (calls : ConfidentialCalls) (headers : Headers) (body : Value) (endpoint : String)

/-- The request from its first middleware on. -/
def handled : ClientRequest → Handler Response
  | .regular answers => regularRequest calls.toServerCalls answers headers body endpoint
  | .confidential answers node locks now pick =>
    confidentialRequest calls answers node headers body endpoint locks now pick

/-- The metadata that its first middleware records, where it lets the request go on. -/
def metadata : ClientRequest → Option RequestMetadataExtension
  | .regular answers => answers.first.admitted headers (withDefaultMaxTokens body) endpoint
  | .confidential answers _ locks now pick =>
    ((confidentialComputeMiddleware calls answers headers body endpoint locks now pick).result.toOption).map Prod.fst

/-- Its handler takes the body, its node answers 423, and what it pays with can be released. -/
def AnsweredLocked (metadata : RequestMetadataExtension) : ClientRequest → Prop
  | .regular answers =>
    (jsonExtractor calls.toServerCalls { headers with authorization := .none } (withDefaultMaxTokens body)).isOk ∧
      answers.firstNode.isLocked = true ∧ metadata.settlement ≠ []
  | .confidential _ node _ _ _ =>
    (jsonExtractor calls.toServerCalls { headers with authorization := .none } body).isOk ∧ node.isLocked = true

instance (metadata : RequestMetadataExtension) (r : ClientRequest) :
    Decidable (r.AnsweredLocked calls headers body metadata) := by
  unfold AnsweredLocked
  split <;> infer_instance

end ClientRequest

/-! ## What is sent -/

theorem lockedStacks_append (xs ys : List StateManagerEvent) :
    lockedStacks (xs ++ ys) = lockedStacks xs ++ lockedStacks ys := List.filterMap_append

theorem mem_lockedStacks {sent : List StateManagerEvent} {id : Int64} :
    id ∈ lockedStacks sent ↔ .lockStack id ∈ sent := by
  rw [lockedStacks, List.mem_filterMap]
  constructor
  · intro h
    obtain ⟨e, he, hid⟩ := h
    cases e with
    | lockStack k =>
      cases hid
      exact he
    | lockUserFiatBalance | updateStackNumTokensFiat | updateStackNumTokens | updateNodeThroughputPerformance =>
      cases hid
  · intro h
    exact ⟨_, h, rfl⟩

theorem lockedStacks_of_sends {α : Type} {x : Handler α} (h : x.Sends fun e => lockedStack e = .none) :
    lockedStacks x.sent = [] := List.filterMap_eq_nil_iff.2 h

/-- A handler asks for no stack to be locked. -/
theorem lockedStacks_of_handler {metadata : RequestMetadataExtension} {x : Handler Response}
    (h : x.Sends metadata.HandlerEvent) : lockedStacks x.sent = [] := by
  refine lockedStacks_of_sends (h.mono fun e he => ?_)
  cases e with
  | lockStack id => exact he.elim
  | lockUserFiatBalance | updateStackNumTokensFiat | updateStackNumTokens | updateNodeThroughputPerformance => rfl

/-- The middleware asks for the stack that the headers name. -/
theorem lockedStacks_lockStack (headers : Headers) (endpoint : String) {rest : Unit → Handler Response}
    (hrest : lockedStacks (rest ()).sent = []) :
    lockedStacks (headers.lockStack endpoint >>= rest).sent = headers.namedStack.toList := by
  unfold Headers.lockStack Headers.namedStack
  cases headers.stackSmallId with
  | none => rfl
  | some value =>
    dsimp only [Option.bind]
    cases headerToStr value with
    | none => rfl
    | some text =>
      dsimp only
      cases parseI64 text.toList with
      | none => rfl
      | some id =>
        show lockedStacks (.lockStack id :: (rest ()).sent) = [id]
        rw [← hrest]
        rfl

theorem lockedStacks_authenticate (p : PassAnswers) (headers : Headers) (body : Value) (endpoint : String)
    (next : Value → RequestMetadataExtension → Handler Response) :
    lockedStacks (authenticateMiddleware p headers body endpoint next).sent =
      match p.admitted headers (withDefaultMaxTokens body) endpoint with
      | .some metadata => lockedStacks (next (withDefaultMaxTokens body) metadata).sent
      | .none => [] := by
  rw [sent_authenticate]
  unfold PassAnswers.admitted
  generalize withDefaultMaxTokens body = body
  cases p.quoted headers body endpoint with
  | error e => rfl
  | ok m =>
    dsimp only
    cases p.granted with
    | false => rfl
    | true =>
      rw [if_pos rfl, if_pos rfl, afterLock]
      cases hcreate : createFiatRequest p body m endpoint with
      | error e =>
        refine List.filterMap_eq_nil_iff.2 fun e he => ?_
        rcases List.mem_cons.1 he with rfl | he
        · rfl
        · have hsends : ∀ x : Handler Response, x.sent = [] → x.Sends fun e => lockedStack e = .none :=
            fun _ => Eff.sends_of_nil
          exact (sends_fiat fun _ _ => rfl).bind (fun _ _ => hsends _ rfl) e he
      | ok metadata => rfl

/-- A retry on another stack asks for none to be locked. -/
theorem lockedStacks_retry (calls : ServerCalls) (answers : RequestAnswers) (headers : Headers) (body : Value)
    (metadata : RequestMetadataExtension) :
    lockedStacks (retryOnStack calls answers headers body metadata).sent = [] := by
  unfold retryOnStack
  cases answers.retryStack with
  | error e => rfl
  | ok node =>
    rw [Eff.ofExcept_ok_bind]
    cases node.stackSmallId with
    | none => rfl
    | some stackSmallId =>
      dsimp only
      split
      · exact lockedStacks_of_handler (sends_regularHandler calls headers body)
      · rfl

/-- What a response leads to, where it is 423 and where it is not. -/
theorem lockedStacks_after {x : Handler Response} {rest : Response → Handler Response} {ids : List Int64}
    (hx : lockedStacks x.sent = []) (hend : ∃ response, x.ending = .ok response)
    (hlocked : ∀ response, response.status = 423 → lockedStacks (rest response).sent = ids)
    (hother : ∀ response, response.status ≠ 423 → lockedStacks (rest response).sent = []) {P : Prop} [Decidable P]
    (hP : IsLocked Response.status x.ending ↔ P) :
    lockedStacks (x >>= rest).sent = if P then ids else [] := by
  obtain ⟨response, hresponse⟩ := hend
  rw [Eff.bind_ok _ hresponse]
  dsimp only
  rw [lockedStacks_append, hx, List.nil_append]
  rw [hresponse] at hP
  by_cases h : P
  · rw [if_pos h, hlocked response (hP.2 h)]
  · rw [if_neg h, hother response fun hs => h (hP.1 hs)]

/-- A request to a regular route. -/
theorem lockedStacks_regular (calls : ServerCalls) (answers : RequestAnswers) (headers : Headers) (body : Value)
    (metadata : RequestMetadataExtension) (hauth : ∃ value, headers.authorization = .some value)
    (hfiat : metadata.selectedStackSmallId = .none)
    (hembeddings : metadata.endpoint = embeddingsPath → metadata.outputTokens = 0) :
    lockedStacks (handleLockedStackMiddleware calls answers headers body metadata).sent =
      if (jsonExtractor calls { headers with authorization := .none } body).isOk ∧
          answers.firstNode.isLocked = true ∧ metadata.settlement ≠ [] then headers.namedStack.toList else [] := by
  obtain ⟨value, hauth⟩ := hauth
  rw [handleLockedStackMiddleware_eq hauth]
  by_cases hsize : calls.serializedLength body > maxBodySize
  · rw [if_pos hsize, if_neg fun h => not_isOk_of_tooBig hsize h.1]
    rfl
  · rw [if_neg hsize]
    refine lockedStacks_after (lockedStacks_of_handler (sends_regularHandler calls _ body))
      (ending_regularHandler calls _ body answers.firstNode metadata) (fun response h => ?_) (fun response h => ?_)
      (isLocked_regularHandler hfiat hembeddings)
    · rw [afterAnswer, h]
      refine lockedStacks_lockStack headers _ ?_
      rw [lockedStacks_authenticate]
      split
      · exact lockedStacks_of_handler (sends_regularHandler calls _ _)
      · rfl
    · unfold afterAnswer
      split
      · next h423 => exact absurd h423 h
      · exact lockedStacks_retry calls answers headers body metadata
      · rfl

theorem isLocked_json {x : Handler Value} :
    IsLocked Response.status (x >>= fun response => pure (.json response)).ending ↔ IsLocked (fun _ => 200) x.ending := by
  rw [Eff.ending_bind]
  cases x.ending <;> exact Iff.rfl

/-- A confidential handler answers 423 where its node does. -/
theorem isLocked_confidentialHandler {calls : ServerCalls} {headers : Headers} {body : Value} {answer : NodeAnswer}
    {metadata : RequestMetadataExtension} {stackSmallId : Int64}
    (hstack : metadata.selectedStackSmallId = .some stackSmallId) :
    IsLocked Response.status (confidentialHandler calls headers body answer metadata).ending ↔
      (jsonExtractor calls headers body).isOk ∧ answer.isLocked = true := by
  have hok : ∀ et t ei i eo o, (metadata.settle et t ei i eo o).ending = .ok () := by
    intro et t ei i eo o
    rw [RequestMetadataExtension.settle, hstack]
    rfl
  have hrelease : metadata.release.ending = .ok () := hok _ _ _ _ _ _
  cases hj : jsonExtractor calls headers body with
  | error status =>
    rw [confidentialHandler, hj]
    exact ⟨fun h => absurd h (rejection_ne_locked hj), fun h => by cases h.1⟩
  | ok payload =>
    rw [confidentialHandler, hj]
    dsimp only
    have haccepted : (Except.ok payload : Except Nat Value).isOk = true := rfl
    rw [isLocked_intoResponse, and_iff_right haccepted]
    by_cases hch : metadata.endpoint = confidentialChatCompletionsPath
    · rw [if_pos hch, ← and_iff_left (a := answer.isLocked = true) hrelease]
      refine isLocked_handlerTask ?_ ?_ settle_err _
      · unfold handleChatCompletionsRequest
        split
        · exact isLocked_streaming
        · exact isLocked_nonStreaming
      · unfold handleChatCompletionsRequest
        split <;> exact success_locked
    · rw [if_neg hch]
      by_cases hc : metadata.endpoint = confidentialCompletionsPath
      · rw [if_pos hc, ← and_iff_left (a := answer.isLocked = true) hrelease]
        refine isLocked_handlerTask ?_ ?_ settle_err _
        · unfold handleCompletionsRequest
          split
          · exact isLocked_streaming
          · exact isLocked_nonStreaming
        · unfold handleCompletionsRequest
          split <;> exact success_locked
      · rw [if_neg hc]
        by_cases he : metadata.endpoint = confidentialEmbeddingsPath
        · rw [if_pos he, ← and_iff_left (a := answer.isLocked = true)
            (hok metadata.inputTokens 0 metadata.inputTokens 0 0 0)]
          exact isLocked_settlingTask isLocked_verifiedResponse settle_err (fun _ => settle_err) _
        · rw [if_neg he, ← and_iff_left (a := answer.isLocked = true) hrelease]
          refine isLocked_handlerTask ?_ ?_ settle_err _
          · exact isLocked_json.trans isLocked_verifiedResponse
          · intro hlocked
            obtain ⟨e, hend⟩ := success_locked hlocked
            exact ⟨e, by rw [Eff.ending_bind, handleImageGenerationResponse, handleVerifiedResponse, hend]; rfl⟩

/-- A confidential handler ends with a response. -/
theorem ending_confidentialHandler (calls : ServerCalls) (headers : Headers) (body : Value) (answer : NodeAnswer)
    (metadata : RequestMetadataExtension) :
    ∃ response, (confidentialHandler calls headers body answer metadata).ending = .ok response := by
  unfold confidentialHandler
  split
  · exact ⟨_, rfl⟩
  · split
    · exact ending_intoResponse_spawned _ _
    · split
      · exact ending_intoResponse_spawned _ _
      · split <;> exact ending_intoResponse_spawned _ _

/-- A request to a confidential route. -/
theorem lockedStacks_confidential (calls : ServerCalls) (answer : NodeAnswer) (headers : Headers) (body : Value)
    (metadata : RequestMetadataExtension) (hauth : ∃ value, headers.authorization = .some value)
    {stackSmallId : Int64} (hstack : metadata.selectedStackSmallId = .some stackSmallId) :
    lockedStacks (handleLockedConfidentialStack calls answer headers body metadata).sent =
      if (jsonExtractor calls { headers with authorization := .none } body).isOk ∧ answer.isLocked = true then
        headers.namedStack.toList
      else [] := by
  obtain ⟨value, hauth⟩ := hauth
  unfold handleLockedConfidentialStack
  rw [hauth]
  dsimp only
  by_cases hsize : calls.serializedLength body > maxBodySize
  · rw [if_pos hsize, if_neg fun h => not_isOk_of_tooBig hsize h.1]
    rfl
  · rw [if_neg hsize]
    refine lockedStacks_after (lockedStacks_of_handler (sends_confidentialHandler calls _ body))
      (ending_confidentialHandler calls _ body answer metadata) (fun response h => ?_) (fun response h => ?_)
      (isLocked_confidentialHandler hstack)
    · rw [h]
      exact lockedStacks_lockStack headers _ rfl
    · split
      · next h423 => exact absurd h423 h
      · rfl
      · rfl

namespace ClientRequest

variable {calls : ConfidentialCalls} {headers : Headers} {body : Value} {endpoint : String}

/-- **What a request asks to be locked**: what its headers name, where it is answered 423. -/
theorem lockedStacks_handled (r : ClientRequest) :
    lockedStacks (r.handled calls headers body endpoint).sent =
      match r.metadata calls headers body endpoint with
      | .some metadata => if r.AnsweredLocked calls headers body metadata then headers.namedStack.toList else []
      | .none => [] := by
  cases r with
  | regular answers =>
    show lockedStacks (regularRequest _ answers headers body endpoint).sent = _
    rw [regularRequest, lockedStacks_authenticate]
    unfold ClientRequest.metadata
    dsimp only
    cases hadmitted : answers.first.admitted headers (withDefaultMaxTokens body) endpoint with
    | none => rfl
    | some metadata =>
      dsimp only
      unfold PassAnswers.admitted at hadmitted
      cases hquoted : answers.first.quoted headers (withDefaultMaxTokens body) endpoint with
      | error e =>
        rw [hquoted] at hadmitted
        cases hadmitted
      | ok m =>
        rw [hquoted] at hadmitted
        dsimp only at hadmitted
        split at hadmitted
        · cases hcreate : createFiatRequest answers.first (withDefaultMaxTokens body) m endpoint with
          | error e =>
            rw [hcreate] at hadmitted
            cases hadmitted
          | ok metadata' =>
            rw [hcreate] at hadmitted
            cases hadmitted
            rw [sent_intoResponse]
            exact lockedStacks_regular calls.toServerCalls answers headers _ metadata (quoted_authorization hquoted)
              (createFiatRequest_ok hcreate).1 (outputTokens_of_embeddings hquoted hcreate)
        · cases hadmitted
  | confidential answers node locks now pick =>
    show lockedStacks (confidentialRequest _ answers node headers body endpoint locks now pick).sent = _
    unfold ClientRequest.metadata confidentialRequest
    dsimp only
    rw [Eff.sent_spawned, Eff.bind_ok _ rfl]
    dsimp only
    rw [lockedStacks_append]
    have hpruned : lockedStacks
        (confidentialComputeMiddleware calls answers headers body endpoint locks now pick).sent = [] := by
      refine List.filterMap_eq_nil_iff.2 fun e he => ?_
      obtain ⟨id, units, rfl⟩ := sends_takenIn e he
      rfl
    rw [hpruned, List.nil_append]
    cases hresult : (confidentialComputeMiddleware calls answers headers body endpoint locks now pick).result with
    | error e => rfl
    | ok p =>
      obtain ⟨metadata, lock⟩ := p
      obtain ⟨request, hprepared, _⟩ := confidentialComputeMiddleware_ok hresult
      obtain ⟨hauth, _, _, hstack, _⟩ := prepareConfidentialRequest_ok hprepared
      rw [Eff.ofExcept_ok_bind]
      dsimp only
      rw [sent_intoResponse]
      exact lockedStacks_confidential calls.toServerCalls node headers body metadata hauth hstack

/-- **Main result.** Every stack that a request asks to be locked is the one its metadata records exactly if, where
it is answered 423, the headers name none or that one. -/
theorem locks_selected_stack_iff (calls : ConfidentialCalls) (r : ClientRequest) (headers : Headers) (body : Value)
    (endpoint : String) :
    (∀ id, .lockStack id ∈ (r.handled calls headers body endpoint).sent →
        ∃ metadata, r.metadata calls headers body endpoint = .some metadata ∧
          metadata.selectedStackSmallId = .some id) ↔
      ∀ metadata, r.metadata calls headers body endpoint = .some metadata →
        r.AnsweredLocked calls headers body metadata → ∀ id, headers.namedStack = .some id →
          metadata.selectedStackSmallId = .some id := by
  simp only [← mem_lockedStacks, lockedStacks_handled]
  cases r.metadata calls headers body endpoint with
  | none => exact ⟨fun _ _ => (nomatch ·), fun _ _ h => (nomatch h)⟩
  | some metadata =>
    simp only [Option.some.injEq, exists_eq_left', forall_eq']
    by_cases h : r.AnsweredLocked calls headers body metadata
    · rw [if_pos h]
      simp only [Option.mem_toList, h, true_implies]
    · rw [if_neg h]
      simp only [List.not_mem_nil, false_implies, implies_true, h]

end ClientRequest

/-- A library that reads every body as a request for 100 units of stack 1. -/
def confidentialCallsExample : ConfidentialCalls where
  toServerCalls := serverCallsExample
  parseRequest := fun _ => .ok ⟨1, "aGFzaA==", "model", .some 100⟩
  decodeHash := fun _ => .ok (ascii "hash")
  signHash := fun _ => .ok "signature"

/-- A chat that a fiat balance pays for, whose node answers 423, and whose headers name stack 5. -/
theorem locks_selected_stack_fails : ¬ ∀ (calls : ConfidentialCalls) (r : ClientRequest) (headers : Headers)
    (body : Value) (endpoint : String) (id : Int64),
    .lockStack id ∈ (r.handled calls headers body endpoint).sent →
      ∃ metadata, r.metadata calls headers body endpoint = .some metadata ∧
        metadata.selectedStackSmallId = .some id := by
  intro h
  let answers := { requestAnswersExample with firstNode := .answered 423 .none (.error "not JSON") [] }
  let headers := { headersExample with stackSmallId := .some "5" }
  have hsent : .lockStack 5 ∈ ((ClientRequest.regular answers).handled confidentialCallsExample headers
      (bodyExample 8192) chatCompletionsPath).sent := by decide
  obtain ⟨metadata, hmetadata, hstack⟩ := h _ _ _ _ _ _ hsent
  have hnone : ((ClientRequest.regular answers).metadata confidentialCallsExample headers (bodyExample 8192)
      chatCompletionsPath).bind RequestMetadataExtension.selectedStackSmallId = .none := by decide
  rw [hmetadata] at hnone
  exact nomatch hstack.symm.trans hnone

end AtomaProxy
