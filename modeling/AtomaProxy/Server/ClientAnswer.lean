/-
What a client is answered, and what it depends on. An error keeps the text
that is logged apart from what its client is told; the errors of the database,
of the chain and of the connection to a node are told as a code and a text of
their own. So two runs of a request whose calls fail for different reasons are
answered alike, and the same is locked and settled in both.
-/
import AtomaProxy.Base.TwoRuns
import AtomaProxy.Server.ApiTokens
import AtomaProxy.Server.FiatPasses

namespace AtomaProxy

open Base

/-! ## What a client sees -/

/-- A response as it is sent, an error as its status, its code and its text. -/
inductive ClientAnswer where
  | json (body : Value)
  | events
  | error (status : Nat) (code message : String)
  | rejection (status : Nat)

/-- `AtomaProxyError::into_response`. -/
def AtomaProxyError.toClient (e : AtomaProxyError) : ClientAnswer := .error e.statusCode e.errorCode e.clientMessage

def Response.toClient : Response → ClientAnswer
  | .json body => .json body
  | .events => .events
  | .error e => e.toClient
  | .rejection status => .rejection status

/-- The client cannot tell the errors apart. -/
def AtomaProxyError.Alike (e e' : AtomaProxyError) : Prop := e.toClient = e'.toClient

/-- Nor the responses. -/
def Response.Alike (r r' : Response) : Prop := r.toClient = r'.toClient

theorem AtomaProxyError.Alike.refl (e : AtomaProxyError) : e.Alike e := rfl

theorem Response.Alike.refl (r : Response) : r.Alike r := rfl

/-- The logged text of an internal error is not told. -/
theorem alike_internalError (message message' endpoint endpoint' : String) (clientMessage : Option String) :
    (AtomaProxyError.internalError message clientMessage endpoint).Alike
      (.internalError message' clientMessage endpoint') := rfl

/-- A client that cannot tell two responses apart sees one status. -/
theorem Response.Alike.status {r r' : Response} (h : r.Alike r') : r.status = r'.status := by
  have hstatus : ∀ r : Response, r.status = match r.toClient with
      | .json _ | .events => 200
      | .error status _ _ => status
      | .rejection status => status := by
    intro r
    cases r <;> rfl
  rw [hstatus r, hstatus r', h]

/-! ## Calls that are answered alike -/

abbrev AnswersAlike {α : Type} (x y : Except AtomaProxyError α) : Prop := ExceptAlike AtomaProxyError.Alike x y

/-- The answers to the calls before a lock differ in what their errors keep to themselves. -/
structure AuthAnswers.Alike (a b : AuthAnswers) : Prop where
  checkAuth : AnswersAlike a.checkAuth b.checkAuth
  tokenizers : a.tokenizers = b.tokenizers
  getCheapestNode : ∀ model, AnswersAlike (a.getCheapestNode model) (b.getCheapestNode model)
  getCustomPricing : ∀ userId model, AnswersAlike (a.getCustomPricing userId model) (b.getCustomPricing userId model)

structure PassAnswers.Alike (p q : PassAnswers) : Prop where
  auth : p.auth.Alike q.auth
  lockReply : AnswersAlike p.lockReply q.lockReply
  processSelectedStack : AnswersAlike p.processSelectedStack q.processSelectedStack

/-- The node answers the same, or is not reached or not understood, for whatever reason. What else an answer that
is no success carries, its body, may differ. -/
inductive NodeAnswer.Alike : NodeAnswer → NodeAnswer → Prop
  | unreachable (text text' : String) : NodeAnswer.Alike (.unreachable text) (.unreachable text')
  | failed {status : Nat} (reason : Option String) (json json' : Except String Value) (stream stream' : List Upstream) :
      isSuccess status = false →
        NodeAnswer.Alike (.answered status reason json stream) (.answered status reason json' stream')
  | answered (status : Nat) (reason : Option String) (stream : List Upstream) {json json' : Except String Value} :
      ExceptAlike (fun _ _ => True) json json' →
        NodeAnswer.Alike (.answered status reason json stream) (.answered status reason json' stream)

structure RequestAnswers.Alike (a b : RequestAnswers) : Prop where
  first : a.first.Alike b.first
  firstNode : a.firstNode.Alike b.firstNode
  second : a.second.Alike b.second
  retryStack : AnswersAlike a.retryStack b.retryStack
  retryProcess : AnswersAlike a.retryProcess b.retryProcess
  secondNode : a.secondNode.Alike b.secondNode

/-- Two computations that lock and settle the same, and end in what a client cannot tell apart. -/
abbrev HandlersAlike {α : Type} (R : α → α → Prop) (x y : Handler α) : Prop := x.Alike AtomaProxyError.Alike R y

/-- A check of a token that fails is told as a refusal of the token, whatever its error. -/
theorem checkAuthReply_alike (debug debug' : StatementError → String) (endpoint : String) (e e' : StatementError) :
    AnswersAlike (checkAuthReply debug endpoint (.some (.error e))) (checkAuthReply debug' endpoint (.some (.error e'))) :=
  rfl

/-! ## The pass -/

section Pass

variable {p q : PassAnswers}

/-- The check of the headers is alike where what it is answered with is. -/
theorem checkAuth_alike {a b : AuthAnswers} (h : a.Alike b) (headers : Headers) (endpoint : String) :
    AuthAnswers.Alike { a with checkAuth := checkAuth headers a.checkAuth endpoint }
      { b with checkAuth := checkAuth headers b.checkAuth endpoint } := by
  refine { h with checkAuth := ?_ }
  dsimp only [checkAuth]
  split
  · split
    · exact h.checkAuth
    · exact .refl AtomaProxyError.Alike.refl _
  · exact .refl AtomaProxyError.Alike.refl _

theorem quote_alike {a b : AuthAnswers} (h : a.Alike b) (request : RequestModel) (endpoint : String) :
    AnswersAlike (quote a request endpoint) (quote b request endpoint) := by
  have htokenizer : requestTokenizer a request endpoint = requestTokenizer b request endpoint := by
    rw [requestTokenizer, requestTokenizer, h.tokenizers]
  unfold quote
  rw [htokenizer]
  exact h.checkAuth.bind fun userId => (ExceptAlike.refl AtomaProxyError.Alike.refl _).bind fun tokenizer =>
    (ExceptAlike.refl AtomaProxyError.Alike.refl _).bind fun estimate => (h.getCheapestNode _).bind fun node =>
      (h.getCustomPricing _ _).bind fun pricing => .refl AtomaProxyError.Alike.refl _

/-- The lock of a request: what it locks does not depend on why it fails. -/
theorem authenticateAndLock_alike {a b : AuthAnswers} {request : RequestModel} {endpoint : String}
    {reply reply' : Except AtomaProxyError Bool} (h : a.Alike b) (hreply : AnswersAlike reply reply') :
    HandlersAlike Eq (authenticateAndLockComputeUnits a request endpoint fun _ _ _ _ => reply)
      (authenticateAndLockComputeUnits b request endpoint fun _ _ _ _ => reply') := by
  unfold authenticateAndLockComputeUnits
  refine (Eff.alike_ofExcept (quote_alike h request endpoint)).bind fun m m' hm => ?_
  subst hm
  refine (Eff.Alike.refl AtomaProxyError.Alike.refl (fun _ => rfl) _).bind (S := Eq) fun _ _ _ => ?_
  refine (Eff.alike_ofExcept hreply).bind fun locked locked' hlocked => ?_
  subst hlocked
  exact .refl AtomaProxyError.Alike.refl (fun _ => rfl) _

theorem prepareRequest_alike {processed processed' : Except AtomaProxyError ProcessedRequest}
    (h : AnswersAlike processed processed') (body : Value) (node : Int64) (stackSmallId : Option Int64)
    (inputPrice outputPrice : Int64) (inputTokens outputTokens : UInt64) (userId : Int64) (endpoint : String) :
    AnswersAlike
      (prepareRequest processed body node stackSmallId inputPrice outputPrice inputTokens outputTokens userId endpoint)
      (prepareRequest processed' body node stackSmallId inputPrice outputPrice inputTokens outputTokens userId endpoint) :=
  h.bind fun _ => .refl AtomaProxyError.Alike.refl _

theorem afterLock_alike (h : AnswersAlike p.processSelectedStack q.processSelectedStack) (body : Value)
    (m : StackMetadata) (endpoint : String) {next next' : RequestMetadataExtension → Handler Response}
    (hnext : ∀ metadata, HandlersAlike Response.Alike (next metadata) (next' metadata)) :
    HandlersAlike Response.Alike (afterLock p body m endpoint next) (afterLock q body m endpoint next') := by
  have hcreate : AnswersAlike (createFiatRequest p body m endpoint) (createFiatRequest q body m endpoint) :=
    prepareRequest_alike h _ _ _ _ _ _ _ _ _
  unfold afterLock
  generalize createFiatRequest p body m endpoint = x at hcreate
  generalize createFiatRequest q body m endpoint = y at hcreate
  cases x with
  | ok metadata =>
    cases y with
    | ok metadata' =>
      obtain rfl : metadata = metadata' := hcreate
      exact hnext metadata
    | error e => exact hcreate.elim
  | error e =>
    cases y with
    | ok metadata' => exact hcreate.elim
    | error e' =>
      exact (Eff.Alike.refl AtomaProxyError.Alike.refl (fun _ => rfl) _).bind (S := Response.Alike) fun _ _ _ =>
        Eff.alike_fail hcreate

theorem authenticate_alike (h : p.Alike q) (headers : Headers) (body : Value) (endpoint : String)
    {next next' : Value → RequestMetadataExtension → Handler Response}
    (hnext : ∀ body metadata, HandlersAlike Response.Alike (next body metadata) (next' body metadata)) :
    HandlersAlike Response.Alike (authenticateMiddleware p headers body endpoint next)
      (authenticateMiddleware q headers body endpoint next') := by
  refine Eff.Alike.spawned ?_ (AtomaProxyError.Alike.refl _)
  have hlock : HandlersAlike Eq
      (handleAuthenticateAndLockComputeUnits { p.auth with checkAuth := checkAuth headers p.auth.checkAuth endpoint }
        (withDefaultMaxTokens body) endpoint fun _ _ _ _ => p.lockReply)
      (handleAuthenticateAndLockComputeUnits { q.auth with checkAuth := checkAuth headers q.auth.checkAuth endpoint }
        (withDefaultMaxTokens body) endpoint fun _ _ _ _ => q.lockReply) := by
    unfold handleAuthenticateAndLockComputeUnits
    refine (Eff.Alike.refl AtomaProxyError.Alike.refl (fun _ => rfl) _).bind (S := Eq) fun request request' hrequest => ?_
    obtain rfl : request = request' := hrequest
    exact authenticateAndLock_alike (checkAuth_alike h.auth headers endpoint) h.lockReply
  refine hlock.bind fun m m' hm => ?_
  obtain rfl : m = m' := hm
  exact afterLock_alike h.processSelectedStack _ m endpoint fun metadata => hnext _ metadata

end Pass

/-! ## The handlers -/

section Handlers

variable {answer answer' : NodeAnswer}

theorem success_alike (h : answer.Alike answer') {sendError : String → AtomaProxyError}
    (hsend : ∀ text text', (sendError text).Alike (sendError text')) (endpoint : String) :
    HandlersAlike (fun body body' => ExceptAlike (fun _ _ => True) body.1 body'.1 ∧ body.2 = body'.2)
      (answer.success sendError endpoint) (answer'.success sendError endpoint) := by
  cases h with
  | unreachable text text' => exact Eff.alike_fail (hsend text text')
  | failed reason json json' stream stream' hstatus =>
    dsimp only [NodeAnswer.success]
    rw [hstatus]
    exact Eff.alike_fail (AtomaProxyError.Alike.refl _)
  | answered status reason stream hjson =>
    dsimp only [NodeAnswer.success]
    split
    · exact Eff.alike_pure ⟨hjson, rfl⟩
    · exact Eff.alike_fail (AtomaProxyError.Alike.refl _)

theorem parsed_alike {json json' : Except String Value} (h : ExceptAlike (fun _ _ => True) json json')
    {parseError : String → AtomaProxyError} (hparse : ∀ text text', (parseError text).Alike (parseError text')) :
    HandlersAlike Eq (parsed json parseError) (parsed json' parseError) :=
  Eff.alike_ofExcept (h.mapError fun text text' _ => hparse text text')

theorem intoResponse_alike {x y : Handler Response} (h : HandlersAlike Response.Alike x y) :
    HandlersAlike Response.Alike (intoResponse x) (intoResponse y) :=
  h.handle fun _ _ he => Eff.alike_pure he

theorem handlerTask_alike {work work' : Handler Response} (h : HandlersAlike Response.Alike work work')
    (onErr : Handler Unit) (endpoint : String) :
    HandlersAlike Response.Alike (handlerTask work onErr endpoint) (handlerTask work' onErr endpoint) :=
  (h.handle fun _ _ he => (Eff.Alike.refl AtomaProxyError.Alike.refl (fun _ => rfl) onErr).bind (S := Response.Alike)
    fun _ _ _ => Eff.alike_fail he).spawned (AtomaProxyError.Alike.refl _)

variable (calls : HandlerCalls) (metadata : RequestMetadataExtension)

theorem handleNonStreamingResponse_alike (h : answer.Alike answer') (verifyHash : Bool)
    (fiatTokens : Value → Int64 × Int64) :
    HandlersAlike Response.Alike (handleNonStreamingResponse calls metadata answer verifyHash fiatTokens)
      (handleNonStreamingResponse calls metadata answer' verifyHash fiatTokens) := by
  unfold handleNonStreamingResponse
  refine (success_alike h (by exact fun _ _ => rfl) _).bind fun body body' hbody => ?_
  refine (parsed_alike hbody.1 (by exact fun _ _ => rfl)).bind fun response response' hresponse => ?_
  obtain rfl : response = response' := hresponse
  exact .refl AtomaProxyError.Alike.refl Response.Alike.refl _

theorem handleStreamingResponse_alike (h : answer.Alike answer') :
    HandlersAlike Response.Alike (handleStreamingResponse calls metadata answer)
      (handleStreamingResponse calls metadata answer') := by
  unfold handleStreamingResponse
  refine (success_alike h (by exact fun _ _ => rfl) _).bind fun body body' hbody => ?_
  dsimp only
  rw [hbody.2]
  exact .refl AtomaProxyError.Alike.refl Response.Alike.refl _

theorem handleChatCompletionsRequest_alike (h : answer.Alike answer') (payload : Value) :
    HandlersAlike Response.Alike (handleChatCompletionsRequest calls metadata payload answer)
      (handleChatCompletionsRequest calls metadata payload answer') := by
  unfold handleChatCompletionsRequest
  split
  · exact handleStreamingResponse_alike calls metadata h
  · exact handleNonStreamingResponse_alike calls metadata h _ _

theorem handleCompletionsRequest_alike (h : answer.Alike answer') (payload : Value) :
    HandlersAlike Response.Alike (handleCompletionsRequest calls metadata payload answer)
      (handleCompletionsRequest calls metadata payload answer') := by
  unfold handleCompletionsRequest
  split
  · exact handleStreamingResponse_alike calls metadata h
  · exact handleNonStreamingResponse_alike calls metadata h _ _

/-- Embeddings and images tell their client that the node was not reached or not understood, and no more. -/
theorem handleVerifiedResponse_alike (h : answer.Alike answer') (what parseErrorMessage : String) (verifyHash : Bool)
    (throughput : Value → Int64 × Int64) :
    HandlersAlike Eq (handleVerifiedResponse calls metadata answer what parseErrorMessage verifyHash throughput)
      (handleVerifiedResponse calls metadata answer' what parseErrorMessage verifyHash throughput) := by
  unfold handleVerifiedResponse
  refine (success_alike h (by exact fun _ _ => rfl) _).bind fun body body' hbody => ?_
  refine (parsed_alike hbody.1 (by exact fun _ _ => rfl)).bind fun response response' hresponse => ?_
  obtain rfl : response = response' := hresponse
  exact .refl AtomaProxyError.Alike.refl (fun _ => rfl) _

/-- A handler that releases where its call fails and settles where it does not. -/
theorem settled_alike {call call' : Handler Value} (h : HandlersAlike Eq call call') (release settle : Handler Unit)
    (endpoint : String) :
    HandlersAlike Response.Alike
      (Eff.spawned (do
        let response ← call.handle fun e => do
          release
          .fail e
        settle
        pure (.json response)) (.internalError "Failed to spawn image generation task" .none endpoint))
      (Eff.spawned (do
        let response ← call'.handle fun e => do
          release
          .fail e
        settle
        pure (.json response)) (.internalError "Failed to spawn image generation task" .none endpoint)) := by
  refine Eff.Alike.spawned ?_ (AtomaProxyError.Alike.refl _)
  have hcall := h.handle fun e e' he => (Eff.Alike.refl AtomaProxyError.Alike.refl (fun _ => rfl) release).bind
    (S := Eq) fun _ _ _ => Eff.alike_fail he
  refine hcall.bind fun response response' hresponse => ?_
  obtain rfl : response = response' := hresponse
  exact .refl AtomaProxyError.Alike.refl Response.Alike.refl _

theorem embeddingsCreate_alike (h : answer.Alike answer') :
    HandlersAlike Response.Alike (embeddingsCreate calls metadata answer) (embeddingsCreate calls metadata answer') :=
  settled_alike (handleVerifiedResponse_alike calls metadata h _ _ _ _) _ _ _

theorem imageGenerationsCreate_alike (h : answer.Alike answer') :
    HandlersAlike Response.Alike (imageGenerationsCreate calls metadata answer)
      (imageGenerationsCreate calls metadata answer') :=
  settled_alike (handleVerifiedResponse_alike calls metadata h _ _ _ _) _ _ _

end Handlers

theorem regularHandler_alike (calls : ServerCalls) (headers : Headers) (body : Value) {answer answer' : NodeAnswer}
    (h : answer.Alike answer') (metadata : RequestMetadataExtension) :
    HandlersAlike Response.Alike (regularHandler calls headers body answer metadata)
      (regularHandler calls headers body answer' metadata) := by
  unfold regularHandler
  split
  · exact .refl AtomaProxyError.Alike.refl Response.Alike.refl _
  · refine intoResponse_alike ?_
    split
    · exact handlerTask_alike (handleCompletionsRequest_alike _ _ h _) _ _
    · split
      · exact handlerTask_alike (handleChatCompletionsRequest_alike _ _ h _) _ _
      · split
        · exact embeddingsCreate_alike _ _ h
        · exact imageGenerationsCreate_alike _ _ h

/-! ## A whole request -/

section Request

variable {calls : ServerCalls} {answers answers' : RequestAnswers}

theorem retryOnStack_alike (h : answers.Alike answers') (headers : Headers) (body : Value)
    (metadata : RequestMetadataExtension) :
    HandlersAlike Response.Alike (retryOnStack calls answers headers body metadata)
      (retryOnStack calls answers' headers body metadata) := by
  unfold retryOnStack
  refine (Eff.alike_ofExcept h.retryStack).bind fun node node' hnode => ?_
  obtain rfl : node = node' := hnode
  cases node.stackSmallId with
  | none => exact .refl AtomaProxyError.Alike.refl Response.Alike.refl _
  | some stackSmallId =>
    have hprepared : AnswersAlike
        (tryValidateStackForRequest answers.retryProcess body node stackSmallId (metadata.numInputTokens.getD 0)
          metadata.maxOutputTokens metadata.userId metadata.endpoint)
        (tryValidateStackForRequest answers'.retryProcess body node stackSmallId (metadata.numInputTokens.getD 0)
          metadata.maxOutputTokens metadata.userId metadata.endpoint) :=
      prepareRequest_alike h.retryProcess _ _ _ _ _ _ _ _ _
    dsimp only
    generalize tryValidateStackForRequest answers.retryProcess body node stackSmallId
      (metadata.numInputTokens.getD 0) metadata.maxOutputTokens metadata.userId metadata.endpoint = x at hprepared
    generalize tryValidateStackForRequest answers'.retryProcess body node stackSmallId
      (metadata.numInputTokens.getD 0) metadata.maxOutputTokens metadata.userId metadata.endpoint = y at hprepared
    cases x with
    | ok retried =>
      cases y with
      | ok retried' =>
        obtain rfl : retried = retried' := hprepared
        exact regularHandler_alike calls headers body h.secondNode retried
      | error e => exact hprepared.elim
    | error e =>
      cases y with
      | ok retried' => exact hprepared.elim
      | error e' =>
        exact (Eff.Alike.refl AtomaProxyError.Alike.refl (fun _ => rfl) _).bind (S := Response.Alike) fun _ _ _ =>
          Eff.alike_fail hprepared

/-- The retry of a request is decided by the status of its answer, which is what a client sees of it. -/
theorem handleLockedStackMiddleware_alike (h : answers.Alike answers') (headers : Headers) (body : Value)
    (metadata : RequestMetadataExtension) :
    HandlersAlike Response.Alike (handleLockedStackMiddleware calls answers headers body metadata)
      (handleLockedStackMiddleware calls answers' headers body metadata) := by
  unfold handleLockedStackMiddleware
  cases headers.authorization with
  | none => exact .refl AtomaProxyError.Alike.refl Response.Alike.refl _
  | some authorization =>
    dsimp only
    split
    · exact .refl AtomaProxyError.Alike.refl Response.Alike.refl _
    refine (regularHandler_alike calls _ body h.firstNode metadata).bind fun response response' hresponse => ?_
    rw [hresponse.status]
    split
    · refine (Eff.Alike.refl AtomaProxyError.Alike.refl (fun _ => rfl) _).bind (S := Response.Alike) fun _ _ _ => ?_
      exact authenticate_alike h.second _ _ _ fun body metadata => regularHandler_alike calls _ body h.secondNode _
    · exact retryOnStack_alike h headers body metadata
    · exact Eff.alike_pure hresponse

theorem regularRequest_alike (h : answers.Alike answers') (headers : Headers) (body : Value) (endpoint : String) :
    HandlersAlike Response.Alike (regularRequest calls answers headers body endpoint)
      (regularRequest calls answers' headers body endpoint) :=
  authenticate_alike h.first headers body endpoint fun body metadata =>
    intoResponse_alike (handleLockedStackMiddleware_alike h headers body metadata)

end Request

/-- What comes of a task of its own is a value or an error, a panic being an error. -/
theorem intoResponse_spawned (x : Handler Response) (joinError : AtomaProxyError) :
    ∃ r, (intoResponse (x.spawned joinError)).ending = .ok r := by
  unfold intoResponse Eff.spawned Eff.handle
  cases x.ending with
  | ok r => exact ⟨r, rfl⟩
  | err e => exact ⟨.error e, rfl⟩
  | panic => exact ⟨.error joinError, rfl⟩

/-- A chat whose node says that its stack is locked, and whose second check fails, as the texts say. -/
def lockedAnswersExample (nodeText errorText : String) (e : StatementError) : RequestAnswers where
  first := ⟨answersExample 1000000, .ok true, .ok ⟨"http://node", "signature"⟩⟩
  firstNode := .answered 423 (.some "Locked") (.error nodeText) []
  second :=
    ⟨{ answersExample 1000000 with
        checkAuth := checkAuthReply (fun _ => errorText) chatCompletionsPath (.some (.error e)) },
      .ok true, .ok ⟨"http://node", "signature"⟩⟩
  retryStack := .error (.internalError errorText .none chatCompletionsPath)
  retryProcess := .ok ⟨"http://node", "signature"⟩
  secondNode := .unreachable nodeText

theorem lockedAnswersExample_alike (nodeText nodeText' errorText errorText' : String) (e e' : StatementError) :
    (lockedAnswersExample nodeText errorText e).Alike (lockedAnswersExample nodeText' errorText' e') where
  first :=
    ⟨⟨.refl AtomaProxyError.Alike.refl _, rfl, fun _ => .refl AtomaProxyError.Alike.refl _,
      fun _ _ => .refl AtomaProxyError.Alike.refl _⟩, rfl, rfl⟩
  firstNode := .failed _ _ _ _ _ rfl
  second :=
    ⟨⟨checkAuthReply_alike (fun _ => errorText) (fun _ => errorText') _ e e', rfl, fun _ => .refl AtomaProxyError.Alike.refl _,
      fun _ _ => .refl AtomaProxyError.Alike.refl _⟩, rfl, rfl⟩
  retryStack := alike_internalError _ _ _ _ _
  retryProcess := rfl
  secondNode := .unreachable _ _

end AtomaProxy
