/-
A confidential request on its way to the node: the middleware that takes it in
by a lock of the stack its body names, the one that reads the node's status,
and the handlers.

The stack is the body's choice, and so are the units; that the user has locked
them is left to the locks in memory. A request that is not taken in has still
pruned the stack's locks.
-/
import AtomaProxy.Server.LockedDetails
import AtomaProxy.Server.Middleware

namespace AtomaProxy

open Base

/-- What the middleware reads of a `ConfidentialComputeRequest`. -/
structure ConfidentialComputeRequest where
  stackSmallId : UInt64
  plaintextBodyHash : String
  modelName : String
  numComputeUnits : Option UInt64
  deriving DecidableEq, Repr

/-- `MAX_NUM_TOKENS_FOR_CONFIDENTIAL_COMPUTE`. -/
def maxNumTokensForConfidentialCompute : Int64 := 8192

/-- `DEFAULT_IMAGE_RESOLUTION`. -/
def defaultImageResolution : UInt64 := 1048576

/-- The derived parser of the body, base64, and the signature of the proxy's wallet. -/
structure ConfidentialCalls extends ServerCalls where
  parseRequest : Value → Except String ConfidentialComputeRequest
  decodeHash : String → Except String (List UInt8)
  signHash : List UInt8 → Except String String

/-- What the state manager answers the middleware. -/
structure ConfidentialAnswers where
  checkAuth : Except AtomaProxyError Int64
  getNodePublicUrlAndSmallId : Except AtomaStateManagerError (Option String × Int64)

/-- `num_compute_units`, a cast of what the body names. -/
def ConfidentialComputeRequest.computeUnits (request : ConfidentialComputeRequest) (endpoint : String) : Int64 :=
  if endpoint = confidentialImageGenerationsPath then (request.numComputeUnits.getD defaultImageResolution).toInt64
  else (request.numComputeUnits.map UInt64.toInt64).getD maxNumTokensForConfidentialCompute

/-- `get_node_address`. -/
def getNodeAddress (reply : Except AtomaStateManagerError (Option String × Int64)) (endpoint : String) :
    Except AtomaProxyError (String × Int64) := do
  let (nodeAddress, nodeSmallId) ← stateManagerReply "GetNodePublicUrlAndSmallId" endpoint reply
  match nodeAddress with
  | .some nodeAddress => .ok (nodeAddress, nodeSmallId)
  | .none => .error (.notFound "Node doesn't have public address" endpoint)

/-- What the middleware checks before it looks for a lock: the request, and the metadata it is to record. -/
def prepareConfidentialRequest (calls : ConfidentialCalls) (answers : ConfidentialAnswers) (headers : Headers)
    (body : Value) (endpoint : String) :
    Except AtomaProxyError (ConfidentialComputeRequest × RequestMetadataExtension) := do
  let userId ← checkAuth headers answers.checkAuth endpoint
  if calls.serializedLength body > maxBodySize then
    .error (.requestError "The body is too big: length limit exceeded" endpoint)
  else
    let request ← (calls.parseRequest body).mapError
      fun e => .requestError ("Failed to parse body as JSON: " ++ e) endpoint
    let plaintextBodyHash ← (calls.decodeHash request.plaintextBodyHash).mapError
      fun e => .requestError ("Hash is not base64: " ++ e) endpoint
    let signature ← (calls.signHash plaintextBodyHash).mapError
      fun e => .internalError ("Failed to get Sui signature: " ++ e) .none endpoint
    (headerFromStr signature "signature" endpoint).mapError
      fun _ => .requestError "Signed hash is not present as header value: failed to parse header value" endpoint
    let (nodeAddress, nodeId) ← getNodeAddress answers.getNodePublicUrlAndSmallId endpoint
    .ok (request, {
      nodeAddress
      nodeId
      numInputTokens := .none
      maxOutputTokens := (request.computeUnits endpoint).toUInt64
      userId
      selectedStackSmallId := .some request.stackSmallId.toInt64
      pricePerOneMillionInputComputeUnits := 0
      pricePerOneMillionOutputComputeUnits := 0
      endpoint
      modelName := request.modelName })

/-- What the middleware did before the next one runs, and the lock it took. -/
structure TakenIn where
  sent : List StateManagerEvent
  locks : Locks
  result : Except AtomaProxyError (RequestMetadataExtension × LockedDetails)

/-- `confidential_compute_middleware`, up to the next one. -/
def confidentialComputeMiddleware (calls : ConfidentialCalls) (answers : ConfidentialAnswers) (headers : Headers)
    (body : Value) (endpoint : String) (locks : Locks) (now : Instant) (pick : Nat) : TakenIn :=
  match prepareConfidentialRequest calls answers headers body endpoint with
  | .error e => ⟨[], locks, .error e⟩
  | .ok (request, metadata) =>
    let found :=
      findStacksMeetingCriteriaAndPrune locks request.stackSmallId.toInt64 (request.computeUnits endpoint) now pick
    match found.removed with
    | .some lock => ⟨found.sent, found.locks, .ok (metadata, lock)⟩
    | .none =>
      ⟨found.sent, found.locks,
        .error (.unavailableStack "Stack is not available for confidential compute" endpoint)⟩

/-- The handler that a confidential route leads to. -/
def confidentialHandler (calls : ServerCalls) (headers : Headers) (body : Value) (answer : NodeAnswer)
    (metadata : RequestMetadataExtension) : Handler Response :=
  match jsonExtractor calls headers body with
  | .error status => pure (.rejection status)
  | .ok payload =>
    intoResponse <|
      if metadata.endpoint = confidentialChatCompletionsPath then
        confidentialChatCompletionsCreate calls.toHandlerCalls metadata payload answer
      else if metadata.endpoint = confidentialCompletionsPath then
        confidentialCompletionsCreate calls.toHandlerCalls metadata payload answer
      else if metadata.endpoint = confidentialEmbeddingsPath then
        confidentialEmbeddingsCreate calls.toHandlerCalls metadata answer
      else confidentialImageGenerationsCreate calls.toHandlerCalls metadata answer

/-- `handle_locked_stack_middleware` before a confidential handler: the client is told to retry. -/
def handleLockedConfidentialStack (calls : ServerCalls) (answer : NodeAnswer) (headers : Headers) (body : Value)
    (metadata : RequestMetadataExtension) : Handler Response := do
  let .some _ := headers.authorization
    | .fail (.requestError "Authorization header not found, this should never happen" metadata.endpoint)
  if calls.serializedLength body > maxBodySize then
    .fail (.requestError "The body is too big: length limit exceeded" metadata.endpoint)
  else
    let response ← confidentialHandler calls { headers with authorization := .none } body answer metadata
    match response.status with
    | 423 => do
      headers.lockStack metadata.endpoint
      .fail (.locked ("Current stack is locked, for this reason the confidential compute request should be " ++
        "retried") metadata.endpoint)
    | 425 =>
      .fail (.unavailableStack ("Current stack is currently unavailable, confidential compute request should be " ++
        "retried") metadata.endpoint)
    | _ => pure response

/-- A request to a confidential route. -/
def confidentialRequest (calls : ConfidentialCalls) (answers : ConfidentialAnswers) (answer : NodeAnswer)
    (headers : Headers) (body : Value) (endpoint : String) (locks : Locks) (now : Instant) (pick : Nat) :
    Handler Response :=
  let takenIn := confidentialComputeMiddleware calls answers headers body endpoint locks now pick
  Eff.spawned (do
    ⟨takenIn.sent, .ok ()⟩
    let (metadata, _) ← .ofExcept takenIn.result
    intoResponse (handleLockedConfidentialStack calls.toServerCalls answer headers body metadata))
    (.internalError "Failed to spawn task" .none endpoint)

/-! ## What the middleware records -/

/-- A request that was prepared has an authorization, and its metadata says what it asks for. -/
theorem prepareConfidentialRequest_ok {calls : ConfidentialCalls} {answers : ConfidentialAnswers} {headers : Headers}
    {body : Value} {endpoint : String} {request : ConfidentialComputeRequest} {metadata : RequestMetadataExtension}
    (h : prepareConfidentialRequest calls answers headers body endpoint = .ok (request, metadata)) :
    (∃ value, headers.authorization = .some value) ∧ calls.parseRequest body = .ok request ∧
      checkAuth headers answers.checkAuth endpoint = .ok metadata.userId ∧
      metadata.selectedStackSmallId = .some request.stackSmallId.toInt64 ∧
      metadata.maxOutputTokens = (request.computeUnits endpoint).toUInt64 ∧ metadata.numInputTokens = .none ∧
      metadata.endpoint = endpoint ∧ ¬ calls.serializedLength body > maxBodySize := by
  obtain ⟨userId, hauth, h⟩ := ok_bind_iff.1 h
  have hvalue : ∃ value, headers.authorization = .some value := by
    cases ha : headers.authorization with
    | none =>
      rw [checkAuth, ha] at hauth
      cases hauth
    | some value => exact ⟨value, rfl⟩
  split at h
  · cases h
  · next hsize =>
    obtain ⟨parsed, hparsed, h⟩ := ok_bind_iff.1 h
    obtain ⟨_, _, h⟩ := ok_bind_iff.1 h
    obtain ⟨_, _, h⟩ := ok_bind_iff.1 h
    obtain ⟨_, _, h⟩ := ok_bind_iff.1 h
    obtain ⟨⟨_, _⟩, _, h⟩ := ok_bind_iff.1 h
    cases h
    exact ⟨hvalue, mapError_eq_ok.1 hparsed, hauth, rfl, rfl, rfl, rfl, hsize⟩

/-- **A request that is taken in**, and what was done to the locks for it. -/
theorem confidentialComputeMiddleware_ok {calls : ConfidentialCalls} {answers : ConfidentialAnswers}
    {headers : Headers} {body : Value} {endpoint : String} {locks : Locks} {now : Instant} {pick : Nat}
    {metadata : RequestMetadataExtension} {lock : LockedDetails}
    (h : (confidentialComputeMiddleware calls answers headers body endpoint locks now pick).result =
      .ok (metadata, lock)) :
    ∃ request, prepareConfidentialRequest calls answers headers body endpoint = .ok (request, metadata) ∧
      (findStacksMeetingCriteriaAndPrune locks request.stackSmallId.toInt64 (request.computeUnits endpoint) now
        pick).removed = .some lock := by
  unfold confidentialComputeMiddleware at h
  cases hprepared : prepareConfidentialRequest calls answers headers body endpoint with
  | error e =>
    rw [hprepared] at h
    cases h
  | ok p =>
    obtain ⟨request, metadata'⟩ := p
    rw [hprepared] at h
    dsimp only at h
    cases hremoved : (findStacksMeetingCriteriaAndPrune locks request.stackSmallId.toInt64
        (request.computeUnits endpoint) now pick).removed with
    | none =>
      rw [hremoved] at h
      cases h
    | some lock' =>
      rw [hremoved] at h
      cases h
      exact ⟨request, rfl, hremoved⟩

/-- What is left of the locks was there. -/
theorem mem_of_takenIn {calls : ConfidentialCalls} {answers : ConfidentialAnswers} {headers : Headers} {body : Value}
    {endpoint : String} {locks : Locks} {now : Instant} {pick : Nat} {id : Int64} {lock : LockedDetails}
    (h : lock ∈ ((confidentialComputeMiddleware calls answers headers body endpoint locks now pick).locks id).items) :
    lock ∈ (locks id).items := by
  unfold confidentialComputeMiddleware at h
  split at h
  · exact h
  · dsimp only at h
    split at h <;> exact mem_of_findStacks h

/-- It sends releases of expired locks only. -/
theorem sends_takenIn {calls : ConfidentialCalls} {answers : ConfidentialAnswers} {headers : Headers} {body : Value}
    {endpoint : String} {locks : Locks} {now : Instant} {pick : Nat} :
    ∀ e ∈ (confidentialComputeMiddleware calls answers headers body endpoint locks now pick).sent,
      ∃ id units, e = .updateStackNumTokens id units 0 := by
  have hpruned : ∀ id units, ∀ e ∈ (findStacksMeetingCriteriaAndPrune locks id units now pick).sent,
      ∃ id units, e = .updateStackNumTokens id units 0 := by
    intro id units e he
    have hsent : (findStacksMeetingCriteriaAndPrune locks id units now pick).sent = (pruneStack locks id now).1 := by
      unfold findStacksMeetingCriteriaAndPrune
      dsimp only
      split <;> rfl
    rw [hsent] at he
    obtain ⟨lock, _, rfl⟩ := List.mem_map.1 he
    exact ⟨_, _, rfl⟩
  intro e he
  unfold confidentialComputeMiddleware at he
  split at he
  · cases he
  · next request metadata _ =>
    dsimp only at he
    split at he <;> exact hpruned _ _ e he

end AtomaProxy
