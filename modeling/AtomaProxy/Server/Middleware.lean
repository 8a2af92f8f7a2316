/-
The middlewares before a regular handler: authentication with the fiat lock,
and the one that retries where a node answers that its stack is locked, or that
it is too early.

A request that a node answered with 423 is authenticated again, and so may lock
a second time; one answered with 425 is handled again on a stack. Every call
of the state manager, of the chain and of a node is answered by a parameter,
one answer for each time it is made.
-/
import AtomaProxy.Server.AcquireStack
import AtomaProxy.Server.Handlers

namespace AtomaProxy

open Base

/-- The headers that the middlewares and the extractors read. -/
structure Headers where
  authorization : Option String
  contentType : Option String
  stackSmallId : Option String
  deriving DecidableEq, Repr

/-- `axum` and `serde_json`, beside what the handlers call: whether a content type is JSON, and a body's length. -/
structure ServerCalls extends HandlerCalls where
  isJsonContentType : String → Bool
  serializedLength : Value → Nat

/-- The limit of `to_bytes` in the middlewares, 1GB. -/
def maxBodySize : Nat := 1073741824

/-- The limit of a body that an extractor reads, 2MB. -/
def defaultBodyLimit : Nat := 2097152

/-- A character that may stand in a header's text. -/
def isHeaderChar (c : Char) : Bool := (' ' ≤ c && c ≤ '~') || c == '\t'

/-- `HeaderValue::to_str`. -/
def headerToStr (value : String) : Option String := if value.toList.all isHeaderChar then .some value else .none

/-- `HeaderValue::from_str`. -/
def headerFromStr (value what endpoint : String) : Except AtomaProxyError Unit :=
  if value.toList.all isHeaderChar then .ok ()
  else .error (.internalError ("Failed to convert " ++ what ++ " to header value") .none endpoint)

/-- `str::parse::<i64>`. -/
def parseI64 (s : List Char) : Option Int64 := do
  let (sign, digits) := match s with
    | '-' :: rest => ((-1 : Int), rest)
    | '+' :: rest => (1, rest)
    | _ => (1, s)
  let ds ← digits.mapM digit?
  if ds = [] then .none else i64OfInt? (sign * (ds.foldl (fun acc d => 10 * acc + d) 0 : Nat))

/-! ## What the calls answer -/

structure ProcessedRequest where
  nodeAddress : String
  signature : String
  deriving DecidableEq, Repr

/-- What the calls of one authentication are answered with; `auth.checkAuth` is the answer to the token's check. -/
structure PassAnswers where
  auth : AuthAnswers
  lockReply : Except AtomaProxyError Bool
  processSelectedStack : Except AtomaProxyError ProcessedRequest

/-- What the calls of a request are answered with: the first time, and again. -/
structure RequestAnswers where
  first : PassAnswers
  firstNode : NodeAnswer
  second : PassAnswers
  /-- the stack to retry on, from the state manager or bought -/
  retryStack : Except AtomaProxyError SelectedNodeMetadata
  retryProcess : Except AtomaProxyError ProcessedRequest
  secondNode : NodeAnswer

/-! ## Authentication -/

/-- `check_auth`, the token's check being answered with `reply`. -/
def checkAuth (headers : Headers) (reply : Except AtomaProxyError Int64) (endpoint : String) :
    Except AtomaProxyError Int64 :=
  match headers.authorization.bind headerToStr with
  | .some auth =>
    if "Bearer ".toList.isPrefixOf auth.toList then reply
    else .error (.authError "Invalid or missing api token for request" endpoint)
  | .none => .error (.authError "Invalid or missing api token for request" endpoint)

/-- The body that is authenticated: an object that names no limit gets the default one. -/
def withDefaultMaxTokens (body : Value) : Value :=
  match body with
  | .object members =>
    if body.containsKey "max_tokens" || body.containsKey "max_completion_tokens" then body
    else .object (("max_completion_tokens", .number (.posInt defaultMaxTokens)) :: members)
  | _ => body

/-- What `create_fiat_request` and `try_validate_stack_for_request` share: the metadata of a request to the node. -/
def prepareRequest (processed : Except AtomaProxyError ProcessedRequest) (body : Value) (selectedNodeId : Int64)
    (selectedStackSmallId : Option Int64) (pricePerOneMillionInputComputeUnits
    pricePerOneMillionOutputComputeUnits : Int64) (numInputTokens maxOutputTokens : UInt64) (userId : Int64)
    (endpoint : String) : Except AtomaProxyError RequestMetadataExtension := do
  let { nodeAddress, signature } ← processed
  headerFromStr signature "signature" endpoint
  let modelName ← missing ((body.get "model").bind Value.asStr) "\x7bMODEL\x7d not found" endpoint
  .ok {
    nodeAddress
    nodeId := selectedNodeId
    numInputTokens := .some numInputTokens
    maxOutputTokens
    userId
    selectedStackSmallId
    pricePerOneMillionInputComputeUnits
    pricePerOneMillionOutputComputeUnits
    endpoint
    modelName }

def createFiatRequest (p : PassAnswers) (body : Value) (m : StackMetadata) (endpoint : String) :
    Except AtomaProxyError RequestMetadataExtension :=
  prepareRequest p.processSelectedStack body m.selectedNodeId .none m.pricePerOneMillionInputComputeUnits
    m.pricePerOneMillionOutputComputeUnits m.numInputTokens m.maxOutputTokens m.userId endpoint

def tryValidateStackForRequest (processed : Except AtomaProxyError ProcessedRequest) (body : Value)
    (node : SelectedNodeMetadata) (stackSmallId : Int64) (numInputTokens maxOutputTokens : UInt64) (userId : Int64)
    (endpoint : String) : Except AtomaProxyError RequestMetadataExtension :=
  prepareRequest processed body node.selectedNodeId (.some stackSmallId) node.pricePerOneMillionInputComputeUnits
    node.pricePerOneMillionOutputComputeUnits numInputTokens maxOutputTokens userId endpoint

/-- An error as the response it becomes. -/
def intoResponse (x : Handler Response) : Handler Response := x.handle fun e => pure (.error e)

/-- What is done once the lock is granted: the request is prepared and goes on, or the lock is settled with zeros. -/
def afterLock (p : PassAnswers) (body : Value) (m : StackMetadata) (endpoint : String)
    (next : RequestMetadataExtension → Handler Response) : Handler Response :=
  match createFiatRequest p body m endpoint with
  | .ok metadata => next metadata
  | .error e => do
    updateStateManagerFiat m.userId m.numInputTokens.toInt64 0 m.maxOutputTokens.toInt64 0
      m.pricePerOneMillionInputComputeUnits m.pricePerOneMillionOutputComputeUnits m.model endpoint
    .fail e

/-- `authenticate_middleware`, of a body that was read and parsed. -/
def authenticateMiddleware (p : PassAnswers) (headers : Headers) (body : Value) (endpoint : String)
    (next : Value → RequestMetadataExtension → Handler Response) : Handler Response :=
  let body := withDefaultMaxTokens body
  Eff.spawned (do
    let m ← handleAuthenticateAndLockComputeUnits
      { p.auth with checkAuth := checkAuth headers p.auth.checkAuth endpoint } body endpoint
      fun _ _ _ _ => p.lockReply
    afterLock p body m endpoint (next body)) (.internalError "Failed to spawn task" .none endpoint)

/-! ## The handler of a route -/

/-- The `Json` extractor: the body, or the status of its rejection. -/
def jsonExtractor (calls : ServerCalls) (headers : Headers) (body : Value) : Except Nat Value :=
  match headers.contentType with
  | .none => .error 415
  | .some contentType =>
    if !calls.isJsonContentType contentType then .error 415
    else if calls.serializedLength body > defaultBodyLimit then .error 413
    else .ok body

/-- The handler that a regular route leads to. -/
def regularHandler (calls : ServerCalls) (headers : Headers) (body : Value) (answer : NodeAnswer)
    (metadata : RequestMetadataExtension) : Handler Response :=
  match jsonExtractor calls headers body with
  | .error status => pure (.rejection status)
  | .ok payload =>
    intoResponse <|
      if metadata.endpoint = completionsPath then completionsCreate calls.toHandlerCalls metadata payload answer
      else if metadata.endpoint = chatCompletionsPath then
        chatCompletionsCreate calls.toHandlerCalls metadata payload answer
      else if metadata.endpoint = embeddingsPath then embeddingsCreate calls.toHandlerCalls metadata answer
      else imageGenerationsCreate calls.toHandlerCalls metadata answer

/-! ## Locked stacks -/

/-- `lock_stack`: the stack that the headers name. -/
def Headers.lockStack (headers : Headers) (endpoint : String) : Handler Unit := do
  let .some value := headers.stackSmallId
    | .fail (.internalError "Stack small id not found" .none endpoint)
  let .some text := headerToStr value
    | .fail (.requestError "Stack small id not found" endpoint)
  let .some stackSmallId := parseI64 text.toList
    | .fail (.requestError "handle_locked_stack_middleware: Could not parse stack small id" endpoint)
  .send (.lockStack stackSmallId)

def tooEarlyWithoutStack (endpoint : String) : AtomaProxyError :=
  .internalError "Too early without a stack information" .none endpoint

/-- The request again, on the stack that was found for it. -/
def retryOnStack (calls : ServerCalls) (answers : RequestAnswers) (headers : Headers) (body : Value)
    (metadata : RequestMetadataExtension) : Handler Response := do
  let node ← .ofExcept answers.retryStack
  let .some stackSmallId := node.stackSmallId
    | .fail (tooEarlyWithoutStack metadata.endpoint)
  match tryValidateStackForRequest answers.retryProcess body node stackSmallId (metadata.numInputTokens.getD 0)
    metadata.maxOutputTokens metadata.userId metadata.endpoint with
  | .ok retried => regularHandler calls headers body answers.secondNode retried
  | .error e =>
    updateStateManager stackSmallId metadata.totalTokens 0
    .fail e

/-- `handle_locked_stack_middleware` before a regular handler. -/
def handleLockedStackMiddleware (calls : ServerCalls) (answers : RequestAnswers) (headers : Headers) (body : Value)
    (metadata : RequestMetadataExtension) : Handler Response := do
  let .some _ := headers.authorization
    | .fail (.requestError "Authorization header not found, this should never happen" metadata.endpoint)
  if calls.serializedLength body > maxBodySize then
    .fail (.requestError "The body is too big: length limit exceeded" metadata.endpoint)
  else
    let response ← regularHandler calls { headers with authorization := .none } body answers.firstNode metadata
    match response.status with
    | 423 =>
      headers.lockStack metadata.endpoint
      authenticateMiddleware answers.second { headers with stackSmallId := .none } body metadata.endpoint
        fun body => regularHandler calls { headers with stackSmallId := .none } body answers.secondNode
    | 425 => retryOnStack calls answers headers body metadata
    | _ => pure response

/-- A request to a regular route, from its authentication on. -/
def regularRequest (calls : ServerCalls) (answers : RequestAnswers) (headers : Headers) (body : Value)
    (endpoint : String) : Handler Response :=
  authenticateMiddleware answers.first headers body endpoint fun body metadata =>
    intoResponse (handleLockedStackMiddleware calls answers headers body metadata)

end AtomaProxy
