/-
The request handlers: each forwards its request to the node, verifies what
comes back and settles what the middleware reserved, from a stack in compute
units or from a fiat balance in amounts.

Every handler runs in a task of its own, so a panic in it is an error of the
one that waits for it. A streaming answer is returned at once, and a task that
outlives the handler drives the `Streamer` to its end.
-/
import AtomaProxy.Server.Streamer

namespace AtomaProxy

open Base

/-- What the middleware found out about a request, for its handler. -/
structure RequestMetadataExtension where
  nodeAddress : String
  nodeId : Int64
  numInputTokens : Option UInt64
  maxOutputTokens : UInt64
  userId : Int64
  selectedStackSmallId : Option Int64
  pricePerOneMillionInputComputeUnits : Int64
  pricePerOneMillionOutputComputeUnits : Int64
  endpoint : String
  modelName : String
  deriving DecidableEq, Repr

/-- What comes of a request to a node: its status and, for the two ways a body is read, its JSON or its stream. -/
inductive NodeAnswer where
  | unreachable (text : String)
  | answered (status : Nat) (reason : Option String) (json : Except String Value) (stream : List Upstream)

/-- What the proxy answers its client. -/
inductive Response where
  | json (body : Value)
  | events
  | error (e : AtomaProxyError)
  /-- a request that an extractor rejected -/
  | rejection (status : Nat)

def Response.status : Response → Nat
  | .json _ | .events => 200
  | .error e => e.statusCode
  | .rejection status => status

/-- What the handlers call beside the node: the verification of an answer and the parser. -/
structure HandlerCalls where
  crypto : ResponseCrypto
  fromStr : List UInt8 → Except JsonError Value

def HandlerCalls.streamer (calls : HandlerCalls) : StreamerCalls where
  fromStr := calls.fromStr
  verify := verifyResponseHashAndSignature calls.crypto

/-- The settlement of a request, of its stack or of its user's fiat balance. -/
def RequestMetadataExtension.settle (metadata : RequestMetadataExtension) (estimatedTotalTokens totalTokens
    estimatedInputTokens inputTokens estimatedOutputTokens outputTokens : Int64) : Handler Unit :=
  match metadata.selectedStackSmallId with
  | .some stackSmallId => updateStateManager stackSmallId estimatedTotalTokens totalTokens
  | .none =>
    updateStateManagerFiat metadata.userId estimatedInputTokens inputTokens estimatedOutputTokens outputTokens
      metadata.pricePerOneMillionInputComputeUnits metadata.pricePerOneMillionOutputComputeUnits metadata.modelName
      metadata.endpoint

/-- `num_input_tokens.unwrap_or_default() as i64`. -/
def RequestMetadataExtension.inputTokens (metadata : RequestMetadataExtension) : Int64 :=
  (metadata.numInputTokens.getD 0).toInt64

def RequestMetadataExtension.outputTokens (metadata : RequestMetadataExtension) : Int64 :=
  metadata.maxOutputTokens.toInt64

/-- `(num_input_tokens.unwrap_or_default() + max_output_tokens) as i64`, the sum wrapping. -/
def RequestMetadataExtension.totalTokens (metadata : RequestMetadataExtension) : Int64 :=
  (metadata.numInputTokens.getD 0 + metadata.maxOutputTokens).toInt64

/-- What the handlers of chats, completions and images do with an error: all that was reserved is released. -/
def RequestMetadataExtension.release (metadata : RequestMetadataExtension) : Handler Unit :=
  metadata.settle metadata.totalTokens 0 metadata.inputTokens 0 metadata.outputTokens 0

/-- An answer that is a success, or the error that the others are turned into. -/
def NodeAnswer.success (answer : NodeAnswer) (sendError : String → AtomaProxyError) (endpoint : String) :
    Handler (Except String Value × List Upstream) :=
  match answer with
  | .unreachable text => .fail (sendError text)
  | .answered status reason json stream =>
    if isSuccess status then pure (json, stream) else .fail (handleStatusCodeError status reason endpoint)

def parsed (json : Except String Value) (parseError : String → AtomaProxyError) : Handler Value :=
  .ofExcept (json.mapError parseError)

/-- A handler's task: `work`, and `onErr` where it is an error. -/
def handlerTask (work : Handler Response) (onErr : Handler Unit) (endpoint : String) : Handler Response :=
  (work.handle fun e => do
    onErr
    .fail e).spawned (.internalError "Failed to spawn image generation task" .none endpoint)

/-! ## Chat completions and completions -/

/-- A count of the answer's `usage`, 0 where it is missing or not a number. -/
def usageTokens (response : Value) (key : String) : Int64 :=
  ((((response.get "usage").bind fun usage => usage.get key).bind Value.asU64).map UInt64.toInt64).getD 0

/-- `handle_non_streaming_response`; the two endpoints differ in the tokens a fiat balance is charged for. -/
def handleNonStreamingResponse (calls : HandlerCalls) (metadata : RequestMetadataExtension) (answer : NodeAnswer)
    (verifyHash : Bool) (fiatTokens : Value → Int64 × Int64) : Handler Response := do
  let (json, _) ← answer.success
    (fun text => .tooManyRequests ("Failed to send OpenAI API request: " ++ text) metadata.endpoint) metadata.endpoint
  let response ← parsed json
    fun text => .internalError ("Failed to parse OpenAI API response: " ++ text) .none metadata.endpoint
  .ofEnding (verifyResponseHashAndSignature calls.crypto response verifyHash)
  .send (.updateNodeThroughputPerformance metadata.modelName (usageTokens response "prompt_tokens")
    (usageTokens response "completion_tokens"))
  (metadata.settle (metadata.inputTokens + metadata.outputTokens) (usageTokens response "total_tokens")
    metadata.inputTokens (fiatTokens response).1 metadata.outputTokens (fiatTokens response).2).handle
      fun _ => .fail (.internalError (if metadata.selectedStackSmallId.isSome then "Error updating state manager"
        else "Error updating fiat state manager") .none metadata.endpoint)
  pure (.json response)

/-- The configuration of a request's `Streamer`. -/
def RequestMetadataExtension.streamer (metadata : RequestMetadataExtension) : StreamerConfig where
  stackSmallId := metadata.selectedStackSmallId
  estimatedInputTokens := metadata.inputTokens
  estimatedOutputTokens := metadata.outputTokens
  pricePerOneMillionInputComputeUnits := metadata.pricePerOneMillionInputComputeUnits
  pricePerOneMillionOutputComputeUnits := metadata.pricePerOneMillionOutputComputeUnits
  userId := metadata.userId
  modelName := metadata.modelName
  endpoint := metadata.endpoint

/-- The loop over `streamer.next()`: it goes on after an error and after the client has gone, and is left at the
end of the stream or by a panic. -/
def Streamer.drive (calls : StreamerCalls) (s : Streamer) : List Upstream → Streamer × List StateManagerEvent
  | [] => (s, [])
  | u :: us =>
    let p := s.pollNext calls u
    match p.result with
    | .finished | .panic => (p.state, p.sent)
    | _ =>
      let (s', sent) := drive calls p.state us
      (s', p.sent ++ sent)

/-- What the task that drives a stream sends, its drop of the streamer included. -/
def Streamer.task (calls : StreamerCalls) (c : StreamerConfig) (stream : List Upstream) : List StateManagerEvent :=
  let (s, sent) := (Streamer.new c).drive calls stream
  sent ++ s.drop

/-- `handle_streaming_response`. -/
def handleStreamingResponse (calls : HandlerCalls) (metadata : RequestMetadataExtension) (answer : NodeAnswer) :
    Handler Response := do
  let (_, stream) ← answer.success
    (fun text => .tooManyRequests ("Error sending request to inference service: " ++ text) metadata.endpoint)
    metadata.endpoint
  ⟨Streamer.task calls.streamer metadata.streamer stream, .ok .events⟩

def isStreaming (payload : Value) : Bool := ((payload.get "stream").bind Value.asBool).getD false

def handleChatCompletionsRequest (calls : HandlerCalls) (metadata : RequestMetadataExtension) (payload : Value)
    (answer : NodeAnswer) : Handler Response :=
  if isStreaming payload then handleStreamingResponse calls metadata answer
  else
    handleNonStreamingResponse calls metadata answer (metadata.endpoint ≠ confidentialChatCompletionsPath)
      fun response => (usageTokens response "prompt_tokens", usageTokens response "completion_tokens")

/-- A completion's fiat charge takes all tokens for output. -/
def handleCompletionsRequest (calls : HandlerCalls) (metadata : RequestMetadataExtension) (payload : Value)
    (answer : NodeAnswer) : Handler Response :=
  if isStreaming payload then handleStreamingResponse calls metadata answer
  else
    handleNonStreamingResponse calls metadata answer (metadata.endpoint ≠ confidentialCompletionsPath)
      fun response => (0, usageTokens response "total_tokens")

def chatCompletionsCreate (calls : HandlerCalls) (metadata : RequestMetadataExtension) (payload : Value)
    (answer : NodeAnswer) : Handler Response :=
  handlerTask (handleChatCompletionsRequest calls metadata payload answer) metadata.release metadata.endpoint

def completionsCreate (calls : HandlerCalls) (metadata : RequestMetadataExtension) (payload : Value)
    (answer : NodeAnswer) : Handler Response :=
  handlerTask (handleCompletionsRequest calls metadata payload answer) metadata.release metadata.endpoint

/-- The confidential handlers differ from the others in what they count. -/
def confidentialChatCompletionsCreate (calls : HandlerCalls) (metadata : RequestMetadataExtension) (payload : Value)
    (answer : NodeAnswer) : Handler Response :=
  handlerTask (handleChatCompletionsRequest calls metadata payload answer) metadata.release metadata.endpoint

def confidentialCompletionsCreate (calls : HandlerCalls) (metadata : RequestMetadataExtension) (payload : Value)
    (answer : NodeAnswer) : Handler Response :=
  handlerTask (handleCompletionsRequest calls metadata payload answer) metadata.release metadata.endpoint

/-! ## Embeddings and images -/

/-- The call of the node that embeddings and images share, up to the throughput they report. -/
def handleVerifiedResponse (calls : HandlerCalls) (metadata : RequestMetadataExtension) (answer : NodeAnswer)
    (what parseErrorMessage : String) (verifyHash : Bool) (throughput : Value → Int64 × Int64) : Handler Value := do
  let (json, _) ← answer.success
    (fun text => .internalError ("Failed to send " ++ what ++ " request: " ++ text)
      (.some "Failed to connect to the node") metadata.endpoint) metadata.endpoint
  let response ← parsed json
    fun text => .internalError ("Failed to parse " ++ what ++ " response: " ++ text) (.some parseErrorMessage)
      metadata.endpoint
  .ofEnding (verifyResponseHashAndSignature calls.crypto response verifyHash)
  .send (.updateNodeThroughputPerformance metadata.modelName (throughput response).1 (throughput response).2)
  pure response

/-- `handle_embeddings_response`. -/
def handleEmbeddingsResponse (calls : HandlerCalls) (metadata : RequestMetadataExtension) (answer : NodeAnswer) :
    Handler Value :=
  handleVerifiedResponse calls metadata answer "embeddings" "Failed to parse the node response"
    (metadata.endpoint ≠ confidentialEmbeddingsPath) fun response =>
      if metadata.endpoint = confidentialEmbeddingsPath then
        ((((response.get "total_tokens").bind Value.asU64).getD 0).toInt64, 0)
      else (metadata.inputTokens, 0)

/-- `handle_image_generation_response`. -/
def handleImageGenerationResponse (calls : HandlerCalls) (metadata : RequestMetadataExtension) (answer : NodeAnswer) :
    Handler Value :=
  handleVerifiedResponse calls metadata answer "image generation" "Failed to parse node's response"
    (metadata.endpoint ≠ confidentialImageGenerationsPath) fun _ => (0, metadata.outputTokens)

/-- An embeddings request reserves input only, and its error releases that. -/
def RequestMetadataExtension.releaseInput (metadata : RequestMetadataExtension) : Handler Unit :=
  metadata.settle metadata.inputTokens 0 metadata.inputTokens 0 0 0

def embeddingsCreate (calls : HandlerCalls) (metadata : RequestMetadataExtension) (answer : NodeAnswer) :
    Handler Response :=
  Eff.spawned (do
    let response ← (handleEmbeddingsResponse calls metadata answer).handle fun e => do
      metadata.releaseInput
      .fail e
    metadata.settle metadata.inputTokens metadata.inputTokens metadata.inputTokens metadata.inputTokens 0 0
    pure (.json response)) (.internalError "Failed to spawn image generation task" .none metadata.endpoint)

/-- The node, in its enclave, says how many tokens there were. -/
def confidentialEmbeddingsCreate (calls : HandlerCalls) (metadata : RequestMetadataExtension) (answer : NodeAnswer) :
    Handler Response :=
  Eff.spawned (do
    let response ← (handleEmbeddingsResponse calls metadata answer).handle fun e => do
      metadata.releaseInput
      .fail e
    let totalTokens := usageTokens response "total_tokens"
    metadata.settle metadata.inputTokens totalTokens metadata.inputTokens totalTokens 0 0
    pure (.json response)) (.internalError "Failed to spawn image generation task" .none metadata.endpoint)

def imageGenerationsCreate (calls : HandlerCalls) (metadata : RequestMetadataExtension) (answer : NodeAnswer) :
    Handler Response :=
  Eff.spawned (do
    let response ← (handleImageGenerationResponse calls metadata answer).handle fun e => do
      metadata.release
      .fail e
    metadata.settle metadata.totalTokens metadata.totalTokens metadata.inputTokens metadata.inputTokens
      metadata.outputTokens metadata.outputTokens
    pure (.json response)) (.internalError "Failed to spawn image generation task" .none metadata.endpoint)

/-- A confidential image that was generated settles nothing. -/
def confidentialImageGenerationsCreate (calls : HandlerCalls) (metadata : RequestMetadataExtension)
    (answer : NodeAnswer) : Handler Response :=
  handlerTask (do
    let response ← handleImageGenerationResponse calls metadata answer
    pure (.json response)) metadata.release metadata.endpoint

end AtomaProxy
