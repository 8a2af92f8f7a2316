/-
The metrics task: now and then it asks a Prometheus endpoint for the best
nodes of each configured model and keeps the lists, hands a list to whoever
asks for a model's, and stores what nodes report of themselves in gauges.

The endpoint is not part of the repository: what it answers to a query comes
with the query's completion. The queries of a round run side by side, so a
round is its queries in the order they complete; the first that fails ends
the round, and those that have not completed are cancelled.
-/
import AtomaProxy.Base.Binary64
import AtomaProxy.Base.Effect
import AtomaProxy.Base.Table

namespace AtomaProxy

open Base

/-! ## Gauges -/

inductive Modalities where
  | chatCompletions
  | embeddings
  | imagesGenerations
  deriving DecidableEq, Repr

/-- The gauges of `NodeMetricsCollector`. -/
inductive MetricsGauge where
  | avgWaitingQueueDuration
  | chatCompletionsGpuKvCacheUsage
  | chatCompletionsTtft
  | chatCompletionsTpot
  | chatCompletionsNumRunningRequests
  | chatCompletionsNumWaitingRequests
  | embeddingsQueueDuration
  | embeddingsInferenceDuration
  | embeddingsInputLength
  | embeddingsBatchSize
  | embeddingsBatchTokens
  | imageGenerationLatency
  | imageGenerationNumRunningRequests
  deriving DecidableEq, Repr

/-- A double, or the double of a `u32`. -/
inductive GaugeValue where
  | float (d : Binary64)
  | ofU32 (n : UInt32)
  deriving DecidableEq, Repr

structure ChatCompletionsMetrics where
  gpuKvCacheUsagePerc : Binary64
  avgRequestQueueLatency : Option Binary64
  timeToFirstToken : Binary64
  timePerOutputToken : Binary64
  numRunningRequests : UInt32
  numWaitingRequests : UInt32

structure EmbeddingsMetrics where
  embeddingsQueueDuration : Binary64
  embeddingsInferenceDuration : Binary64
  embeddingsInputLength : Binary64
  embeddingsBatchSize : Binary64
  embeddingsBatchTokens : Binary64

structure ImageGenerationMetrics where
  imageGenerationLatency : Binary64
  numRunningRequests : UInt32

inductive ModelMetrics where
  | chatCompletions (m : ChatCompletionsMetrics)
  | embeddings (m : EmbeddingsMetrics)
  | imageGeneration (m : ImageGenerationMetrics)

/-- What a node reports of each of its models. -/
structure NodeMetrics where
  modelMetrics : List (String × ModelMetrics)

/-- Each gauge by its labels, `model` and `node_small_id`. -/
structure NodeMetricsCollector where
  gauges : MetricsGauge → Table (String × String) GaugeValue

namespace NodeMetricsCollector

def set (self : NodeMetricsCollector) (gauge : MetricsGauge) (model : String) (nodeSmallId : Int64) (value : GaugeValue) :
    NodeMetricsCollector where
  gauges := Function.update self.gauges gauge
    (Function.update (self.gauges gauge) (model, toString nodeSmallId.toInt) (.some value))

def storeChatCompletionsMetrics (self : NodeMetricsCollector) (m : ChatCompletionsMetrics) (model : String)
    (nodeSmallId : Int64) : NodeMetricsCollector :=
  ((((((self.set .chatCompletionsGpuKvCacheUsage model nodeSmallId (.float m.gpuKvCacheUsagePerc)).set
    .avgWaitingQueueDuration model nodeSmallId (.float (m.avgRequestQueueLatency.getD ⟨0⟩))).set
    .chatCompletionsTtft model nodeSmallId (.float m.timeToFirstToken)).set
    .chatCompletionsTpot model nodeSmallId (.float m.timePerOutputToken)).set
    .chatCompletionsNumRunningRequests model nodeSmallId (.ofU32 m.numRunningRequests)).set
    .chatCompletionsNumWaitingRequests model nodeSmallId (.ofU32 m.numWaitingRequests))

def storeEmbeddingsMetrics (self : NodeMetricsCollector) (m : EmbeddingsMetrics) (model : String)
    (nodeSmallId : Int64) : NodeMetricsCollector :=
  (((((self.set .embeddingsQueueDuration model nodeSmallId (.float m.embeddingsQueueDuration)).set
    .embeddingsInferenceDuration model nodeSmallId (.float m.embeddingsInferenceDuration)).set
    .embeddingsInputLength model nodeSmallId (.float m.embeddingsInputLength)).set
    .embeddingsBatchSize model nodeSmallId (.float m.embeddingsBatchSize)).set
    .embeddingsBatchTokens model nodeSmallId (.float m.embeddingsBatchTokens))

def storeImageGenerationMetrics (self : NodeMetricsCollector) (m : ImageGenerationMetrics) (model : String)
    (nodeSmallId : Int64) : NodeMetricsCollector :=
  (self.set .imageGenerationLatency model nodeSmallId (.float m.imageGenerationLatency)).set
    .imageGenerationNumRunningRequests model nodeSmallId (.ofU32 m.numRunningRequests)

def storeMetrics (self : NodeMetricsCollector) (nodeMetrics : NodeMetrics) (nodeSmallId : Int64) :
    NodeMetricsCollector :=
  nodeMetrics.modelMetrics.foldl (fun collector (model, modelMetrics) =>
    match modelMetrics with
    | .chatCompletions m => collector.storeChatCompletionsMetrics m model nodeSmallId
    | .embeddings m => collector.storeEmbeddingsMetrics m model nodeSmallId
    | .imageGeneration m => collector.storeImageGenerationMetrics m model nodeSmallId) self

/-- Every gauge without values. -/
def resetMetrics (_self : NodeMetricsCollector) : NodeMetricsCollector := ⟨fun _ _ => .none⟩

end NodeMetricsCollector

/-! ## Queries -/

structure MetricsCollectionConfig where
  metricsUrl : String
  models : List (Modalities × String)
  topK : Option Nat

/-- The errors of the task. -/
inductive MetricsServiceError where
  | reqwest (text : String)
  | modelNotFound (model : String)
  | flumeRecvError
  | channelSendError
  deriving DecidableEq, Repr

/-- A sample of the answer: the labels of its metric. -/
structure PromResult where
  metric : List (String × String)

/-- The samples of a Prometheus response. -/
structure PromQueryResponse where
  result : List PromResult

/-- What a GET of an address with a query is answered, once the status and the body are checked. -/
abbrev MetricsEndpoint := String → String → Except MetricsServiceError PromQueryResponse

def defaultTopKBestAvailableNodes : Nat := 10

def nodeSmallIdLabel : String := "node_small_id"

/-- A metric's selector by model. -/
def ofModel (metric model : String) : String := metric ++ "\x7bmodel=\"" ++ model ++ "\"\x7d"

def chatCompletionsQuery (model : String) (topK : Nat) : String :=
  "topk(" ++ toString topK ++ ",\n" ++
  "                -1 * (\n" ++
  "                    (\n" ++
  "                        " ++ ofModel "chat_time_to_first_token" model ++ " +\n" ++
  "                        " ++ ofModel "chat_time_per_output_token" model ++ "\n" ++
  "                    ) unless (\n" ++
  "                        " ++ ofModel "chat_num_waiting_requests" model ++ " /\n" ++
  "                        (" ++ ofModel "chat_num_running_requests" model ++ " or vector(1)) >= 0.1\n" ++
  "                    )\n" ++
  "                )\n" ++
  "            )"

def embeddingsQuery (model : String) (topK : Nat) : String :=
  "topk(" ++ toString topK ++ ",\n" ++
  "                -1 * (\n" ++
  "                    (" ++ ofModel "embeddings_queue_duration" model ++ " + \n" ++
  "                    " ++ ofModel "embeddings_inference_duration" model ++ ") * \n" ++
  "                    (1 + (" ++ ofModel "embeddings_batch_tokens" model ++ " / \n" ++
  "                          max(" ++ ofModel "embeddings_batch_size" model ++ ", 1) / 1000000))\n" ++
  "                )\n" ++
  "            )"

def imageGenerationQuery (model : String) (topK : Nat) : String :=
  "topk(" ++ toString topK ++ ",\n" ++
  "                -1 * (\n" ++
  "                    " ++ ofModel "image_generation_latency" model ++ "\n" ++
  "                )\n" ++
  "            )"

/-- The label as an `i64`: digits behind at most one sign, within range. -/
def parseNodeSmallId (s : List Char) : Option Int64 :=
  let (negative, digits) := match s with
    | '-' :: digits => (true, digits)
    | '+' :: digits => (false, digits)
    | digits => (false, digits)
  if digits ≠ [] ∧ digits.all Char.isDigit then
    let n : Int := Nat.ofDigitChars 10 digits 0
    i64OfInt? (if negative then -n else n)
  else .none

/-- A sample's node, by two `unwrap`s. -/
def PromResult.nodeSmallId (result : PromResult) : Ending MetricsServiceError Int64 :=
  match (result.metric.lookup nodeSmallIdLabel).bind fun id => parseNodeSmallId id.toList with
  | .some id => .ok id
  | .none => .panic

def retrievePrometheusMetrics (endpoint : MetricsEndpoint) (metricsUrl query : String) :
    Ending MetricsServiceError (List Int64) := do
  let nodeMetrics ← .ofExcept (endpoint (metricsUrl ++ "/api/v1/query") query)
  nodeMetrics.result.mapM PromResult.nodeSmallId

def retrieveBestAvailableNodesForChatCompletions (endpoint : MetricsEndpoint) (metricsUrl model : String)
    (topK : Option Nat) : Ending MetricsServiceError (List Int64) :=
  retrievePrometheusMetrics endpoint metricsUrl
    (chatCompletionsQuery model (topK.getD defaultTopKBestAvailableNodes))

def retrieveBestAvailableNodesForEmbeddings (endpoint : MetricsEndpoint) (metricsUrl model : String)
    (topK : Option Nat) : Ending MetricsServiceError (List Int64) :=
  retrievePrometheusMetrics endpoint metricsUrl (embeddingsQuery model (topK.getD defaultTopKBestAvailableNodes))

def retrieveBestAvailableNodesForImageGeneration (endpoint : MetricsEndpoint) (metricsUrl model : String)
    (topK : Option Nat) : Ending MetricsServiceError (List Int64) :=
  retrievePrometheusMetrics endpoint metricsUrl
    (imageGenerationQuery model (topK.getD defaultTopKBestAvailableNodes))

/-! ## The task -/

/-- The lists that are kept, by model. -/
abbrev BestAvailableNodes := Table String (List Int64)

/-- `entry(model).or_insert(nodes)`. -/
def BestAvailableNodes.orInsert (kept : BestAvailableNodes) (model : String) (nodes : List Int64) :
    BestAvailableNodes :=
  Function.update kept model (.some ((kept model).getD nodes))

/-- A query of a round, and what it is answered. -/
structure Completion where
  modality : Modalities
  model : String
  endpoint : MetricsEndpoint

def Completion.retrieve (config : MetricsCollectionConfig) (c : Completion) :
    Ending MetricsServiceError (List Int64) :=
  match c.modality with
  | .chatCompletions =>
    retrieveBestAvailableNodesForChatCompletions c.endpoint config.metricsUrl c.model config.topK
  | .embeddings => retrieveBestAvailableNodesForEmbeddings c.endpoint config.metricsUrl c.model config.topK
  | .imagesGenerations =>
    retrieveBestAvailableNodesForImageGeneration c.endpoint config.metricsUrl c.model config.topK

/-- `try_join_all` of the queries, in the order they complete, and the lists that are kept after it. -/
def collectBestAvailableNodes (config : MetricsCollectionConfig) (kept : BestAvailableNodes) :
    List Completion → BestAvailableNodes × Ending MetricsServiceError Unit
  | [] => (kept, .ok ())
  | c :: completions =>
    match c.retrieve config with
    | .ok nodes => collectBestAvailableNodes config (kept.orInsert c.model nodes) completions
    | .err e => (kept, .err e)
    | .panic => (kept, .panic)

/-- A received request, of a model and with whether its sender still waits; what is sent to it. -/
def sendBestAvailableNodes (request : Except MetricsServiceError (String × Bool)) (kept : BestAvailableNodes) :
    Except MetricsServiceError (List Int64) := do
  let (model, waits) ← request
  match kept model with
  | .none => .error (.modelNotFound model)
  | .some nodes => if waits then .ok nodes else .error .channelSendError

inductive TaskStatus where
  | running
  | shutDown
  | panicked
  deriving DecidableEq, Repr

structure MetricsTask where
  status : TaskStatus
  collector : NodeMetricsCollector
  bestAvailableNodes : BestAvailableNodes

/-- The branches of the task's `select!`; nothing is received from a closed channel. -/
inductive MetricsTaskEvent where
  | timer (completions : List Completion)
  | collectedMetrics (received : Option (Int64 × NodeMetrics))
  | requestBestAvailableModels (received : Option (String × Bool))
  | shutdownSignal (changed : Option Bool)

namespace MetricsTask

/-- A round: whether it fails or not, the gauges are reset after it. -/
def onTimer (config : MetricsCollectionConfig) (task : MetricsTask) (completions : List Completion) : MetricsTask :=
  match collectBestAvailableNodes config task.bestAvailableNodes completions with
  | (kept, .panic) => { task with bestAvailableNodes := kept, status := .panicked }
  | (kept, _) => { task with bestAvailableNodes := kept, collector := task.collector.resetMetrics }

def onCollectedMetrics (task : MetricsTask) : Option (Int64 × NodeMetrics) → MetricsTask
  | .some (nodeSmallId, nodeMetrics) => { task with collector := task.collector.storeMetrics nodeMetrics nodeSmallId }
  | .none => task

def onShutdownSignal (task : MetricsTask) : Option Bool → MetricsTask
  | .some false => task
  | .some true | .none => { task with status := .shutDown }

/-- What a request is answered; the sender of an answer that fails is dropped. -/
def answer (task : MetricsTask) (received : Option (String × Bool)) : Except MetricsServiceError (List Int64) :=
  sendBestAvailableNodes (received.elim (.error .flumeRecvError) .ok) task.bestAvailableNodes

def handle (config : MetricsCollectionConfig) (task : MetricsTask) : MetricsTaskEvent → MetricsTask
  | .timer completions => task.onTimer config completions
  | .collectedMetrics received => task.onCollectedMetrics received
  | .requestBestAvailableModels _ => task
  | .shutdownSignal changed => task.onShutdownSignal changed

end MetricsTask

end AtomaProxy
