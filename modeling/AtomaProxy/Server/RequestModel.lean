/-
The request models: what each endpoint reads of a JSON body, and the compute
units it estimates for it. The output estimate of a chat or text completion is
whatever `u64` the body names, an image request's is a product of three.

The tokenizer is not part of the repository: it is a function from a text to
the number of its tokens, or the error text it fails with.
-/
import AtomaProxy.Server.Errors
import AtomaProxy.Server.Value

namespace AtomaProxy

def completionsPath : String := "/v1/completions"
def confidentialCompletionsPath : String := "/v1/confidential/completions"
def chatCompletionsPath : String := "/v1/chat/completions"
def confidentialChatCompletionsPath : String := "/v1/confidential/chat/completions"
def embeddingsPath : String := "/v1/embeddings"
def confidentialEmbeddingsPath : String := "/v1/confidential/embeddings"
def imageGenerationsPath : String := "/v1/images/generations"
def confidentialImageGenerationsPath : String := "/v1/confidential/images/generations"

def defaultMaxTokens : UInt64 := 8192
def messageOverheadTokens : UInt64 := 3

structure ComputeUnitsEstimate where
  numInputTokens : UInt64
  maxOutputTokens : UInt64
  deriving DecidableEq, Repr

/-- The number of tokens of a text, special tokens included. -/
abbrev Tokenizer := String → Except String UInt64

/-- The trait `RequestModel`, of a model that is built. -/
structure RequestModel where
  getModel : String
  getComputeUnitsEstimate : Option Tokenizer → Except AtomaProxyError ComputeUnitsEstimate

def missing {α} (x : Option α) (message endpoint : String) : Except AtomaProxyError α :=
  match x with
  | .some a => .ok a
  | .none => .error (.requestError message endpoint)

/-- `max_completion_tokens`, or `max_tokens` where the body has no such member at all. -/
def readMaxTokens (request : Value) : UInt64 :=
  (((request.get "max_completion_tokens").or (request.get "max_tokens")).bind Value.asU64).getD defaultMaxTokens

def countTextTokens (tokenizer : Tokenizer) (endpoint text : String) : Except AtomaProxyError UInt64 :=
  match tokenizer text with
  | .ok n => .ok n
  | .error err => .error (.internalError ("Failed to encode message: " ++ err)
      (.some "Failed to encode message using the model's tokenizer") endpoint)

def tokenizerNotFound (endpoint : String) : AtomaProxyError :=
  .internalError "Tokenizer not found for current model"
    (.some "No available tokenizer found for current model, try again later or open a ticket") endpoint

/-! ## Chat completions -/

structure RequestModelChatCompletions where
  model : String
  messages : List Value
  maxCompletionTokens : UInt64

/-- The part of a message, as far as the estimate tells parts apart. -/
inductive MessageContentPart where
  | text (text : String)
  | image

inductive MessageContent where
  | text (text : String)
  | array (parts : List MessageContentPart)

def isOptionalString : Option Value → Bool
  | .none | .some .null | .some (.string _) => true
  | .some _ => false

/-- An image URL: an object with a string `url` and an optional string `detail`, or the two in a row. -/
def isImageUrl : Value → Bool
  | .array [.string _, detail] => isOptionalString (.some detail)
  | v => ((v.get "url").bind Value.asStr).isSome && isOptionalString (v.get "detail")

/-- `MessageContentPart`, untagged: text if it has one, else an image. -/
def MessageContentPart.deserialize : Value → Option MessageContentPart
  | .array [.string _, .string t] => .some (.text t)
  | .array [.string _, url] => if isImageUrl url then .some .image else .none
  | v =>
    match (v.get "type").bind Value.asStr, (v.get "text").bind Value.asStr with
    | .some _, .some t => .some (.text t)
    | .some _, .none => if (v.get "image_url").any isImageUrl then .some .image else .none
    | .none, _ => .none

def MessageContent.deserialize : Value → Option MessageContent
  | .string s => .some (.text s)
  | .array items => (items.mapM MessageContentPart.deserialize).map .array
  | _ => .none

namespace RequestModelChatCompletions

def new (request : Value) : Except AtomaProxyError RequestModelChatCompletions := do
  let model ← missing ((request.get "model").bind Value.asStr) "Missing or invalid 'model' field"
    chatCompletionsPath
  let messages ← missing ((request.get "messages").bind Value.asArray) "Missing or invalid 'messages' field"
    chatCompletionsPath
  .ok { model, messages, maxCompletionTokens := readMaxTokens request }

def partTokens (tokenizer : Tokenizer) : MessageContentPart → Except AtomaProxyError UInt64
  | .text text => do .ok ((← countTextTokens tokenizer chatCompletionsPath text) + messageOverheadTokens)
  | .image => .ok 0

/-- What one message adds to the input tokens. -/
def messageTokens (tokenizer : Tokenizer) (message : Value) : Except AtomaProxyError UInt64 := do
  let content ← missing ((message.get "content").bind MessageContent.deserialize)
    "Missing or invalid message content" chatCompletionsPath
  match content with
  | .text text => .ok ((← countTextTokens tokenizer chatCompletionsPath text) + messageOverheadTokens)
  | .array [] => .error (.requestError "Missing or invalid message content" chatCompletionsPath)
  | .array parts => do .ok (← parts.mapM (partTokens tokenizer)).sum

def getComputeUnitsEstimate (self : RequestModelChatCompletions) :
    Option Tokenizer → Except AtomaProxyError ComputeUnitsEstimate
  | .none => .error (tokenizerNotFound chatCompletionsPath)
  | .some tokenizer => do
    let total ← self.messages.mapM (messageTokens tokenizer)
    .ok { numInputTokens := total.sum, maxOutputTokens := self.maxCompletionTokens }

def toRequestModel (self : RequestModelChatCompletions) : RequestModel :=
  ⟨self.model, self.getComputeUnitsEstimate⟩

end RequestModelChatCompletions

/-! ## Completions -/

inductive CompletionsPrompt where
  | single (prompt : String)
  | list (prompts : List String)
  | tokens (tokens : List UInt32)
  | tokenArrays (tokenArrays : List (List UInt32))

def asU32 (v : Value) : Option UInt32 :=
  v.asU64.bind fun n => if n.toNat < 2 ^ 32 then .some n.toUInt32 else .none

/-- `CompletionsPrompt`, untagged: the first of its forms that fits. -/
def CompletionsPrompt.deserialize : Value → Option CompletionsPrompt
  | .string s => .some (.single s)
  | .array items =>
    ((items.mapM Value.asStr).map list).or <| ((items.mapM asU32).map tokens).or <|
      (items.mapM fun (v : Value) => v.asArray.bind fun xs => xs.mapM asU32).map tokenArrays
  | _ => .none

structure RequestModelCompletions where
  model : String
  prompt : CompletionsPrompt
  maxTokens : UInt64

namespace RequestModelCompletions

/-- The text of the error an untagged enum gives when no form fits. -/
def invalidPrompt : String := "Invalid 'prompt' field for `RequestModelCompletions`: " ++
  "data did not match any variant of untagged enum CompletionsPrompt"

def new (request : Value) : Except AtomaProxyError RequestModelCompletions := do
  let model ← missing ((request.get "model").bind Value.asStr)
    "Missing or invalid 'model' field for `RequestModelCompletions`" completionsPath
  let prompt ← missing (request.get "prompt") "Missing or invalid 'prompt' field for `RequestModelCompletions`"
    completionsPath
  let prompt ← missing (CompletionsPrompt.deserialize prompt) invalidPrompt completionsPath
  .ok { model, prompt, maxTokens := readMaxTokens request }

def requireTokenizer (tokenizer : Option Tokenizer) : Except AtomaProxyError Tokenizer :=
  missing tokenizer "Tokenizer is required for `RequestModelCompletions`" completionsPath

/-- A failed count of a single prompt is a request error, of a prompt in a list it counts nothing. -/
def numInputTokens (self : RequestModelCompletions) (tokenizer : Option Tokenizer) :
    Except AtomaProxyError UInt64 :=
  match self.prompt with
  | .single prompt => do
    let t ← requireTokenizer tokenizer
    match t prompt with
    | .ok n => .ok n
    | .error err => .error (.requestError ("Failed to count text tokens: " ++ err) completionsPath)
  | .list prompts => do
    let t ← requireTokenizer tokenizer
    .ok (prompts.map fun prompt => (countTextTokens t completionsPath prompt).toOption.getD 0).sum
  | .tokens tokens => .ok (.ofNat tokens.length)
  | .tokenArrays tokenArrays => .ok (tokenArrays.map fun tokens => UInt64.ofNat tokens.length).sum

def getComputeUnitsEstimate (self : RequestModelCompletions) (tokenizer : Option Tokenizer) :
    Except AtomaProxyError ComputeUnitsEstimate := do
  .ok { numInputTokens := ← self.numInputTokens tokenizer, maxOutputTokens := self.maxTokens }

def toRequestModel (self : RequestModelCompletions) : RequestModel := ⟨self.model, self.getComputeUnitsEstimate⟩

end RequestModelCompletions

/-! ## Embeddings -/

structure RequestModelEmbeddings where
  model : String
  input : String

namespace RequestModelEmbeddings

def new (request : Value) : Except AtomaProxyError RequestModelEmbeddings := do
  let model ← missing ((request.get "model").bind Value.asStr) "Model field is required" embeddingsPath
  let input ← missing ((request.get "input").bind Value.asStr) "Input field is required" embeddingsPath
  .ok { model, input }

def getComputeUnitsEstimate (self : RequestModelEmbeddings) :
    Option Tokenizer → Except AtomaProxyError ComputeUnitsEstimate
  | .none => .error (tokenizerNotFound embeddingsPath)
  | .some tokenizer =>
    match tokenizer self.input with
    | .ok numTokens => .ok { numInputTokens := numTokens, maxOutputTokens := 0 }
    | .error err => .error (.internalError ("Failed to encode input: " ++ err)
        (.some "Failed to encode message using the model's tokenizer") embeddingsPath)

def toRequestModel (self : RequestModelEmbeddings) : RequestModel := ⟨self.model, self.getComputeUnitsEstimate⟩

end RequestModelEmbeddings

/-! ## Image generations -/

def digit? (c : Char) : Option Nat := if '0' ≤ c ∧ c ≤ '9' then .some (c.toNat - '0'.toNat) else .none

/-- `str::parse::<u64>`: digits, with at most one plus sign before them, within range. -/
def parseU64 (s : List Char) : Option UInt64 := do
  let digits := match s with
    | '+' :: rest => rest
    | _ => s
  let ds ← digits.mapM digit?
  let n := ds.foldl (fun acc d => 10 * acc + d) 0
  if ds ≠ [] ∧ n < 2 ^ 64 then .some (.ofNat n) else .none

structure RequestModelImageGenerations where
  model : String
  n : UInt64
  size : String

namespace RequestModelImageGenerations

def new (request : Value) : Except AtomaProxyError RequestModelImageGenerations := do
  let model ← missing ((request.get "model").bind Value.asStr) "Model field   is required" imageGenerationsPath
  let n ← missing ((request.get "n").bind Value.asU64) "N field is required" imageGenerationsPath
  let size ← missing ((request.get "size").bind Value.asStr) "Size field is required" imageGenerationsPath
  .ok { model, n, size }

/-- The units of all images; the product wraps. -/
def getComputeUnitsEstimate (self : RequestModelImageGenerations) (_tokenizer : Option Tokenizer) :
    Except AtomaProxyError ComputeUnitsEstimate :=
  match (self.size.toList.splitOn 'x').filterMap parseU64 with
  | [width, height] => .ok { numInputTokens := 0, maxOutputTokens := self.n * width * height }
  | _ => .error (.requestError ("Invalid size format: " ++ self.size) imageGenerationsPath)

def toRequestModel (self : RequestModelImageGenerations) : RequestModel :=
  ⟨self.model, self.getComputeUnitsEstimate⟩

end RequestModelImageGenerations

end AtomaProxy
