/-
The `Streamer`: a node's event stream, polled chunk by chunk, with its
settlement.

One poll takes one transport chunk as one item: it recognises a keep-alive
comment by its text, strips `data: `, stops at `[DONE]`, and parses what is
left as JSON, buffering it where the parser met the end of the text too early.
The settlement is sent by the last chunk's handling, or by the drop where that
did not happen. What a poll only measures (timers, metrics, logs) is left out.
-/
import AtomaProxy.Base.Bytes
import AtomaProxy.Server.RequestModel
import AtomaProxy.Server.VerifyResponse

namespace AtomaProxy

open Base

/-- An error of the JSON parser, and whether it is the unexpected end of the text. -/
structure JsonError where
  isEof : Bool
  text : String
  deriving DecidableEq, Repr

/-- What a poll calls: the JSON parser and the verification of a response. -/
structure StreamerCalls where
  fromStr : List UInt8 → Except JsonError Value
  verify : Value → Bool → Ending AtomaProxyError Unit

inductive StreamStatus where
  | notStarted
  | started
  | completed
  | failed (text : String)
  deriving DecidableEq, Repr

/-- What a `Streamer` is built with and never changes. -/
structure StreamerConfig where
  stackSmallId : Option Int64
  estimatedInputTokens : Int64
  estimatedOutputTokens : Int64
  pricePerOneMillionInputComputeUnits : Int64
  pricePerOneMillionOutputComputeUnits : Int64
  userId : Int64
  modelName : String
  endpoint : String
  deriving DecidableEq, Repr

structure Streamer where
  config : StreamerConfig
  status : StreamStatus
  chunkBuffer : List UInt8
  keepAlivePos : Nat
  isFinalChunkHandled : Bool
  numGeneratedTokens : Int64
  usage : Option Value

/-- `Streamer::new`. -/
def Streamer.new (config : StreamerConfig) : Streamer where
  config
  status := .notStarted
  chunkBuffer := []
  keepAlivePos := 0
  isFinalChunkHandled := false
  numGeneratedTokens := 0
  usage := .none

/-- What the inner stream answers a poll with. -/
inductive Upstream where
  | chunk (bytes : List UInt8)
  | error (text : String)
  | finished
  | pending
  deriving DecidableEq, Repr

/-- The errors a poll yields. -/
inductive StreamError where
  /-- "Invalid UTF-8 sequence" -/
  | invalidUtf8
  /-- "Keep-alive chunk interrupted by non-matching chunk" -/
  | keepAliveInterrupted (chunk : List UInt8)
  /-- "Error parsing chunk" -/
  | parsing (e : JsonError)
  /-- "Error getting … tokens from usage" -/
  | usageField (name : String)
  /-- "Error updating fiat num tokens", "Error updating stack num tokens" -/
  | updating (e : AtomaProxyError)
  /-- "Error verifying and signing response" -/
  | verifying (e : AtomaProxyError)
  deriving DecidableEq, Repr

/-- What a poll answers. An item that is an event is its JSON. -/
inductive PollResult where
  | pending
  | finished
  | event (chunk : Value)
  | error (e : StreamError)
  | panic

def PollResult.isEvent : PollResult → Bool
  | .event _ => true
  | _ => false

def doneChunk : List UInt8 := ascii "[DONE]"
def dataPrefix : List UInt8 := ascii "data: "
def keepAliveChunk : List UInt8 := ascii ": keep-alive\n\n"

/-- A state, the events sent on the way to it, and the answer. -/
structure Polled where
  state : Streamer
  sent : List StateManagerEvent
  result : PollResult

def Streamer.usageField (s : Streamer) (key : String) : Option Int64 :=
  (s.usage.bind fun u => u.get key).bind Value.asI64

/-- The settlement of the stream, of a stack or of a fiat balance. -/
def StreamerConfig.settle (c : StreamerConfig) (inputTokens outputTokens totalTokens : Int64) : Handler Unit :=
  match c.stackSmallId with
  | .some stackSmallId =>
    updateStateManager stackSmallId (c.estimatedInputTokens + c.estimatedOutputTokens) totalTokens
  | .none =>
    updateStateManagerFiat c.userId c.estimatedInputTokens inputTokens c.estimatedOutputTokens outputTokens
      c.pricePerOneMillionInputComputeUnits c.pricePerOneMillionOutputComputeUnits c.modelName c.endpoint

/-- `handle_final_chunk`: what it sends, and the error it ends with; without one the flag is set. -/
def Streamer.handleFinalChunk (s : Streamer) : Polled :=
  match s.usageField "prompt_tokens" with
  | .none => ⟨s, [], .error (.usageField "prompt")⟩
  | .some inputTokens =>
    match s.usageField "completion_tokens" with
    | .none => ⟨s, [], .error (.usageField "completion")⟩
    | .some outputTokens =>
      match s.usageField "total_tokens" with
      | .none => ⟨s, [], .error (.usageField "total")⟩
      | .some totalTokens =>
        let settled := s.config.settle inputTokens outputTokens totalTokens
        match settled.ending with
        | .ok () => ⟨{ s with isFinalChunkHandled := true }, settled.sent, .finished⟩
        | .err e => ⟨s, settled.sent, .error (.updating e)⟩
        | .panic => ⟨s, settled.sent, .panic⟩

/-- What is done with a chunk that parsed: verified, its usage kept, counted, yielded. -/
def Streamer.yieldChunk (calls : StreamerCalls) (s : Streamer) (chunk : Value) : Polled :=
  match calls.verify chunk (s.config.endpoint ≠ confidentialChatCompletionsPath) with
  | .panic => ⟨s, [], .panic⟩
  | .err e => ⟨s, [], .error (.verifying e)⟩
  | .ok () =>
    -- the same for every endpoint: the branch that asks for `choices` is behind a test that took its endpoint
    let usage :=
      match chunk.get "usage" with
      | .some u => if u.isNull then s.usage else .some u
      | .none => s.usage
    ⟨{ s with usage, numGeneratedTokens := s.numGeneratedTokens + 1 }, [], .event chunk⟩

/-- A chunk's text, past the keep-alive test and the prefix, that is not the last one. -/
def Streamer.parseChunk (calls : StreamerCalls) (s : Streamer) (text : List UInt8) : Polled :=
  match calls.fromStr text with
  | .ok chunk => yieldChunk calls { s with chunkBuffer := [] } chunk
  | .error e =>
    if e.isEof then ⟨{ s with chunkBuffer := s.chunkBuffer ++ text }, [], .pending⟩
    else if s.chunkBuffer.isEmpty then ⟨s, [], .error (.parsing e)⟩
    else
      let buffer := s.chunkBuffer ++ text
      match calls.fromStr buffer with
      | .ok chunk => yieldChunk calls { s with chunkBuffer := [] } chunk
      | .error e =>
        if e.isEof then ⟨{ s with chunkBuffer := buffer }, [], .pending⟩
        else ⟨{ s with chunkBuffer := [] }, [], .error (.parsing e)⟩

/-- The prefix stripped, the last chunk or one to parse. -/
def Streamer.handleText (calls : StreamerCalls) (s : Streamer) (text : List UInt8) : Polled :=
  let text := stripPrefix dataPrefix text
  if doneChunk.isPrefixOf text then handleFinalChunk { s with status := .completed }
  else parseChunk calls s text

/-- A chunk of the inner stream. -/
def Streamer.handleChunk (calls : StreamerCalls) (s : Streamer) (chunk : List UInt8) : Polled :=
  let s := { s with status := .started }
  if chunk = keepAliveChunk then ⟨s, [], .pending⟩
  else if !validUtf8 chunk then ⟨s, [], .error .invalidUtf8⟩
  else if chunk.isPrefixOf (keepAliveChunk.drop s.keepAlivePos) then
    let pos := s.keepAlivePos + chunk.length
    ⟨{ s with keepAlivePos := if keepAliveChunk.length ≤ pos then 0 else pos }, [], .pending⟩
  else if s.keepAlivePos > 0 then
    ⟨s, [], .error (.keepAliveInterrupted chunk)⟩
  else handleText calls s chunk

/-- `poll_next`. -/
def Streamer.pollNext (calls : StreamerCalls) (s : Streamer) (upstream : Upstream) : Polled :=
  if s.status = .completed then ⟨s, [], .finished⟩
  else
    match upstream with
    | .chunk bytes => handleChunk calls s bytes
    | .error text => ⟨{ s with status := .failed text }, [], .finished⟩
    | .finished => ⟨{ s with status := .completed }, [], .finished⟩
    | .pending => ⟨s, [], .pending⟩

/-- `drop`: the settlement that the last chunk did not send, where its amounts convert. -/
def Streamer.drop (s : Streamer) : List StateManagerEvent :=
  if s.isFinalChunkHandled then []
  else (s.config.settle s.config.estimatedInputTokens s.numGeneratedTokens
    (s.config.estimatedInputTokens + s.numGeneratedTokens)).sent

/-- Polls in a row, up to a panic; the answers in order. -/
def Streamer.run (calls : StreamerCalls) (s : Streamer) : List Upstream → Streamer × List StateManagerEvent × List PollResult
  | [] => (s, [], [])
  | u :: us =>
    let p := s.pollNext calls u
    match p.result with
    | .panic => (p.state, p.sent, [.panic])
    | r =>
      let (s', sent, results) := run calls p.state us
      (s', p.sent ++ sent, r :: results)

end AtomaProxy
