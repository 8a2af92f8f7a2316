/-
The items of a node's stream, and what one poll makes of a part of one.

The node sends events, keep-alive comments and `[DONE]`. A poll takes a
transport chunk for an item, and puts an event together only where each of its
chunks fails to look like something else: a keep-alive, a prefix, the end, a
JSON text of its own, or the start of one where the event is already complete.
A cut of the stream that meets this is a `FairlyCut`. The parser is a
parameter, with what it documents of an event's text and of the parts of it.
-/
import AtomaProxy.Server.Streamer

namespace AtomaProxy

open Base

/-! ## Items, and what is assumed of the parser -/

/-- An item of the stream: an event by its JSON text and what it parses to. -/
inductive SseItem where
  | event (text : List UInt8) (chunk : Value)
  | keepAlive
  | done

/-- The blank line after an event. -/
def eventEnd : List UInt8 := ascii "\n\n"

/-- An item as it is sent. -/
def SseItem.bytes : SseItem → List UInt8
  | .event text _ => dataPrefix ++ (text ++ eventEnd)
  | .keepAlive => keepAliveChunk
  | .done => dataPrefix ++ (doneChunk ++ eventEnd)

/-- Nothing but line feeds. -/
def Blank (bs : List UInt8) : Prop := ∀ b ∈ bs, b = 10

/-- `text` is the text of the JSON object `chunk`: the parser reads it with blank lines around it, and meets the
end of the text too early in every part of it. -/
structure StreamerCalls.JsonText (calls : StreamerCalls) (text : List UInt8) (chunk : Value) : Prop where
  opens : ∃ rest, text = 0x7B :: rest
  valid : validUtf8 text
  whole : ∀ {before after}, Blank before → Blank after → calls.fromStr (before ++ text ++ after) = .ok chunk
  cut : ∀ {before part}, Blank before → part <+: text → part ≠ text → validUtf8 part →
    ∃ e, calls.fromStr (before ++ part) = .error e ∧ e.isEof

/-- In a blank text it meets the end too early. -/
def StreamerCalls.ReadsBlank (calls : StreamerCalls) : Prop :=
  ∀ {bs}, Blank bs → ∃ e, calls.fromStr bs = .error e ∧ e.isEof

/-- The parser does on the items what it documents. -/
structure StreamerCalls.Documented (calls : StreamerCalls) (items : List SseItem) : Prop where
  blank : calls.ReadsBlank
  events : ∀ {text chunk}, .event text chunk ∈ items → calls.JsonText text chunk

/-! ## Fair cuts -/

/-- A poll takes the chunk neither for a keep-alive nor for the last one, and strips nothing. -/
structure Plain (chunk : List UInt8) : Prop where
  notKeepAlive : ¬ chunk <+: keepAliveChunk
  notPrefixed : ¬ dataPrefix <+: chunk
  notDone : ¬ doneChunk <+: chunk

/-- What a chunk has to meet that continues the text of an event after `received`. -/
structure Continues (calls : StreamerCalls) (text received chunk : List UInt8) : Prop extends Plain chunk where
  notAlone : ∃ e, calls.fromStr chunk = .error e ∧ (text <+: received ++ chunk → e.isEof = false)

/-- The chunks of an event after its prefix, `received` having come: those within the text continue it. -/
def FairParts (calls : StreamerCalls) (text : List UInt8) : List UInt8 → List (List UInt8) → Prop
  | _, [] => True
  | received, chunk :: chunks =>
    validUtf8 chunk ∧ (received ≠ [] → ¬ text <+: received → Continues calls text received chunk) ∧
      FairParts calls text (received ++ chunk) chunks

/-- The chunks of an item. Those of a keep-alive are cut anywhere; the prefix of the others is not cut. -/
def SseItem.Fair (calls : StreamerCalls) : SseItem → List (List UInt8) → Prop
  | .event text _, chunks => ∃ first rest, chunks = (dataPrefix ++ first) :: rest ∧
      validUtf8 (dataPrefix ++ first) ∧ FairParts calls text first rest
  | .keepAlive, _ => True
  | .done, chunks => ∃ first rest, chunks = (dataPrefix ++ first) :: rest ∧
      (doneChunk <+: first ∨ first = [] ∧ ∃ second others, rest = second :: others ∧ doneChunk <+: second)

/-- The items' bytes in non-empty chunks, each within one item, and those of an item fair. -/
inductive FairlyCut (calls : StreamerCalls) : List SseItem → List (List UInt8) → Prop
  | nil : FairlyCut calls [] []
  | item {i items parts chunks} : parts.flatten = i.bytes → [] ∉ parts → i.Fair calls parts →
      FairlyCut calls items chunks → FairlyCut calls (i :: items) (parts ++ chunks)

/-- A fair cut is a cut. -/
theorem FairlyCut.flatten {calls items chunks} (h : FairlyCut calls items chunks) :
    chunks.flatten = (items.map SseItem.bytes).flatten := by
  induction h with
  | nil => rfl
  | item hparts _ _ _ ih => rw [List.flatten_append, hparts, ih, List.map_cons, List.flatten_cons]

/-! ## What a stream has come to -/

def Streamer.flush (s : Streamer) : Streamer := { s with chunkBuffer := [] }

def Streamer.buffer (s : Streamer) (text : List UInt8) : Streamer := { s with chunkBuffer := s.chunkBuffer ++ text }

/-- An event, an error or a panic: what a stream yields. -/
def PollResult.isItem : PollResult → Bool
  | .pending | .finished => false
  | _ => true

def PollResult.isPanic : PollResult → Bool
  | .panic => true
  | _ => false

def PollResult.event? : PollResult → Option Value
  | .event chunk => .some chunk
  | _ => .none

/-- The state of a stream, what was sent and yielded on the way to it, and whether a poll panicked. -/
structure Transcript where
  streamer : Streamer
  sent : List StateManagerEvent
  yielded : List PollResult
  panicked : Bool

namespace Transcript

variable {calls : StreamerCalls} {t : Transcript}

def start (s : Streamer) : Transcript := ⟨s, [], [], false⟩

def add (t : Transcript) (p : Polled) : Transcript where
  streamer := p.state
  sent := t.sent ++ p.sent
  yielded := t.yielded ++ [p.result].filter PollResult.isItem
  panicked := p.result.isPanic

/-- A chunk polled. -/
def poll (calls : StreamerCalls) (t : Transcript) (chunk : List UInt8) : Transcript :=
  if t.panicked then t else t.add (t.streamer.pollNext calls (.chunk chunk))

/-- The same but for what is in the buffer. -/
def flushed (t : Transcript) : Transcript := { t with streamer := t.streamer.flush }

end Transcript

/-- What an item does to a stream with an empty buffer, when it comes as one. -/
def Streamer.onItem (calls : StreamerCalls) (s : Streamer) (i : SseItem) : Polled :=
  if s.status = .completed then ⟨s, [], .finished⟩
  else
    match i with
    | .event _ chunk => yieldChunk calls { s with status := .started } chunk
    | .keepAlive => ⟨{ s with status := .started }, [], .pending⟩
    | .done => handleFinalChunk { s with status := .completed }

def Transcript.onItem (calls : StreamerCalls) (t : Transcript) (i : SseItem) : Transcript :=
  if t.panicked then t else t.add (t.streamer.onItem calls i)

theorem blank_eventEnd : Blank eventEnd := by
  intro b hb
  have h : eventEnd.all (· == 10) = true := by decide
  exact eq_of_beq (List.all_eq_true.1 h b hb)

theorem Blank.append {bs cs : List UInt8} (hb : Blank bs) (hc : Blank cs) : Blank (bs ++ cs) := by
  intro b h
  rcases List.mem_append.1 h with h | h
  · exact hb b h
  · exact hc b h

theorem Blank.of_append {bs cs : List UInt8} (h : Blank (bs ++ cs)) : Blank bs ∧ Blank cs :=
  ⟨fun b hb => h b (List.mem_append_left cs hb), fun b hb => h b (List.mem_append_right bs hb)⟩

theorem blank_nil : Blank [] := fun _ h => nomatch h

/-- What a part of an event is once its text is complete: the text and blank lines. -/
theorem complete_part {text part tail : List UInt8} (h : part ++ tail = text ++ eventEnd) (hp : text <+: part) :
    ∃ after, part = text ++ after ∧ Blank after ∧ Blank tail := by
  obtain ⟨after, rfl⟩ := hp
  rw [List.append_assoc, List.append_cancel_left_eq] at h
  obtain ⟨ha, ht⟩ := (h ▸ blank_eventEnd : Blank (after ++ tail)).of_append
  exact ⟨after, rfl, ha, ht⟩

/-- And before that: a part of the text. -/
theorem open_part {text part tail : List UInt8} (h : part ++ tail = text ++ eventEnd) (hp : ¬ text <+: part) :
    part <+: text ∧ part ≠ text := by
  refine ⟨?_, fun he => hp (he ▸ List.prefix_refl text)⟩
  rcases List.prefix_or_prefix_of_prefix (h ▸ List.prefix_append part tail) (List.prefix_append text eventEnd)
    with h' | h'
  · exact h'
  · exact absurd h' hp

/-- A chunk that starts with none of the bytes that the poll looks for. -/
theorem plain_of_head {b : UInt8} {rest : List UInt8} (hc : b ≠ 58) (hd : b ≠ 100) (hb : b ≠ 91) :
    Plain (b :: rest) := by
  have hk : keepAliveChunk = 58 :: keepAliveChunk.tail := by decide
  have hp : dataPrefix = 100 :: dataPrefix.tail := by decide
  have he : doneChunk = 91 :: doneChunk.tail := by decide
  refine ⟨?_, ?_, ?_⟩
  · rw [hk, List.cons_prefix_cons]
    exact fun h => hc h.1
  · rw [hp, List.cons_prefix_cons]
    exact fun h => hd h.1.symm
  · rw [he, List.cons_prefix_cons]
    exact fun h => hb h.1.symm

theorem plain_of_blank {bs : List UInt8} (h : Blank bs) (hne : bs ≠ []) : Plain bs := by
  cases bs with
  | nil => exact absurd rfl hne
  | cons b bs =>
    rw [h b List.mem_cons_self]
    exact plain_of_head (by decide) (by decide) (by decide)

theorem StreamerCalls.JsonText.plain {calls : StreamerCalls} {text : List UInt8} {chunk : Value}
    (hj : calls.JsonText text chunk) {c tail : List UInt8} (hne : c ≠ []) (h : c ++ tail = text ++ eventEnd) : Plain c := by
  obtain ⟨rest, rfl⟩ := hj.opens
  cases c with
  | nil => exact absurd rfl hne
  | cons b c =>
    obtain ⟨rfl, _⟩ := List.cons.inj h
    exact plain_of_head (by decide) (by decide) (by decide)

/-! ## One poll -/

namespace Streamer

variable {calls : StreamerCalls} {s : Streamer} {text received c tail w : List UInt8} {chunk : Value}

/-- The chunk that completes an event's text yields the event. -/
theorem parseChunk_complete (hj : calls.JsonText text chunk) (hw : Blank w) (hbuf : s.chunkBuffer = w ++ received)
    (hcut : received ++ c ++ tail = text ++ eventEnd) (hfull : text <+: received ++ c)
    (halone : received ≠ [] → ∃ e, calls.fromStr c = .error e ∧ e.isEof = false) :
    parseChunk calls s c = yieldChunk calls s.flush chunk := by
  obtain ⟨after, hafter, hblank, _⟩ := complete_part hcut hfull
  by_cases hr : received = []
  · rw [hr, List.nil_append] at hafter
    have hparse := @StreamerCalls.JsonText.whole calls text chunk hj [] after blank_nil hblank
    rw [List.nil_append, ← hafter] at hparse
    rw [parseChunk, hparse, flush]
  · obtain ⟨e, he, heof⟩ := halone hr
    have hne : s.chunkBuffer.isEmpty = false := by
      rw [hbuf, List.isEmpty_eq_false_iff]
      exact List.append_ne_nil_of_right_ne_nil w hr
    have hparse : calls.fromStr (s.chunkBuffer ++ c) = .ok chunk := by
      rw [hbuf, List.append_assoc, hafter, ← List.append_assoc]
      exact hj.whole hw hblank
    simp [parseChunk, he, heof, hne, hparse, flush]

/-- A chunk within the text is kept in the buffer. -/
theorem parseChunk_open (hj : calls.JsonText text chunk) (hw : Blank w) (hbuf : s.chunkBuffer = w ++ received)
    (hcut : received ++ c ++ tail = text ++ eventEnd) (hopen : ¬ text <+: received ++ c) (hv : validUtf8 (received ++ c))
    (halone : received ≠ [] → ∃ e, calls.fromStr c = .error e) :
    parseChunk calls s c = ⟨s.buffer c, [], .pending⟩ := by
  obtain ⟨hpart, hne⟩ := open_part hcut hopen
  by_cases hr : received = []
  · rw [hr, List.nil_append] at hpart hne hv
    obtain ⟨e, he, heof⟩ := hj.cut blank_nil hpart hne hv
    rw [List.nil_append] at he
    simp [parseChunk, he, heof, buffer]
  · obtain ⟨e, he⟩ := halone hr
    have hempty : s.chunkBuffer.isEmpty = false := by
      rw [hbuf, List.isEmpty_eq_false_iff]
      exact List.append_ne_nil_of_right_ne_nil w hr
    obtain ⟨e', he', heof'⟩ := hj.cut hw hpart hne hv
    rw [← List.append_assoc, ← hbuf] at he'
    by_cases heof : e.isEof
    · simp [parseChunk, he, heof, buffer]
    · simp [parseChunk, he, heof, hempty, he', heof', buffer]

theorem started_eq (hs : s.status = .started) : { s with status := .started } = s := by rw [← hs]

theorem not_completed (hs : s.status = .started) : s.status ≠ .completed := fun hc => by
  rw [hs] at hc
  cases hc

/-- A poll of a started stream. -/
theorem pollNext_chunk (hs : s.status = .started) : s.pollNext calls (.chunk c) =
    if c = keepAliveChunk then ⟨s, [], .pending⟩
    else if !validUtf8 c then ⟨s, [], .error .invalidUtf8⟩
    else if c.isPrefixOf (keepAliveChunk.drop s.keepAlivePos) then
      ⟨{ s with keepAlivePos :=
        if keepAliveChunk.length ≤ s.keepAlivePos + c.length then 0 else s.keepAlivePos + c.length }, [], .pending⟩
    else if s.keepAlivePos > 0 then ⟨s, [], .error (.keepAliveInterrupted c)⟩
    else handleText calls s c := by
  rw [pollNext, if_neg (not_completed hs)]
  unfold handleChunk
  rw [started_eq hs]

/-- A plain chunk between keep-alives is parsed. -/
theorem pollNext_plain (hs : s.status = .started) (hpos : s.keepAlivePos = 0) (hv : validUtf8 c) (hp : Plain c) :
    s.pollNext calls (.chunk c) = parseChunk calls s c := by
  have hk : c ≠ keepAliveChunk := fun h => hp.notKeepAlive (h ▸ List.prefix_refl _)
  rw [pollNext_chunk hs]
  simp [hk, hv, hpos, isPrefixOf_eq_false hp.notKeepAlive, handleText, stripPrefix_of_not hp.notPrefixed,
    isPrefixOf_eq_false hp.notDone]

/-- A chunk with the prefix is what follows the prefix. -/
theorem pollNext_prefixed (hs : s.status = .started) (hpos : s.keepAlivePos = 0) (hv : validUtf8 (dataPrefix ++ c)) :
    s.pollNext calls (.chunk (dataPrefix ++ c)) =
      if doneChunk.isPrefixOf c then handleFinalChunk { s with status := .completed }
      else parseChunk calls s c := by
  have hk : ¬ dataPrefix ++ c <+: keepAliveChunk := by
    have h1 : keepAliveChunk = 58 :: keepAliveChunk.tail := by decide
    have h2 : dataPrefix = 100 :: dataPrefix.tail := by decide
    rw [h1, h2, List.cons_append, List.cons_prefix_cons]
    exact fun h => absurd h.1 (by decide)
  have hne : dataPrefix ++ c ≠ keepAliveChunk := fun h => hk (h ▸ List.prefix_refl _)
  rw [pollNext_chunk hs]
  simp [hne, hv, hpos, isPrefixOf_eq_false hk, handleText, stripPrefix_append]

/-- The chunk that brings `[DONE]` without a prefix before it. -/
theorem pollNext_done (hs : s.status = .started) (hpos : s.keepAlivePos = 0) (hv : validUtf8 c)
    (hdone : doneChunk <+: c) :
    s.pollNext calls (.chunk c) = handleFinalChunk { s with status := .completed } := by
  obtain ⟨rest, rfl⟩ := hdone
  have he : doneChunk = 91 :: doneChunk.tail := by decide
  have h1 : keepAliveChunk = 58 :: keepAliveChunk.tail := by decide
  have h2 : dataPrefix = 100 :: dataPrefix.tail := by decide
  have hk : ¬ doneChunk ++ rest <+: keepAliveChunk := by
    rw [h1, he, List.cons_append, List.cons_prefix_cons]
    exact fun h => absurd h.1 (by decide)
  have hp : ¬ dataPrefix <+: doneChunk ++ rest := by
    rw [h2, he, List.cons_append, List.cons_prefix_cons]
    exact fun h => absurd h.1 (by decide)
  have hne : doneChunk ++ rest ≠ keepAliveChunk := fun h => hk (h ▸ List.prefix_refl _)
  have hd : doneChunk.isPrefixOf (doneChunk ++ rest) = true :=
    List.isPrefixOf_iff_prefix.2 (List.prefix_append doneChunk rest)
  rw [pollNext_chunk hs]
  simp [hne, hv, hpos, isPrefixOf_eq_false hk, handleText, stripPrefix_of_not hp, hd]

/-- A chunk that continues a keep-alive, or is one. -/
theorem pollNext_keepAlive (hs : s.status = .started) (hpos : s.keepAlivePos = received.length) (hne : c ≠ [])
    (hcut : received ++ c ++ tail = keepAliveChunk) :
    s.pollNext calls (.chunk c) =
      ⟨{ s with keepAlivePos := (received ++ c).length % keepAliveChunk.length }, [], .pending⟩ := by
  have hlen := congrArg List.length hcut
  simp only [List.length_append] at hlen
  have hpositive := List.length_pos_iff.2 hne
  by_cases hk : c = keepAliveChunk
  · have hr : received.length = 0 := by
      rw [← hk] at hlen
      omega
    have hz : s.keepAlivePos = 0 := hpos.trans hr
    rw [pollNext_chunk hs, if_pos hk, List.length_append, hr, hk, Nat.zero_add, Nat.mod_self, ← hz]
  · have hascii : keepAliveChunk.all (· < 0x80) = true := by decide
    have hv : validUtf8 c := validUtf8_of_ascii fun b hb =>
      of_decide_eq_true (List.all_eq_true.1 hascii b (by simp [← hcut, hb]))
    have hdrop : keepAliveChunk.drop s.keepAlivePos = c ++ tail := by
      rw [hpos, ← hcut, List.append_assoc, List.drop_left]
    have hprefix : c.isPrefixOf (keepAliveChunk.drop s.keepAlivePos) = true :=
      List.isPrefixOf_iff_prefix.2 (hdrop ▸ List.prefix_append c tail)
    have hend : (if keepAliveChunk.length ≤ received.length + c.length then 0 else received.length + c.length) =
        (received.length + c.length) % keepAliveChunk.length := by
      split
      · next h => rw [show received.length + c.length = keepAliveChunk.length by omega, Nat.mod_self]
      · next h => rw [Nat.mod_eq_of_lt (by omega)]
    rw [List.length_append, ← hend, ← hpos]
    simp [pollNext_chunk hs, hk, hv, hprefix]

/-- The last chunk's handling keeps the status and the configuration, and yields no event. -/
theorem handleFinalChunk_ends :
    (handleFinalChunk s).state.status = s.status ∧ (handleFinalChunk s).result.event? = .none ∧
      (handleFinalChunk s).state.config = s.config := by
  unfold handleFinalChunk
  cases s.usageField "prompt_tokens" with
  | none => exact ⟨rfl, rfl, rfl⟩
  | some i =>
    cases s.usageField "completion_tokens" with
    | none => exact ⟨rfl, rfl, rfl⟩
    | some o =>
      cases s.usageField "total_tokens" with
      | none => exact ⟨rfl, rfl, rfl⟩
      | some n =>
        dsimp only
        split <;> exact ⟨rfl, rfl, rfl⟩

/-- It does not look at the buffer. -/
theorem handleFinalChunk_flush : handleFinalChunk s.flush =
    { handleFinalChunk s with state := (handleFinalChunk s).state.flush } := by
  have hfield : ∀ key, s.flush.usageField key = s.usageField key := fun _ => rfl
  unfold handleFinalChunk
  rw [hfield, hfield, hfield]
  cases s.usageField "prompt_tokens" with
  | none => rfl
  | some i =>
    cases s.usageField "completion_tokens" with
    | none => rfl
    | some o =>
      cases s.usageField "total_tokens" with
      | none => rfl
      | some n =>
        rw [show s.flush.config = s.config from rfl]
        dsimp only
        cases (s.config.settle i o n).ending <;> rfl

end Streamer

/-! ## A parser of one text -/

/-- It reads `text`, with line feeds anywhere, as `chunk`. -/
def oneTextParser (text : List UInt8) (chunk : Value) (bs : List UInt8) : Except JsonError Value :=
  let read := bs.filter (· != 10)
  if read = text then .ok chunk
  else if read.isPrefixOf text then .error ⟨true, "EOF while parsing"⟩
  else .error ⟨false, "expected value"⟩

section OneText

variable {calls : StreamerCalls} {text : List UInt8} {chunk : Value}

theorem filter_blank {bs : List UInt8} (h : Blank bs) : bs.filter (· != 10) = [] := by
  rw [List.filter_eq_nil_iff]
  intro b hb
  simp [h b hb]

/-- A text without line feeds that is an object's is read as documented. -/
theorem oneTextParser_jsonText (hc : calls.fromStr = oneTextParser text chunk) (hopens : ∃ rest, text = 0x7B :: rest)
    (hvalid : validUtf8 text) (hlines : ∀ b ∈ text, b != 10) : calls.JsonText text chunk := by
  refine ⟨hopens, hvalid, fun hbefore hafter => ?_, fun {before part} hbefore hpart hne _ => ?_⟩
  · rw [hc]
    simp only [oneTextParser, List.filter_append, filter_blank hbefore, filter_blank hafter,
      List.filter_eq_self.2 hlines, List.nil_append, List.append_nil, if_true]
  · have hpart' : part.filter (· != 10) = part := List.filter_eq_self.2 fun b hb => hlines b (hpart.subset hb)
    refine ⟨⟨true, "EOF while parsing"⟩, ?_, rfl⟩
    rw [hc]
    simp only [oneTextParser, List.filter_append, filter_blank hbefore, hpart', List.nil_append, if_neg hne,
      List.isPrefixOf_iff_prefix.2 hpart, if_true]

theorem oneTextParser_readsBlank {b : UInt8} {rest : List UInt8} (hc : calls.fromStr = oneTextParser (b :: rest) chunk) :
    calls.ReadsBlank := by
  intro bs hbs
  refine ⟨⟨true, "EOF while parsing"⟩, ?_, rfl⟩
  rw [hc, oneTextParser, filter_blank hbs]
  rfl

end OneText

end AtomaProxy
