/-
A streaming response: the task that polls the `Streamer`, the client's half of
it, and the two channels between them.

The task and the client take their steps in any order. The task hands on what
the streamer yields, and goes on where nobody receives it any more and where
it is told that the client left, for the streamer to settle with the node's
own usage. The client receives until the task's sender is gone, and tells the
task where it leaves before that.
-/
import AtomaProxy.Base.Channel
import AtomaProxy.Base.Machine
import AtomaProxy.Server.StreamerSettles

namespace AtomaProxy

open Base

/-- `ClientStreamer`, its two ends of the channels apart. -/
structure ClientStreamer where
  done : Bool
  deriving DecidableEq, Repr

/-- A response while it streams. A channel is open while its sender lives; its receiver lives in the other half. -/
structure StreamingResponse where
  /-- The task's, until the task ends. -/
  streamer : Option Streamer
  /-- The client's half, until it is dropped. -/
  client : Option ClientStreamer
  events : Channel Value
  killSignal : Channel Unit
  /-- What the streamer sent the state manager. -/
  sent : List StateManagerEvent
  /-- How often the node was asked to stop. -/
  stopRequests : Nat

/-- One step of one half. -/
inductive StreamingStep where
  /-- the task polls the streamer, whose inner stream answers so -/
  | next (upstream : Upstream)
  /-- the task receives the kill signal -/
  | kill
  /-- the runtime drops the task where it waits -/
  | abort
  | pollClient
  | dropClient

namespace StreamingResponse

/-- `handle_streaming_response`, once the node's answer is there. -/
def start (c : StreamerConfig) : StreamingResponse where
  streamer := .some (.new c)
  client := .some ⟨false⟩
  events := .fresh
  killSignal := .fresh
  sent := []
  stopRequests := 0

/-- The streamer is dropped, and the task's ends of the channels with it. -/
def endTask (r : StreamingResponse) (s : Streamer) : StreamingResponse :=
  { r with streamer := .none, events := r.events.close, sent := r.sent ++ s.drop }

/-- `event_sender.send(maybe_chunk)`. Where the receiver is gone its error is logged. -/
def sendChunk (r : StreamingResponse) (chunk : Value) : StreamingResponse :=
  if r.client.isSome then { r with events := (r.events.send chunk).getD r.events } else r

/-- The branch of `streamer.next()`. -/
def nextEvent (calls : StreamerCalls) (r : StreamingResponse) (s : Streamer) (upstream : Upstream) :
    StreamingResponse :=
  let p := s.pollNext calls upstream
  let r := { r with streamer := .some p.state, sent := r.sent ++ p.sent }
  match p.result with
  | .pending => r
  | .event chunk => r.sendChunk chunk
  | .error _ => r
  | .finished => r.endTask p.state
  | .panic => r.endTask p.state

/-- The branch of the kill signal. Whether the node could be told makes no difference. -/
def receiveKill (r : StreamingResponse) : Option StreamingResponse :=
  r.killSignal.recv.map fun (_, killSignal) => { r with killSignal, stopRequests := r.stopRequests + 1 }

/-- `ClientStreamer::poll_next`. -/
def pollClient (r : StreamingResponse) (c : ClientStreamer) : StreamingResponse :=
  match r.events.recv with
  | .some (_, events) => { r with events }
  | .none => if r.events.isOpen then r else { r with client := .some { c with done := true } }

/-- `ClientStreamer::drop`. The signal is lost where the task ended, and its receiver with it. -/
def dropClient (r : StreamingResponse) (c : ClientStreamer) : StreamingResponse :=
  let killSignal := if c.done || r.streamer.isNone then r.killSignal else (r.killSignal.send ()).getD r.killSignal
  { r with client := .none, killSignal := killSignal.close }

def step (calls : StreamerCalls) (r : StreamingResponse) : StreamingStep → Option StreamingResponse
  | .next upstream => r.streamer.map fun s => r.nextEvent calls s upstream
  | .kill => if r.streamer.isSome then r.receiveKill else .none
  | .abort => r.streamer.map r.endTask
  | .pollClient => r.client.map r.pollClient
  | .dropClient => r.client.map r.dropClient

end StreamingResponse

def streamingMachine (calls : StreamerCalls) : Machine StreamingResponse StreamingStep :=
  ⟨StreamingResponse.step calls⟩

/-- The answers of the inner stream, in order. -/
def upstreams (steps : List StreamingStep) : List Upstream :=
  steps.filterMap fun
    | .next upstream => .some upstream
    | _ => .none

def PollResult.chunk? : PollResult → Option Value
  | .event chunk => .some chunk
  | _ => .none

/-- What a streamer yields over `us`, in order. -/
def yieldedChunks (calls : StreamerCalls) (c : StreamerConfig) (us : List Upstream) : List Value :=
  ((Streamer.new c).run calls us).2.2.filterMap PollResult.chunk?


/-! ## The streamer's polls, one more -/

section

variable {calls : StreamerCalls} {c : StreamerConfig}

theorem Streamer.run_concat {us : List Upstream} : ∀ {s : Streamer}, .panic ∉ (s.run calls us).2.2 →
    ∀ u, s.run calls (us ++ [u]) = (((s.run calls us).1.pollNext calls u).state,
      (s.run calls us).2.1 ++ ((s.run calls us).1.pollNext calls u).sent,
      (s.run calls us).2.2 ++ [((s.run calls us).1.pollNext calls u).result]) := by
  induction us with
  | nil =>
    intro s _ u
    simp only [List.nil_append, run, List.append_nil]
    split
    · next hp => rw [hp]
    · rfl
  | cons v us ih =>
    intro s h u
    simp only [List.cons_append, run] at h ⊢
    split at h
    · simp at h
    · simp only [List.mem_cons, not_or] at h
      simp only [ih h.2, List.append_assoc, List.cons_append]

theorem upstreams_concat (steps : List StreamingStep) (step : StreamingStep) :
    upstreams (steps ++ [step]) = upstreams steps ++ upstreams [step] :=
  List.filterMap_append

/-- The polls of a response's streamer so far: its state, what it sent, and its answers. -/
abbrev polled (calls : StreamerCalls) (c : StreamerConfig) (steps : List StreamingStep) :
    Streamer × List StateManagerEvent × List PollResult :=
  (Streamer.new c).run calls (upstreams steps)

/-! ## What is kept of a response -/

/-- What holds of a response after `steps`. -/
structure Streams (calls : StreamerCalls) (c : StreamerConfig) (steps : List StreamingStep) (r : StreamingResponse) :
    Prop where
  /-- The streamer was polled, and nothing else was done to it. -/
  running : ∀ {s}, r.streamer = .some s →
    (polled calls c steps).1 = s ∧ (polled calls c steps).2.1 = r.sent ∧ .panic ∉ (polled calls c steps).2.2
  ended : r.streamer = .none → r.sent = Streamer.lifetime calls c (upstreams steps)
  isOpen : r.events.isOpen = r.streamer.isSome
  /-- Chunks are lost only after the client's half is gone. -/
  delivered : r.client.isSome = true → r.events.sent = yieldedChunks calls c (upstreams steps)
  inOrder : r.events.sent <+: yieldedChunks calls c (upstreams steps)
  /-- The client saw the end where nothing waits and nothing will. -/
  done : ∀ {client}, r.client = .some client → client.done = true → r.events.Disconnected

theorem streams_start : Streams calls c [] (.start c) where
  running h := by
    cases h
    exact ⟨rfl, rfl, List.not_mem_nil⟩
  ended h := nomatch h
  isOpen := rfl
  delivered _ := rfl
  inOrder := List.prefix_refl _
  done h hd := by
    cases h
    cases hd

variable {steps : List StreamingStep} {r r' : StreamingResponse}

theorem lifetime_eq : Streamer.lifetime calls c (upstreams steps) =
    (polled calls c steps).2.1 ++ (polled calls c steps).1.drop := rfl

/-- One chunk for each event among the answers. -/
theorem yielded_eq : Streamer.yielded (polled calls c steps).2.2 = (yieldedChunks calls c (upstreams steps)).length := by
  rw [yieldedChunks, Streamer.yielded, List.length_filterMap_eq_countP]
  refine List.countP_congr fun result _ => ?_
  cases result <;> simp [PollResult.isEvent, PollResult.chunk?]

namespace Streams

/-- A step of no poll keeps what was polled. -/
theorem polled_concat {step : StreamingStep} (h : upstreams [step] = []) :
    upstreams (steps ++ [step]) = upstreams steps := by
  rw [upstreams_concat, h, List.append_nil]

/-- What a poll of a streamer that runs adds to the polls. -/
theorem polled_next (h : Streams calls c steps r) {s : Streamer} (hs : r.streamer = .some s) (u : Upstream) :
    polled calls c (steps ++ [.next u]) = ((s.pollNext calls u).state, r.sent ++ (s.pollNext calls u).sent,
      (polled calls c steps).2.2 ++ [(s.pollNext calls u).result]) := by
  obtain ⟨h1, h2, h3⟩ := h.running hs
  have hu : upstreams (steps ++ [.next u]) = upstreams steps ++ [u] := upstreams_concat steps (.next u)
  rw [polled, hu, Streamer.run_concat h3, h1, h2]

theorem yielded_next (h : Streams calls c steps r) {s : Streamer} (hs : r.streamer = .some s) (u : Upstream) :
    yieldedChunks calls c (upstreams (steps ++ [.next u])) =
      yieldedChunks calls c (upstreams steps) ++ (s.pollNext calls u).result.chunk?.toList := by
  have hp := congrArg (fun p => p.2.2.filterMap PollResult.chunk?) (h.polled_next hs u)
  simp only [List.filterMap_append] at hp
  rw [yieldedChunks, hp]
  congr 1

/-- A poll that answers with no end. -/
theorem next_running (h : Streams calls c steps r) {s : Streamer} (hs : r.streamer = .some s) {u : Upstream}
    (hp : (s.pollNext calls u).result ≠ .panic) (hr' : r'.streamer = .some (s.pollNext calls u).state)
    (hsent : r'.sent = r.sent ++ (s.pollNext calls u).sent) : ∀ {s'}, r'.streamer = .some s' →
      (polled calls c (steps ++ [.next u])).1 = s' ∧ (polled calls c (steps ++ [.next u])).2.1 = r'.sent ∧
        .panic ∉ (polled calls c (steps ++ [.next u])).2.2 := by
  intro s' hs'
  rw [hr', Option.some.injEq] at hs'
  rw [h.polled_next hs]
  refine ⟨hs', hsent.symm, ?_⟩
  simp only [List.mem_append, List.mem_singleton, not_or]
  exact ⟨(h.running hs).2.2, fun he => hp he.symm⟩

theorem next (h : Streams calls c steps r) {s : Streamer} (hs : r.streamer = .some s) (u : Upstream) :
    Streams calls c (steps ++ [.next u]) (r.nextEvent calls s u) := by
  have hy := h.yielded_next hs u
  have hopen : r.events.isOpen = true := by rw [h.isOpen, hs, Option.isSome_some]
  have hnotdone : ∀ {client}, r.client = .some client → client.done ≠ true := fun hc hd => by
    rw [(h.done hc hd).2] at hopen
    cases hopen
  -- a poll that yields nothing and goes on
  have hquiet : (s.pollNext calls u).result.chunk? = .none → (s.pollNext calls u).result ≠ .panic →
      Streams calls c (steps ++ [.next u])
        { r with streamer := .some (s.pollNext calls u).state, sent := r.sent ++ (s.pollNext calls u).sent } := by
    intro hn hp
    rw [hn, Option.toList_none, List.append_nil] at hy
    exact ⟨h.next_running hs hp rfl rfl, (absurd · (Option.some_ne_none _)), hopen, hy ▸ h.delivered, hy ▸ h.inOrder, h.done⟩
  -- the last poll, after which the streamer is dropped
  have hend : (s.pollNext calls u).result.chunk? = .none → Streams calls c (steps ++ [.next u])
      (StreamingResponse.endTask
        { r with streamer := .some (s.pollNext calls u).state, sent := r.sent ++ (s.pollNext calls u).sent }
        (s.pollNext calls u).state) := by
    intro hn
    rw [hn, Option.toList_none, List.append_nil] at hy
    refine ⟨nofun, fun _ => ?_, rfl, hy ▸ h.delivered, hy ▸ h.inOrder, fun hc hd => absurd hd (hnotdone hc)⟩
    rw [lifetime_eq, h.polled_next hs u]
    rfl
  unfold StreamingResponse.nextEvent
  dsimp only
  cases hres : (s.pollNext calls u).result with
  | pending => exact hquiet (by rw [hres]; rfl) (by rw [hres]; nofun)
  | error e => exact hquiet (by rw [hres]; rfl) (by rw [hres]; nofun)
  | finished => exact hend (by rw [hres]; rfl)
  | panic => exact hend (by rw [hres]; rfl)
  | event chunk =>
    rw [hres] at hy
    have hp : (s.pollNext calls u).result ≠ .panic := by rw [hres]; nofun
    unfold StreamingResponse.sendChunk
    dsimp only
    split
    · next hcl =>
      -- the client is there: its channel gets the chunk
      have hsend : (r.events.send chunk).getD r.events = { r.events with queue := r.events.queue ++ [chunk] } := by
        rw [Channel.send, if_pos hopen, Option.getD_some]
      have hchunks : { r.events with queue := r.events.queue ++ [chunk] }.sent =
          yieldedChunks calls c (upstreams (steps ++ [.next u])) := by
        rw [hy, ← h.delivered hcl, Channel.sent, ← List.append_assoc]
        rfl
      rw [hsend]
      exact ⟨h.next_running hs hp rfl rfl, (absurd · (Option.some_ne_none _)), hopen, fun _ => hchunks,
        hchunks ▸ List.prefix_refl _, fun hc hd => absurd hd (hnotdone hc)⟩
    · next hcl =>
      exact ⟨h.next_running hs hp rfl rfl, (absurd · (Option.some_ne_none _)), hopen, fun hc => absurd hc hcl,
        hy ▸ h.inOrder.trans (List.prefix_append _ _), h.done⟩

theorem endTask (h : Streams calls c steps r) {s : Streamer} (hs : r.streamer = .some s) :
    Streams calls c (steps ++ [.abort]) (r.endTask s) := by
  have hu : upstreams (steps ++ [.abort]) = upstreams steps := polled_concat rfl
  obtain ⟨h1, h2, _⟩ := h.running hs
  refine ⟨nofun, fun _ => ?_, rfl, hu ▸ h.delivered, hu ▸ h.inOrder, fun hc hd => ⟨(h.done hc hd).1, rfl⟩⟩
  rw [hu, lifetime_eq, h1, h2]
  rfl

theorem pollClient (h : Streams calls c steps r) {client : ClientStreamer} (hc : r.client = .some client) :
    Streams calls c (steps ++ [.pollClient]) (r.pollClient client) := by
  have hu : upstreams (steps ++ [.pollClient]) = upstreams steps := polled_concat rfl
  unfold StreamingResponse.pollClient
  split
  · next chunk events hrecv =>
    obtain ⟨hhead, hsent, _⟩ := Channel.recv_some hrecv
    have hisOpen : events.isOpen = r.events.isOpen := by
      unfold Channel.recv at hrecv
      split at hrecv <;> cases hrecv
      rfl
    refine ⟨by rw [polled, hu]; exact h.running, hu ▸ h.ended, hisOpen.trans h.isOpen, ?_, ?_, ?_⟩
    · rw [hu, hsent]
      exact h.delivered
    · rw [hu, hsent]
      exact h.inOrder
    · intro cl hcl hd
      -- a client that saw the end left nothing to receive
      have hempty := (h.done hcl hd).1
      rw [List.isEmpty_iff] at hempty
      rw [hempty] at hhead
      cases hhead
  · next hrecv =>
    split
    · exact ⟨by rw [polled, hu]; exact h.running, hu ▸ h.ended, h.isOpen, hu ▸ h.delivered, hu ▸ h.inOrder, h.done⟩
    · next hclosed =>
      refine ⟨by rw [polled, hu]; exact h.running, hu ▸ h.ended, h.isOpen, ?_, hu ▸ h.inOrder, fun _ _ => ⟨?_, ?_⟩⟩
      · rw [hu]
        exact fun _ => h.delivered (by rw [hc, Option.isSome_some])
      · unfold Channel.recv at hrecv
        split at hrecv
        · next hq => rw [hq, List.isEmpty_nil]
        · cases hrecv
      · exact Bool.eq_false_of_not_eq_true hclosed

/-- The kill signal and the client's leaving reach neither the streamer nor what was handed on. -/
theorem of_same (h : Streams calls c steps r) {step : StreamingStep} (hu : upstreams [step] = [])
    (hs : r'.streamer = r.streamer) (hsent : r'.sent = r.sent) (he : r'.events = r.events)
    (hc : r'.client = r.client ∨ r'.client = .none) : Streams calls c (steps ++ [step]) r' := by
  have hpolls : upstreams (steps ++ [step]) = upstreams steps := polled_concat hu
  refine ⟨?_, ?_, ?_, ?_, ?_, ?_⟩
  · rw [polled, hpolls, hs, hsent]
    exact h.running
  · rw [hpolls, hs, hsent]
    exact h.ended
  · rw [he, hs]
    exact h.isOpen
  · rw [hpolls, he]
    intro hcl
    rcases hc with hc | hc
    · exact h.delivered (hc ▸ hcl)
    · rw [hc] at hcl
      cases hcl
  · rw [hpolls, he]
    exact h.inOrder
  · intro cl hcl hd
    rcases hc with hc | hc
    · rw [he]
      exact h.done (hc ▸ hcl) hd
    · rw [hc] at hcl
      cases hcl

/-- **Step lemma.** -/
theorem step (h : Streams calls c steps r) {a : StreamingStep}
    (hstep : (streamingMachine calls).step r a = .some r') : Streams calls c (steps ++ [a]) r' := by
  cases a with
  | next u =>
    obtain ⟨s, hs, rfl⟩ := Option.map_eq_some_iff.1 hstep
    exact h.next hs u
  | abort =>
    obtain ⟨s, hs, rfl⟩ := Option.map_eq_some_iff.1 hstep
    exact h.endTask hs
  | pollClient =>
    obtain ⟨cl, hcl, rfl⟩ := Option.map_eq_some_iff.1 hstep
    exact h.pollClient hcl
  | kill =>
    simp only [streamingMachine, StreamingResponse.step] at hstep
    split at hstep
    · obtain ⟨k, _, rfl⟩ := Option.map_eq_some_iff.1 hstep
      exact h.of_same rfl rfl rfl rfl (.inl rfl)
    · cases hstep
  | dropClient =>
    obtain ⟨cl, hcl, rfl⟩ := Option.map_eq_some_iff.1 hstep
    exact h.of_same rfl rfl rfl rfl (.inr rfl)

/-- **Run lemma.** -/
theorem run (h : (streamingMachine calls).run (.start c) steps = .some r) : Streams calls c steps r :=
  Machine.run_history (R := Streams calls c) (fun hr hstep => hr.step hstep) streams_start h

end Streams

/-! ## The kill signal -/

@[simp] theorem sendChunk_client (chunk : Value) : (r.sendChunk chunk).client = r.client := by
  unfold StreamingResponse.sendChunk
  split <;> rfl

@[simp] theorem sendChunk_killSignal (chunk : Value) : (r.sendChunk chunk).killSignal = r.killSignal := by
  unfold StreamingResponse.sendChunk
  split <;> rfl

@[simp] theorem sendChunk_stopRequests (chunk : Value) : (r.sendChunk chunk).stopRequests = r.stopRequests := by
  unfold StreamingResponse.sendChunk
  split <;> rfl

/-- A poll of the streamer is none of the client's. -/
theorem nextEvent_kill (s : Streamer) (u : Upstream) : (r.nextEvent calls s u).client = r.client ∧
    (r.nextEvent calls s u).killSignal = r.killSignal ∧ (r.nextEvent calls s u).stopRequests = r.stopRequests := by
  unfold StreamingResponse.nextEvent
  dsimp only
  cases (s.pollNext calls u).result <;> simp [StreamingResponse.endTask]

theorem pollClient_kill (client : ClientStreamer) (hc : r.client = .some client) :
    (r.pollClient client).client.isSome = true ∧ (r.pollClient client).killSignal = r.killSignal ∧
      (r.pollClient client).stopRequests = r.stopRequests := by
  unfold StreamingResponse.pollClient
  split
  · simp [hc]
  · split <;> simp [hc]

/-- The signals that wait and the requests made of those that do not. -/
def StreamingResponse.kills (r : StreamingResponse) : Nat := r.stopRequests + r.killSignal.queue.length

/-- The client left while the task still polled. -/
def LeftEarly (calls : StreamerCalls) (c : StreamerConfig) (steps : List StreamingStep) : Prop :=
  ∃ before after t, steps = before ++ .dropClient :: after ∧
    (streamingMachine calls).run (.start c) before = .some t ∧ t.streamer.isSome = true

theorem leftEarly_concat {a : StreamingStep} (h : (streamingMachine calls).run (.start c) steps = .some r) :
    LeftEarly calls c (steps ++ [a]) ↔ LeftEarly calls c steps ∨ a = .dropClient ∧ r.streamer.isSome = true := by
  constructor
  · rintro ⟨before, after, t, heq, ht, hs⟩
    rcases List.eq_nil_or_concat after with rfl | ⟨after, b, rfl⟩
    · obtain ⟨rfl, hb⟩ := List.append_inj' heq rfl
      rw [h, Option.some.injEq] at ht
      exact .inr ⟨(List.cons.inj hb).1, ht ▸ hs⟩
    · rw [List.concat_eq_append, ← List.cons_append, ← List.append_assoc] at heq
      obtain ⟨rfl, _⟩ := List.append_inj' heq rfl
      exact .inl ⟨before, after, t, rfl, ht, hs⟩
  · rintro (⟨before, after, t, rfl, ht, hs⟩ | ⟨rfl, hs⟩)
    · exact ⟨before, after ++ [a], t, by simp, ht, hs⟩
    · exact ⟨steps, [], r, rfl, h, hs⟩

/-- What holds of a response's kill signal after `steps`. -/
structure Kills (calls : StreamerCalls) (c : StreamerConfig) (steps : List StreamingStep) (r : StreamingResponse) :
    Prop where
  reached : (streamingMachine calls).run (.start c) steps = .some r
  present : r.client.isSome = true → r.kills = 0 ∧ r.killSignal.isOpen = true
  once : r.kills ≤ 1
  early : 0 < r.kills ↔ LeftEarly calls c steps

namespace Kills

theorem start : Kills calls c [] (.start c) where
  reached := rfl
  present _ := ⟨rfl, rfl⟩
  once := Nat.zero_le 1
  early := by
    refine iff_of_false (Nat.lt_irrefl 0) ?_
    rintro ⟨before, after, t, heq, _⟩
    cases before <;> cases heq

/-- A step other than the client's leaving moves no signal or turns it into a request. -/
theorem of_same (h : Kills calls c steps r) {a : StreamingStep}
    (hstep : (streamingMachine calls).step r a = .some r') (ha : a ≠ .dropClient) (hk : r'.kills = r.kills)
    (hc : r'.client.isSome = true → r.client.isSome = true) (ho : r'.killSignal.isOpen = r.killSignal.isOpen) :
    Kills calls c (steps ++ [a]) r' where
  reached := Machine.run_append.2 ⟨r, h.reached, Machine.run_cons.2 ⟨r', hstep, rfl⟩⟩
  present hcl := by
    rw [hk, ho]
    exact h.present (hc hcl)
  once := hk ▸ h.once
  early := by
    rw [hk, h.early, leftEarly_concat h.reached]
    simp [ha]

theorem dropClient (h : Kills calls c steps r) (hs : Streams calls c steps r) {client : ClientStreamer}
    (hc : r.client = .some client) : Kills calls c (steps ++ [.dropClient]) (r.dropClient client) := by
  obtain ⟨hnone, hopen⟩ := h.present (by rw [hc, Option.isSome_some])
  have hleft : ¬LeftEarly calls c steps := fun hl => by
    have := h.early.2 hl
    omega
  -- the client saw the end only where the task ended
  have hsignal : (client.done || r.streamer.isNone) = r.streamer.isNone := by
    cases hd : client.done with
    | false => rfl
    | true =>
      have hclosed := (hs.done hc hd).2
      rw [hs.isOpen, Option.isSome_eq_false_iff] at hclosed
      rw [hclosed, Bool.true_or]
  have hkills : (r.dropClient client).kills = if r.streamer.isSome = true then 1 else 0 := by
    unfold StreamingResponse.kills at hnone ⊢
    unfold StreamingResponse.dropClient
    rw [hsignal]
    cases r.streamer with
    | none => simpa [Channel.close] using hnone
    | some s =>
      simp only [Channel.close, Channel.send, hopen, Option.isNone_some, Bool.false_eq_true, if_false, if_true,
        Option.getD_some, List.length_append, List.length_singleton, Option.isSome_some]
      omega
  refine ⟨Machine.run_append.2 ⟨r, h.reached, Machine.run_cons.2 ⟨_, ?_, rfl⟩⟩, nofun, ?_, ?_⟩
  · simp [streamingMachine, StreamingResponse.step, hc]
  · rw [hkills]
    split <;> omega
  · rw [hkills, leftEarly_concat h.reached]
    simp only [hleft, true_and, false_or]
    split <;> simp_all

theorem step (h : Kills calls c steps r) (hs : Streams calls c steps r) {a : StreamingStep}
    (hstep : (streamingMachine calls).step r a = .some r') : Kills calls c (steps ++ [a]) r' := by
  cases a with
  | next u =>
    obtain ⟨s, _, rfl⟩ := Option.map_eq_some_iff.1 hstep
    obtain ⟨h1, h2, h3⟩ := @nextEvent_kill calls r s u
    exact h.of_same hstep nofun (by rw [StreamingResponse.kills, h2, h3]; rfl) (h1 ▸ id) (by rw [h2])
  | abort =>
    obtain ⟨s, _, rfl⟩ := Option.map_eq_some_iff.1 hstep
    exact h.of_same hstep nofun rfl id rfl
  | pollClient =>
    obtain ⟨cl, hcl, rfl⟩ := Option.map_eq_some_iff.1 hstep
    obtain ⟨_, h2, h3⟩ := @pollClient_kill r cl hcl
    exact h.of_same hstep nofun (by rw [StreamingResponse.kills, h2, h3]; rfl) (fun _ => by rw [hcl]; rfl) (by rw [h2])
  | kill =>
    have hstep' := hstep
    simp only [streamingMachine, StreamingResponse.step] at hstep'
    split at hstep'
    · obtain ⟨⟨_, k⟩, hrecv, rfl⟩ := Option.map_eq_some_iff.1 hstep'
      unfold Channel.recv at hrecv
      split at hrecv
      · cases hrecv
      · next x queue hq =>
        cases hrecv
        refine h.of_same hstep nofun ?_ id rfl
        simp only [StreamingResponse.kills, hq, List.length_cons]
        omega
    · cases hstep'
  | dropClient =>
    obtain ⟨cl, hcl, rfl⟩ := Option.map_eq_some_iff.1 hstep
    exact h.dropClient hs hcl

theorem run (h : (streamingMachine calls).run (.start c) steps = .some r) : Kills calls c steps r :=
  (Machine.run_history (R := fun steps r => Streams calls c steps r ∧ Kills calls c steps r)
    (fun hr hstep => ⟨hr.1.step hstep, hr.2.step hr.1 hstep⟩) ⟨streams_start, start⟩ h).2

end Kills

/-! ## Main results -/

/-- What a streamer sent over its polls and its drop is one settlement, where the amounts fit. -/
theorem lifetime_settles (h : c.stackSmallId = .none →
      c.Fits (Int64.ofNat (yieldedChunks calls c (upstreams steps)).length)) :
    ∃ e, Streamer.lifetime calls c (upstreams steps) = [e] ∧ c.SettledBy e := by
  have hinv := @Streamer.settledOnce_run calls _ c _ _ (Streamer.settledOnce_new c) (upstreams steps)
  rw [Nat.zero_add, List.nil_append] at hinv
  rw [lifetime_eq]
  cases hf : (polled calls c steps).1.isFinalChunkHandled with
  | true =>
    obtain ⟨_, e, he, hby⟩ := hinv.settled hf
    rw [he, Streamer.drop, if_pos hf]
    exact ⟨e, rfl, hby⟩
  | false =>
    rw [hinv.pending hf, List.nil_append]
    refine Streamer.drop_settles hinv.config hf fun hs => ?_
    rw [hinv.generated, yielded_eq]
    exact h hs

/-- A client that leaves after one chunk, then the node's connection is reset. -/
def stepsExample : List StreamingStep :=
  [.next (.chunk (ascii "data: \x7b\x7d\n\n")), .pollClient, .dropClient, .kill, .next (.error "reset")]

/-- **Main result.** The client receives what the streamer yields, in order and with nothing left out or twice; where
it saw the stream's end it received all of it, and the task has ended. -/
theorem streaming_delivered (hrun : (streamingMachine calls).run (.start c) steps = .some r) :
    r.events.received <+: yieldedChunks calls c (upstreams steps) ∧
      ∀ client, r.client = .some client → client.done = true →
        r.streamer = .none ∧ r.events.received = yieldedChunks calls c (upstreams steps) := by
  have h := Streams.run hrun
  refine ⟨(List.prefix_append _ _).trans h.inOrder, fun client hc hd => ?_⟩
  obtain ⟨hempty, hclosed⟩ := h.done hc hd
  constructor
  · rw [h.isOpen, Option.isSome_eq_false_iff, Option.isNone_iff_eq_none] at hclosed
    exact hclosed
  · rw [← h.delivered (by rw [hc, Option.isSome_some]), Channel.sent, List.isEmpty_iff.1 hempty, List.append_nil]

/-- The client stays to the end. -/
def wholeExample : List StreamingStep :=
  [.next (.chunk (ascii "data: \x7b\x7d\n\n")), .pollClient, .next .finished, .pollClient]

theorem streaming_delivered_example : ∃ r,
    (streamingMachine Streamer.callsExample).run (.start Streamer.configExample) wholeExample = .some r ∧
      r.streamer.isNone = true ∧
      r.events.received = yieldedChunks Streamer.callsExample Streamer.configExample (upstreams wholeExample) :=
  ⟨_, rfl, rfl,
    ((@streaming_delivered Streamer.callsExample Streamer.configExample wholeExample _ rfl).2 ⟨true⟩ rfl rfl).2⟩

/-- **Main result.** The node is asked to stop at most once. A signal for that is there, waiting or received, where and
only where the client left while the task still polled. -/
theorem stop_requested_once (hrun : (streamingMachine calls).run (.start c) steps = .some r) :
    r.stopRequests + r.killSignal.queue.length ≤ 1 ∧
      (0 < r.stopRequests + r.killSignal.queue.length ↔ LeftEarly calls c steps) :=
  ⟨(Kills.run hrun).once, (Kills.run hrun).early⟩

theorem stop_requested_once_example : ∃ r,
    (streamingMachine Streamer.callsExample).run (.start Streamer.configExample) stepsExample = .some r ∧
      r.stopRequests + r.killSignal.queue.length ≤ 1 :=
  ⟨_, rfl, (@stop_requested_once Streamer.callsExample Streamer.configExample stepsExample _ rfl).1⟩

end

end AtomaProxy
