/-
When the `Streamer` is indifferent to how its stream is cut into chunks.

A fair cut of the items yields what the items yield when each comes in its own
chunk. The step is one item: its chunks take the stream from between two items
to between two items, and do what `onItem` does, up to blank lines left in the
buffer. The run follows over the items.
-/
import AtomaProxy.Server.SseItems

namespace AtomaProxy

open Base

/-! ## The chunks of one item -/

namespace Transcript

variable {calls : StreamerCalls} {t : Transcript} {text received : List UInt8} {w : List UInt8} {chunk : Value}

/-- Polls that no longer do anything. -/
def Stopped (t : Transcript) : Prop := t.panicked = true ∨ t.streamer.status = .completed

/-- Between two items: only blank lines are buffered. -/
structure Ready (t : Transcript) : Prop where
  pos : t.streamer.keepAlivePos = 0
  blank : Blank t.streamer.chunkBuffer

theorem add_quiet (hp : t.panicked = false) {s : Streamer} {r : PollResult} (hr : r.isItem = false) :
    t.add ⟨s, [], r⟩ = { t with streamer := s } := by
  cases r with
  | pending | finished => simp [add, PollResult.isItem, PollResult.isPanic, hp]
  | event | error | panic => cases hr

theorem poll_stopped (h : t.Stopped) (c : List UInt8) : t.poll calls c = t := by
  unfold poll
  by_cases hp : t.panicked
  · rw [if_pos hp]
  · rw [if_neg hp, Streamer.pollNext, if_pos (h.resolve_left hp),
      add_quiet (eq_false_of_ne_true hp) rfl]

theorem polls_stopped (h : t.Stopped) (cs : List (List UInt8)) : cs.foldl (poll calls) t = t := by
  induction cs with
  | nil => rfl
  | cons c cs ih => rw [List.foldl_cons, poll_stopped h, ih]

theorem onItem_stopped (h : t.Stopped) (i : SseItem) : t.onItem calls i = t := by
  unfold onItem
  by_cases hp : t.panicked
  · rw [if_pos hp]
  · unfold Streamer.onItem
    rw [if_neg hp, if_pos (h.resolve_left hp), add_quiet (eq_false_of_ne_true hp) rfl]

theorem onItems_stopped (h : t.Stopped) (items : List SseItem) : items.foldl (onItem calls) t = t := by
  induction items with
  | nil => rfl
  | cons i items ih => rw [List.foldl_cons, onItem_stopped h, ih]

theorem poll_eq (hp : t.panicked = false) (c : List UInt8) :
    t.poll calls c = t.add (t.streamer.pollNext calls (.chunk c)) := by
  rw [poll, hp, if_neg Bool.false_ne_true]

/-- The result of an item's chunks: the item's, and a stream that stopped or is ready for the next one. -/
def Took (calls : StreamerCalls) (t : Transcript) (i : SseItem) (t' : Transcript) : Prop :=
  t'.flushed = t.flushed.onItem calls i ∧ (t'.Stopped ∨ t'.Ready)

/-- Blank lines after an event change nothing but the buffer. -/
theorem polls_blank (hblank : calls.ReadsBlank)
    {cs : List (List UInt8)} (hcs : ∀ c ∈ cs, Blank c ∧ c ≠ []) (h : t.panicked = true ∨ t.streamer.status = .started ∧ t.Ready) :
    (cs.foldl (poll calls) t).flushed = t.flushed ∧
      ((cs.foldl (poll calls) t).Stopped ∨ (cs.foldl (poll calls) t).Ready) := by
  induction cs generalizing t with
  | nil => exact ⟨rfl, h.imp .inl And.right⟩
  | cons c cs ih =>
    by_cases hp : t.panicked
    · rw [polls_stopped (.inl hp)]
      exact ⟨rfl, .inl (.inl hp)⟩
    · obtain ⟨hs, hready⟩ := h.resolve_left hp
      obtain ⟨hb, hne⟩ := hcs c List.mem_cons_self
      obtain ⟨e, he, heof⟩ := hblank hb
      have hv : validUtf8 c := validUtf8_of_ascii fun b hbc => hb b hbc ▸ (by decide)
      have hpoll : t.poll calls c = { t with streamer := t.streamer.buffer c } := by
        rw [poll_eq (eq_false_of_ne_true hp), Streamer.pollNext_plain hs hready.pos hv (plain_of_blank hb hne),
          Streamer.parseChunk, he]
        simp only [heof, if_true]
        exact add_quiet (eq_false_of_ne_true hp) rfl
      rw [List.foldl_cons, hpoll]
      exact ih (fun d hd => hcs d (List.mem_cons_of_mem c hd)) (.inr ⟨hs, hready.pos, hready.blank.append hb⟩)

/-- A poll that yields the event, and blank lines after it. -/
theorem took_yielded (hblank : calls.ReadsBlank)
    (hp : t.panicked = false) (hs : t.streamer.status = .started) (hpos : t.streamer.keepAlivePos = 0)
    {c : List UInt8} {cs : List (List UInt8)} (hcs : ∀ c ∈ cs, Blank c ∧ c ≠ [])
    (hpoll : t.streamer.pollNext calls (.chunk c) =
      Streamer.yieldChunk calls t.streamer.flush chunk) :
    Took calls t (.event text chunk) ((c :: cs).foldl (poll calls) t) := by
  have hstate : (Streamer.yieldChunk calls t.streamer.flush chunk).state.status = .started ∧
      (Streamer.yieldChunk calls t.streamer.flush chunk).state.keepAlivePos = 0 ∧
      (Streamer.yieldChunk calls t.streamer.flush chunk).state.flush =
        (Streamer.yieldChunk calls t.streamer.flush chunk).state := by
    unfold Streamer.yieldChunk
    split <;> exact ⟨hs, hpos, rfl⟩
  have hadd : t.poll calls c = t.add (Streamer.yieldChunk calls t.streamer.flush chunk) := by rw [poll_eq hp, hpoll]
  have hitem : (t.poll calls c).flushed = t.flushed.onItem calls (.event text chunk) := by
    have hs' : t.flushed.streamer.status = .started := hs
    rw [onItem, show t.flushed.panicked = false from hp, if_neg Bool.false_ne_true]
    unfold Streamer.onItem
    rw [if_neg (Streamer.not_completed hs'), Streamer.started_eq hs', hadd, flushed, add, hstate.2.2]
    rfl
  have hafter := @polls_blank calls (t.poll calls c) hblank cs hcs (.inr ⟨?_, ?_, ?_⟩)
  · exact ⟨hafter.1.trans hitem, hafter.2⟩
  · rw [hadd]
    exact hstate.1
  · rw [hadd]
    exact hstate.2.1
  · rw [hadd]
    show Blank (Streamer.yieldChunk calls t.streamer.flush chunk).state.chunkBuffer
    rw [← hstate.2.2]
    exact blank_nil

/-- A chunk of an event, and the chunks after it. The induction is on these; what came of the text before the
chunk is in the buffer. -/
theorem took_text (hblank : calls.ReadsBlank)
    (hj : calls.JsonText text chunk) (hw : Blank w) (cs : List (List UInt8)) :
    ∀ {t : Transcript} {received c polled : List UInt8}, t.panicked = false → t.streamer.status = .started →
      t.streamer.keepAlivePos = 0 → t.streamer.chunkBuffer = w ++ received →
      t.streamer.pollNext calls (.chunk polled) = t.streamer.parseChunk calls c →
      (received ≠ [] → ∃ e, calls.fromStr c = .error e ∧ (text <+: received ++ c → e.isEof = false)) →
      validUtf8 (received ++ c) → FairParts calls text (received ++ c) cs → [] ∉ cs →
      received ++ c ++ cs.flatten = text ++ eventEnd →
      Took calls t (.event text chunk) ((polled :: cs).foldl (poll calls) t) := by
  induction cs with
  | nil =>
    intro t received c polled hp hs hpos hbuf hpoll halone _ _ _ hcut
    have hfull : text <+: received ++ c := by
      rw [List.flatten_nil, List.append_nil] at hcut
      exact hcut ▸ List.prefix_append text eventEnd
    refine took_yielded hblank hp hs hpos (by simp) (hpoll.trans ?_)
    refine Streamer.parseChunk_complete hj hw hbuf hcut hfull fun hr => ?_
    obtain ⟨e, he, heof⟩ := halone hr
    exact ⟨e, he, heof hfull⟩
  | cons c' cs ih =>
    intro t received c polled hp hs hpos hbuf hpoll halone hv hfair hne hcut
    by_cases hfull : text <+: received ++ c
    · -- the chunks left are blank
      obtain ⟨_, _, _, hblanks⟩ := complete_part hcut hfull
      refine took_yielded hblank hp hs hpos (fun d hd => ⟨fun b hb => ?_, fun h => hne (h ▸ hd)⟩) (hpoll.trans ?_)
      · exact hblanks b (List.mem_flatten.2 ⟨d, hd, hb⟩)
      · refine Streamer.parseChunk_complete hj hw hbuf hcut hfull fun hr => ?_
        obtain ⟨e, he, heof⟩ := halone hr
        exact ⟨e, he, heof hfull⟩
    · have hstep : t.poll calls polled = { t with streamer := t.streamer.buffer c } := by
        rw [poll_eq hp, hpoll, Streamer.parseChunk_open hj hw hbuf hcut hfull hv fun hr => (halone hr).imp fun _ h => h.1,
          add_quiet hp rfl]
      obtain ⟨hv', hcontinues, hfair'⟩ := hfair
      have hc' : c' ≠ [] := fun h => hne (h ▸ List.mem_cons_self)
      have hcut' : received ++ c ++ c' ++ cs.flatten = text ++ eventEnd := by
        rw [← hcut, List.flatten_cons, List.append_assoc _ c']
      have hplain : Plain c' := by
        by_cases hr : received ++ c = []
        · rw [hr, List.nil_append] at hcut'
          exact hj.plain hc' hcut'
        · exact (hcontinues hr hfull).toPlain
      rw [List.foldl_cons, hstep]
      have hrest := @ih { t with streamer := t.streamer.buffer c } (received ++ c) c' c' hp hs hpos
        (by rw [← List.append_assoc, ← hbuf]; rfl) (Streamer.pollNext_plain hs hpos hv' hplain)
        (fun hr => (hcontinues hr hfull).notAlone) (validUtf8_append_of hv hv') hfair'
        (fun h => hne (List.mem_cons_of_mem c' h)) hcut'
      exact hrest

theorem took_event (hblank : calls.ReadsBlank)
    (hj : calls.JsonText text chunk) (hp : t.panicked = false) (hs : t.streamer.status = .started) (hready : t.Ready)
    {parts : List (List UInt8)} (hparts : parts.flatten = (SseItem.event text chunk).bytes) (hne : [] ∉ parts)
    (hfair : (SseItem.event text chunk).Fair calls parts) :
    Took calls t (.event text chunk) (parts.foldl (poll calls) t) := by
  obtain ⟨first, rest, rfl, hv, hfair⟩ := hfair
  have hcut : first ++ rest.flatten = text ++ eventEnd := by
    rw [List.flatten_cons, SseItem.bytes, List.append_assoc, List.append_cancel_left_eq] at hparts
    exact hparts
  have hdone : doneChunk.isPrefixOf first = false := by
    by_cases hf : first = []
    · rw [hf]
      rfl
    · exact isPrefixOf_eq_false (hj.plain hf hcut).notDone
  have hpoll : t.streamer.pollNext calls (.chunk (dataPrefix ++ first)) = t.streamer.parseChunk calls first := by
    rw [Streamer.pollNext_prefixed hs hready.pos hv, hdone, if_neg Bool.false_ne_true]
  have hv' : validUtf8 first := (validUtf8_append (by decide)).symm.trans hv
  have hbuf : t.streamer.chunkBuffer = t.streamer.chunkBuffer ++ [] := (List.append_nil _).symm
  exact took_text hblank hj hready.blank rest hp hs hready.pos hbuf hpoll (absurd rfl) hv' hfair
    (fun h => hne (List.mem_cons_of_mem _ h)) hcut

/-- The parts of a keep-alive: where the next one has to go on is what came of it. -/
theorem polls_keepAlive (cs : List (List UInt8)) : ∀ {t : Transcript} {received : List UInt8}, t.panicked = false →
    t.streamer.status = .started → t.streamer.keepAlivePos = received.length % keepAliveChunk.length →
    [] ∉ cs → received ++ cs.flatten = keepAliveChunk →
    cs.foldl (poll calls) t = { t with streamer := { t.streamer with keepAlivePos := 0 } } := by
  induction cs with
  | nil =>
    intro t received _ _ hpos _ hcut
    rw [List.flatten_nil, List.append_nil] at hcut
    rw [hcut, Nat.mod_self] at hpos
    rw [List.foldl_nil, ← hpos]
  | cons c cs ih =>
    intro t received hp hs hpos hne hcut
    have hc : c ≠ [] := fun h => hne (h ▸ List.mem_cons_self)
    have hcut' : received ++ c ++ cs.flatten = keepAliveChunk := by rw [List.append_assoc, ← List.flatten_cons, hcut]
    have hlen := congrArg List.length hcut'
    have hpositive := List.length_pos_iff.2 hc
    simp only [List.length_append] at hlen
    rw [Nat.mod_eq_of_lt (by omega)] at hpos
    rw [List.foldl_cons, poll_eq hp, Streamer.pollNext_keepAlive hs hpos hc hcut', add_quiet hp rfl]
    exact ih hp hs rfl (fun h => hne (List.mem_cons_of_mem c h)) hcut'

theorem took_keepAlive (hp : t.panicked = false) (hs : t.streamer.status = .started) (hready : t.Ready)
    {parts : List (List UInt8)} (hparts : parts.flatten = keepAliveChunk) (hne : [] ∉ parts) :
    Took calls t .keepAlive (parts.foldl (poll calls) t) := by
  have hs' : t.flushed.streamer.status = .started := hs
  have hpos : t.streamer.keepAlivePos = ([] : List UInt8).length % keepAliveChunk.length := hready.pos
  rw [polls_keepAlive parts hp hs hpos hne hparts, ← hready.pos, Took, onItem,
    show t.flushed.panicked = false from hp, if_neg Bool.false_ne_true, Streamer.onItem,
    if_neg (Streamer.not_completed hs')]
  dsimp only
  rw [Streamer.started_eq hs', add_quiet (show t.flushed.panicked = false from hp) rfl]
  exact ⟨rfl, .inr hready⟩

/-- The chunk that the last item is seen in. -/
theorem took_done_of (hp : t.panicked = false) (hs : t.streamer.status = .started) {c : List UInt8} (cs : List (List UInt8))
    (hpoll : t.streamer.pollNext calls (.chunk c) = Streamer.handleFinalChunk { t.streamer with status := .completed }) :
    Took calls t .done ((c :: cs).foldl (poll calls) t) := by
  have hs' : t.flushed.streamer.status = .started := hs
  have hadd : t.poll calls c = t.add (Streamer.handleFinalChunk { t.streamer with status := .completed }) := by
    rw [poll_eq hp, hpoll]
  have hstopped : (t.poll calls c).Stopped := .inr (by rw [hadd]; exact Streamer.handleFinalChunk_ends.1)
  have hflush := @Streamer.handleFinalChunk_flush { t.streamer with status := .completed }
  rw [List.foldl_cons, polls_stopped hstopped, Took, onItem, show t.flushed.panicked = false from hp,
    if_neg Bool.false_ne_true, Streamer.onItem, if_neg (Streamer.not_completed hs'), hadd]
  refine ⟨?_, .inl (hadd ▸ hstopped)⟩
  show _ = t.flushed.add (Streamer.handleFinalChunk (Streamer.flush { t.streamer with status := .completed }))
  rw [hflush]
  rfl

theorem took_done (hblank : calls.ReadsBlank)
    (hp : t.panicked = false) (hs : t.streamer.status = .started) (hready : t.Ready)
    {parts : List (List UInt8)} (hparts : parts.flatten = SseItem.done.bytes) (hfair : SseItem.done.Fair calls parts) :
    Took calls t .done (parts.foldl (poll calls) t) := by
  have hvalid : ∀ c ∈ parts, validUtf8 c := by
    intro c hc
    have hascii : SseItem.done.bytes.all (· < 0x80) = true := by decide
    exact validUtf8_of_ascii fun b hb =>
      of_decide_eq_true (List.all_eq_true.1 hascii b (hparts ▸ List.mem_flatten.2 ⟨c, hc, hb⟩))
  obtain ⟨first, rest, rfl, hfair⟩ := hfair
  have hpoll := @Streamer.pollNext_prefixed calls _ _ hs hready.pos (hvalid _ List.mem_cons_self)
  rcases hfair with hdone | ⟨rfl, second, others, rfl, hdone⟩
  · rw [List.isPrefixOf_iff_prefix.2 hdone, if_pos rfl] at hpoll
    exact took_done_of hp hs rest hpoll
  · -- the prefix alone is an empty text, and buffers nothing
    obtain ⟨e, he, heof⟩ := hblank blank_nil
    have hquiet : t.poll calls (dataPrefix ++ []) = t := by
      rw [poll_eq hp, hpoll, if_neg (by decide), Streamer.parseChunk, he]
      simp only [heof, if_true, List.append_nil]
      exact add_quiet hp rfl
    rw [List.foldl_cons, hquiet]
    exact took_done_of hp hs others
      (Streamer.pollNext_done hs hready.pos (hvalid _ (List.mem_cons_of_mem _ List.mem_cons_self)) hdone)

/-- A stream that is not completed polls as if it had started. -/
def started (t : Transcript) : Transcript := { t with streamer := { t.streamer with status := .started } }

theorem poll_started (hopen : ¬ t.Stopped) (c : List UInt8) : t.poll calls c = t.started.poll calls c := by
  have hs : t.streamer.status ≠ .completed := fun h => hopen (.inr h)
  have hs' : t.started.streamer.status ≠ .completed := by
    show StreamStatus.started ≠ .completed
    decide
  have hpoll : t.streamer.pollNext calls (.chunk c) = t.started.streamer.pollNext calls (.chunk c) := by
    rw [Streamer.pollNext, if_neg hs, Streamer.pollNext, if_neg hs']
    rfl
  have hp : t.panicked = false := eq_false_of_ne_true fun h => hopen (.inl h)
  rw [poll_eq hp, poll_eq (t := t.started) hp, hpoll]
  rfl

theorem onItem_started (hopen : ¬ t.Stopped) (i : SseItem) : t.flushed.onItem calls i = t.started.flushed.onItem calls i := by
  have hs : t.flushed.streamer.status ≠ .completed := fun h => hopen (.inr h)
  have hs' : t.started.flushed.streamer.status ≠ .completed := by
    show StreamStatus.started ≠ .completed
    decide
  have hp : t.panicked = false := eq_false_of_ne_true fun h => hopen (.inl h)
  rw [onItem, onItem, show t.flushed.panicked = false from hp, show t.started.flushed.panicked = false from hp]
  unfold Streamer.onItem
  rw [if_neg hs, if_neg hs']
  rfl

/-- **The chunks of an item do what the item does.** -/
theorem took_item {i : SseItem} (hblank : calls.ReadsBlank)
    (hj : ∀ {text chunk}, i = .event text chunk → calls.JsonText text chunk) (hopen : ¬ t.Stopped) (hready : t.Ready)
    {parts : List (List UInt8)} (hparts : parts.flatten = i.bytes) (hne : [] ∉ parts) (hfair : i.Fair calls parts) :
    Took calls t i (parts.foldl (poll calls) t) := by
  have hp : t.started.panicked = false := eq_false_of_ne_true fun h => hopen (.inl h)
  have hstart : parts.foldl (poll calls) t = parts.foldl (poll calls) t.started := by
    cases parts with
    | nil => cases i <;> cases hparts
    | cons c cs => rw [List.foldl_cons, List.foldl_cons, poll_started hopen]
  have hready' : t.started.Ready := ⟨hready.pos, hready.blank⟩
  rw [Took, hstart, onItem_started hopen]
  cases i with
  | event text chunk => exact took_event hblank (hj rfl) hp rfl hready' hparts hne hfair
  | keepAlive => exact took_keepAlive hp rfl hready' hparts hne
  | done => exact took_done hblank hp rfl hready' hparts hfair

end Transcript

/-! ## All items -/

/-- **Run lemma.** Chunks cut fairly do what the items do, one after the other. -/
theorem FairlyCut.polls {calls : StreamerCalls} {items : List SseItem} {chunks : List (List UInt8)}
    (h : FairlyCut calls items chunks) (hcalls : calls.Documented items) {t : Transcript} (ht : t.Stopped ∨ t.Ready) :
    (chunks.foldl (Transcript.poll calls) t).flushed = items.foldl (Transcript.onItem calls) t.flushed := by
  induction h generalizing t with
  | nil => rfl
  | @item i items parts chunks hparts hne hfair _ ih =>
    have hcalls' : calls.Documented items := ⟨hcalls.blank, fun h => hcalls.events (List.mem_cons_of_mem i h)⟩
    rw [List.foldl_append, List.foldl_cons]
    by_cases hstop : t.Stopped
    · have hstop' : t.flushed.Stopped := hstop
      rw [Transcript.polls_stopped hstop, Transcript.onItem_stopped hstop']
      exact ih hcalls' (.inl hstop)
    · obtain ⟨htook, hnext⟩ := Transcript.took_item hcalls.blank
        (fun hi => hcalls.events (hi ▸ List.mem_cons_self)) hstop (ht.resolve_left hstop) hparts hne hfair
      rw [ih hcalls' hnext, htook]

/-- Each item in its own chunk is a fair cut. -/
theorem fairlyCut_items {calls : StreamerCalls} {items : List SseItem}
    (hj : ∀ {text chunk}, .event text chunk ∈ items → calls.JsonText text chunk) :
    FairlyCut calls items (items.map SseItem.bytes) := by
  induction items with
  | nil => exact .nil
  | cons i items ih =>
    have hfair : i.Fair calls [i.bytes] := by
      cases i with
      | event text chunk =>
        have hv : validUtf8 (dataPrefix ++ (text ++ eventEnd)) :=
          validUtf8_append_of (by decide) (validUtf8_append_of (hj List.mem_cons_self).valid (by decide))
        exact ⟨_, [], rfl, hv, trivial⟩
      | keepAlive => trivial
      | done => exact ⟨_, [], rfl, .inl (List.prefix_append doneChunk eventEnd)⟩
    have hne : [] ∉ [i.bytes] := by
      cases i <;> simp [SseItem.bytes, dataPrefix, keepAliveChunk, ascii]
    exact .item (List.append_nil _) hne hfair (ih fun h => hj (List.mem_cons_of_mem i h))

/-- What the runs of a streamer say in terms of transcripts. -/
theorem polls_eq_run {calls : StreamerCalls} (chunks : List (List UInt8)) {t : Transcript} (hp : t.panicked = false) :
    chunks.foldl (Transcript.poll calls) t =
      let (s, sent, results) := t.streamer.run calls (chunks.map .chunk)
      ⟨s, t.sent ++ sent, t.yielded ++ results.filter PollResult.isItem, results.any PollResult.isPanic⟩ := by
  induction chunks generalizing t with
  | nil => simp [Streamer.run, ← hp]
  | cons c chunks ih =>
    rw [List.foldl_cons, Transcript.poll_eq hp, List.map_cons]
    unfold Streamer.run
    dsimp only
    split
    · next hr =>
      have hstop : (t.add (t.streamer.pollNext calls (.chunk c))).Stopped := .inl (by rw [Transcript.add, hr]; rfl)
      rw [Transcript.polls_stopped hstop, Transcript.add, hr]
      rfl
    · next r hr =>
      have hquiet : (t.streamer.pollNext calls (.chunk c)).result.isPanic = false := by
        cases h : (t.streamer.pollNext calls (.chunk c)).result with
        | panic => exact absurd h hr
        | _ => rfl
      rw [ih hquiet]
      simp [Transcript.add, hquiet, List.filter_cons, List.append_assoc]
      split <;> simp

/-- The events of the items up to the last one. -/
def SseItem.chunk? : SseItem → Option Value
  | .event _ chunk => .some chunk
  | _ => .none

def SseItem.isDone : SseItem → Bool
  | .done => true
  | _ => false

def sentEvents (items : List SseItem) : List Value := (items.takeWhile fun i => !i.isDone).filterMap SseItem.chunk?

/-- What an open stream answers an item with, where its event verifies, and whether it stays open. -/
structure Answers (s : Streamer) (i : SseItem) (p : Polled) : Prop where
  event : p.result.event? = i.chunk?
  config : p.state.config = s.config
  opened : i.isDone = false → p.result.isPanic = false ∧ p.state.status = .started
  completed : i.isDone = true → p.state.status = .completed

theorem onItem_answers {calls : StreamerCalls} {s : Streamer} {i : SseItem} (hopen : s.status ≠ .completed)
    (hverify : ∀ {text chunk}, i = .event text chunk →
      calls.verify chunk (s.config.endpoint ≠ confidentialChatCompletionsPath) = .ok ()) :
    Answers s i (s.onItem calls i) := by
  unfold Streamer.onItem
  rw [if_neg hopen]
  cases i with
  | event text chunk =>
    have hv := hverify rfl
    dsimp only
    unfold Streamer.yieldChunk
    dsimp only
    rw [hv]
    exact ⟨rfl, rfl, fun _ => ⟨rfl, rfl⟩, fun h => nomatch h⟩
  | keepAlive => exact ⟨rfl, rfl, fun _ => ⟨rfl, rfl⟩, fun h => nomatch h⟩
  | done =>
    obtain ⟨hstatus, hevent, hconfig⟩ := @Streamer.handleFinalChunk_ends { s with status := .completed }
    exact ⟨hevent, hconfig, (nomatch ·), fun _ => hstatus⟩

theorem Transcript.yielded_add (t : Transcript) (p : Polled) :
    (t.add p).yielded.filterMap PollResult.event? = t.yielded.filterMap PollResult.event? ++ p.result.event?.toList := by
  rw [Transcript.add, List.filterMap_append]
  cases p.result <;> rfl

/-- Items whose events verify yield these events. -/
theorem onItems_events {calls : StreamerCalls} {verifyHash : Bool} {items : List SseItem}
    (hverify : ∀ {text chunk}, .event text chunk ∈ items → calls.verify chunk verifyHash = .ok ()) {t : Transcript}
    (hc : decide (t.streamer.config.endpoint ≠ confidentialChatCompletionsPath) = verifyHash) (hopen : ¬ t.Stopped) :
    (items.foldl (Transcript.onItem calls) t).yielded.filterMap PollResult.event? =
      t.yielded.filterMap PollResult.event? ++ sentEvents items := by
  induction items generalizing t with
  | nil => exact (List.append_nil _).symm
  | cons i items ih =>
    have hp : t.panicked = false := eq_false_of_ne_true fun h => hopen (.inl h)
    have hs : t.streamer.status ≠ .completed := fun h => hopen (.inr h)
    have hstep : t.onItem calls i = t.add (t.streamer.onItem calls i) := by
      rw [Transcript.onItem, hp, if_neg Bool.false_ne_true]
    have ha : Answers t.streamer i (t.streamer.onItem calls i) := by
      refine onItem_answers hs fun hi => ?_
      subst hi
      rw [hc]
      exact hverify List.mem_cons_self
    rw [List.foldl_cons, hstep]
    by_cases hd : i.isDone = true
    · have hstop : (t.add (t.streamer.onItem calls i)).Stopped := .inr (ha.completed hd)
      have hnone : i.chunk? = .none := by
        cases i with
        | done => rfl
        | event | keepAlive => cases hd
      rw [Transcript.onItems_stopped hstop, Transcript.yielded_add, ha.event, hnone, sentEvents, List.takeWhile_cons, hd]
      rfl
    · have hd' : i.isDone = false := eq_false_of_ne_true hd
      obtain ⟨hpanic, hstatus⟩ := ha.opened hd'
      have hopen' : ¬ (t.add (t.streamer.onItem calls i)).Stopped := by
        intro h
        rcases h with h | h
        · rw [Transcript.add, hpanic] at h
          cases h
        · rw [Transcript.add, hstatus] at h
          cases h
      have hc' : decide ((t.add (t.streamer.onItem calls i)).streamer.config.endpoint ≠
          confidentialChatCompletionsPath) = verifyHash := by rw [← hc, Transcript.add, ha.config]
      have hrest := ih (fun h => hverify (List.mem_cons_of_mem i h)) hc' hopen'
      rw [hrest, Transcript.yielded_add, ha.event, List.append_assoc, sentEvents, sentEvents, List.takeWhile_cons, hd']
      show _ ++ (_ ++ List.filterMap _ _) = _ ++ List.filterMap _ (i :: _)
      rw [List.filterMap_cons]
      cases i.chunk? <;> rfl

/-- What was yielded: events and errors. -/
def yields (results : List PollResult) : List PollResult := results.filter PollResult.isItem

/-- The events that were yielded. -/
def yieldedEvents (results : List PollResult) : List Value := results.filterMap PollResult.event?

theorem yieldedEvents_yields (results : List PollResult) :
    (yields results).filterMap PollResult.event? = yieldedEvents results := by
  induction results with
  | nil => rfl
  | cons r results ih =>
    rw [yields, List.filter_cons, yieldedEvents, List.filterMap_cons]
    cases r with
    | pending | finished => exact ih
    | error e => exact ih
    | panic => exact ih
    | event chunk => exact congrArg (chunk :: ·) ih

/-- What a run of a new streamer comes to, in terms of the items. -/
theorem FairlyCut.run {calls : StreamerCalls} {items : List SseItem} {chunks : List (List UInt8)}
    (h : FairlyCut calls items chunks) (hcalls : calls.Documented items) (c : StreamerConfig) :
    let (s, sent, results) := (Streamer.new c).run calls (chunks.map .chunk)
    let t := items.foldl (Transcript.onItem calls) (.start (.new c))
    s.flush = t.streamer ∧ sent = t.sent ∧ yields results = t.yielded := by
  have hpolls := h.polls (t := .start (.new c)) hcalls (.inr ⟨rfl, blank_nil⟩)
  have hrun := @polls_eq_run calls chunks (.start (.new c)) rfl
  dsimp only at hrun ⊢
  rw [hrun] at hpolls
  have hstart : (Transcript.start (.new c)).flushed = .start (.new c) := rfl
  rw [hstart] at hpolls
  rw [← hpolls]
  exact ⟨rfl, rfl, rfl⟩

/-- **Main result.** A fair cut yields the events of the items, each once and in order; what it yields, its usage,
its status and what it sends are those of each item in its own chunk. -/
theorem chunking_invariant {calls : StreamerCalls} {items : List SseItem} {chunks : List (List UInt8)}
    (c : StreamerConfig) (hcalls : calls.Documented items)
    (hverify : ∀ {text chunk}, .event text chunk ∈ items →
      calls.verify chunk (c.endpoint ≠ confidentialChatCompletionsPath) = .ok ())
    (hcut : FairlyCut calls items chunks) :
    let (s, sent, results) := (Streamer.new c).run calls (chunks.map .chunk)
    let (s', sent', results') := (Streamer.new c).run calls ((items.map SseItem.bytes).map .chunk)
    yieldedEvents results = sentEvents items ∧ yields results = yields results' ∧ s.usage = s'.usage ∧
      s.status = s'.status ∧ sent = sent' := by
  obtain ⟨hs, hsent, hyields⟩ := hcut.run hcalls c
  obtain ⟨hs', hsent', hyields'⟩ := (fairlyCut_items hcalls.events).run hcalls c
  have hopen : ¬ (Transcript.start (.new c)).Stopped := by
    intro h
    rcases h with h | h <;> cases h
  have hevents := onItems_events (t := .start (.new c)) hverify rfl hopen
  refine ⟨?_, hyields.trans hyields'.symm, ?_, ?_, hsent.trans hsent'.symm⟩
  · rw [← yieldedEvents_yields, hyields, hevents]
    rfl
  · exact (congrArg Streamer.usage (hs.trans hs'.symm) :)
  · exact (congrArg Streamer.status (hs.trans hs'.symm) :)

/-- An event of one number, and a parser that reads it. -/
def textExample : List UInt8 := ascii "\x7b\"a\":1\x7d"

def chunkExample : Value := .object [("a", .number (.posInt 1))]

def parserExample : StreamerCalls where
  fromStr := fun bs =>
    let text := bs.filter (· != 10)
    if text = textExample then .ok chunkExample
    else if text.isPrefixOf textExample then .error ⟨true, "EOF while parsing"⟩
    else .error ⟨false, "expected value"⟩
  verify := fun _ _ => .ok ()

theorem parserExample_documented {items : List SseItem}
    (h : ∀ {text chunk}, .event text chunk ∈ items → text = textExample ∧ chunk = chunkExample) :
    parserExample.Documented items := by
  refine ⟨oneTextParser_readsBlank rfl, fun hi => ?_⟩
  obtain ⟨rfl, rfl⟩ := h hi
  exact oneTextParser_jsonText rfl ⟨textExample.tail, rfl⟩ (by decide) (List.all_eq_true.1 (by decide))

def chunksConfig : StreamerConfig where
  stackSmallId := .some 1
  estimatedInputTokens := 20
  estimatedOutputTokens := 100
  pricePerOneMillionInputComputeUnits := 0
  pricePerOneMillionOutputComputeUnits := 0
  userId := 7
  modelName := "model"
  endpoint := chatCompletionsPath

/-- An event cut within its text and after it, a keep-alive cut in two, and the last item after its prefix. -/
def itemsExample : List SseItem := [.event textExample chunkExample, .keepAlive, .done]

def chunksExample : List (List UInt8) :=
  [ascii "data: \x7b\"a", ascii "\":1\x7d\n", ascii "\n"] ++ ([ascii ": keep", ascii "-alive\n\n"] ++
    ([ascii "data: ", ascii "[DONE]\n\n"] ++ []))

theorem chunksExample_fair : FairlyCut parserExample itemsExample chunksExample := by
  refine .item (by decide) (by decide) ?_ (.item (by decide) (by decide) trivial
    (.item (by decide) (by decide) ?_ .nil))
  · refine ⟨ascii "\x7b\"a", _, rfl, by decide, by decide, fun _ _ => ?_, by decide, fun _ h => ?_, trivial⟩
    · exact ⟨⟨by decide, by decide, by decide⟩, ⟨false, "expected value"⟩, rfl, fun _ => rfl⟩
    · exact absurd (by decide) h
  · exact ⟨[], _, rfl, .inr ⟨rfl, _, [], rfl, by decide⟩⟩

theorem chunking_invariant_example :
    let (s, sent, results) := (Streamer.new chunksConfig).run parserExample (chunksExample.map .chunk)
    let (s', sent', results') :=
      (Streamer.new chunksConfig).run parserExample ((itemsExample.map SseItem.bytes).map .chunk)
    yieldedEvents results = sentEvents itemsExample ∧ yields results = yields results' ∧ s.usage = s'.usage ∧
      s.status = s'.status ∧ sent = sent' := by
  refine chunking_invariant chunksConfig (parserExample_documented ?_) (fun _ => rfl) chunksExample_fair
  simp [itemsExample]

/-- Two events in one chunk. -/
def mergedExample : List SseItem := [.event textExample chunkExample, .event textExample chunkExample, .done]

def mergedChunks : List (List UInt8) :=
  [ascii "data: \x7b\"a\":1\x7d\n\ndata: \x7b\"a\":1\x7d\n\n", ascii "data: [DONE]\n\n"]

/-- Their chunk parses as neither, and no event is yielded. -/
theorem chunking_invariant_fails :
    parserExample.Documented mergedExample ∧
    (∀ {text chunk}, .event text chunk ∈ mergedExample →
      parserExample.verify chunk (chunksConfig.endpoint ≠ confidentialChatCompletionsPath) = .ok ()) ∧
    mergedChunks.flatten = (mergedExample.map SseItem.bytes).flatten ∧ [] ∉ mergedChunks ∧
    yieldedEvents ((Streamer.new chunksConfig).run parserExample (mergedChunks.map .chunk)).2.2 = [] ∧
    yieldedEvents ((Streamer.new chunksConfig).run parserExample
      ((mergedExample.map SseItem.bytes).map .chunk)).2.2 = [chunkExample, chunkExample] := by
  refine ⟨parserExample_documented ?_, fun _ => rfl, by decide, by decide, rfl, rfl⟩
  simp [mergedExample]

end AtomaProxy
