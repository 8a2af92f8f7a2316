/-
A `Streamer` settles exactly once, whatever its stream delivers and wherever
it is dropped.

A poll either sends nothing and leaves the settlement open, or it is the one
that handled the last chunk: it sent one event, set the flag and completed the
stream, after which no poll does anything. The drop sends the settlement where
the flag is not set. What can keep the drop from sending is an amount that
does not convert, so that is what the result assumes of a fiat stream.
-/
import AtomaProxy.Server.Streamer

namespace AtomaProxy

open Base

/-- The price times the tokens fits an `i64` after the division by one million, as the amount of a `u128` has to. -/
def AmountFits (tokens price : Int64) : Prop :=
  0 ≤ tokens.toInt * price.toInt ∧ tokens.toInt * price.toInt / 1000000 < 2 ^ 63

instance (t p : Int64) : Decidable (AmountFits t p) := inferInstanceAs (Decidable (_ ∧ _))

/-- It is what the conversion checks. -/
theorem amountFits_iff {t p : Int64} : AmountFits t p ↔ ∃ a, fiatAmount t p = .some a := by
  constructor
  · intro h
    have hin : InI64 (t.toInt * p.toInt / 1000000) := by
      have hpos := Int.ediv_nonneg h.1 (show (0 : Int) ≤ 1000000 by decide)
      have hlt := h.2
      unfold InI64
      omega
    exact ⟨Int64.ofInt (t.toInt * p.toInt / 1000000), fiatAmount_eq_some.2 ⟨h.1, toInt_ofInt hin⟩⟩
  · intro h
    obtain ⟨a, ha⟩ := h
    rw [fiatAmount_eq_some] at ha
    exact ⟨ha.1, ha.2 ▸ Int64.toInt_lt a⟩

/-- The event is a settlement of a stream built with `c`: it names the stack, or the user and the model, and
its estimate is that of the estimates and prices, whose products are not negative. -/
def StreamerConfig.SettledBy (c : StreamerConfig) (e : StateManagerEvent) : Prop :=
  match c.stackSmallId with
  | .some stackSmallId => ∃ totalTokens, e = .updateStackNumTokens stackSmallId
      (c.estimatedInputTokens + c.estimatedOutputTokens) totalTokens
  | .none => ∃ f, e = .updateStackNumTokensFiat f ∧ f.userId = c.userId ∧ f.modelName = c.modelName ∧
      (0 ≤ c.estimatedInputTokens.toInt * c.pricePerOneMillionInputComputeUnits.toInt ∧
        f.estimatedInputAmount.toInt =
          c.estimatedInputTokens.toInt * c.pricePerOneMillionInputComputeUnits.toInt / 1000000) ∧
      (0 ≤ c.estimatedOutputTokens.toInt * c.pricePerOneMillionOutputComputeUnits.toInt ∧
        f.estimatedOutputAmount.toInt =
          c.estimatedOutputTokens.toInt * c.pricePerOneMillionOutputComputeUnits.toInt / 1000000)

/-- The amounts a fiat stream settles fit: those of its estimates, and that of the output tokens. -/
structure StreamerConfig.Fits (c : StreamerConfig) (outputTokens : Int64) : Prop where
  estimatedInput : AmountFits c.estimatedInputTokens c.pricePerOneMillionInputComputeUnits
  estimatedOutput : AmountFits c.estimatedOutputTokens c.pricePerOneMillionOutputComputeUnits
  output : AmountFits outputTokens c.pricePerOneMillionOutputComputeUnits

/-- A settlement is sent, or it is an error that sends nothing. -/
theorem StreamerConfig.settle_cases (c : StreamerConfig) (i o t : Int64) :
    (∃ e, c.settle i o t = ⟨[e], .ok ()⟩ ∧ c.SettledBy e) ∨ ∃ err, c.settle i o t = ⟨[], .err err⟩ := by
  unfold settle SettledBy
  cases hs : c.stackSmallId with
  | some id => exact .inl ⟨_, rfl, t, rfl⟩
  | none =>
    dsimp only
    cases hei : fiatAmount c.estimatedInputTokens c.pricePerOneMillionInputComputeUnits with
    | none => exact .inr (updateStateManagerFiat_of_none (.inl hei))
    | some aei =>
      cases heo : fiatAmount c.estimatedOutputTokens c.pricePerOneMillionOutputComputeUnits with
      | none => exact .inr (updateStateManagerFiat_of_none (.inr (.inl heo)))
      | some aeo =>
        cases hi : fiatAmount i c.pricePerOneMillionInputComputeUnits with
        | none => exact .inr (updateStateManagerFiat_of_none (.inr (.inr (.inl hi))))
        | some ai =>
          cases ho : fiatAmount o c.pricePerOneMillionOutputComputeUnits with
          | none => exact .inr (updateStateManagerFiat_of_none (.inr (.inr (.inr ho))))
          | some ao =>
            exact .inl ⟨_, updateStateManagerFiat_of_some hei heo hi ho, _, rfl, rfl, rfl, fiatAmount_eq_some.1 hei,
              fiatAmount_eq_some.1 heo⟩

/-! ## What a poll can do -/

/-- The poll sent nothing and left the settlement as it was. -/
structure Polled.Quiet (s : Streamer) (p : Polled) : Prop where
  sent : p.sent = []
  config : p.state.config = s.config
  handled : p.state.isFinalChunkHandled = s.isFinalChunkHandled
  generated : p.state.numGeneratedTokens = s.numGeneratedTokens + if p.result.isEvent then 1 else 0

/-- The poll handled the last chunk. -/
structure Polled.Settles (s : Streamer) (p : Polled) : Prop where
  sent : ∃ e, p.sent = [e] ∧ s.config.SettledBy e
  config : p.state.config = s.config
  handled : p.state.isFinalChunkHandled = true
  completed : p.state.status = .completed
  generated : p.state.numGeneratedTokens = s.numGeneratedTokens
  result : p.result = .finished

theorem quiet_of {s : Streamer} {p : Polled} (h1 : p.sent = []) (h2 : p.state.config = s.config)
    (h3 : p.state.isFinalChunkHandled = s.isFinalChunkHandled)
    (h4 : p.state.numGeneratedTokens = s.numGeneratedTokens) (h5 : p.result.isEvent = false) : p.Quiet s :=
  ⟨h1, h2, h3, by simp [h4, h5]⟩

namespace Streamer

variable {calls : StreamerCalls} {s : Streamer}

theorem yieldChunk_quiet (chunk : Value) : (yieldChunk calls s chunk).Quiet s := by
  unfold yieldChunk
  split
  · exact quiet_of rfl rfl rfl rfl rfl
  · exact quiet_of rfl rfl rfl rfl rfl
  · exact ⟨rfl, rfl, rfl, rfl⟩

theorem parseChunk_quiet (text : List UInt8) : (parseChunk calls s text).Quiet s := by
  unfold parseChunk
  split
  · next chunk _ =>
    have h := @yieldChunk_quiet calls { s with chunkBuffer := [] } chunk
    exact ⟨h.sent, h.config, h.handled, h.generated⟩
  · split
    · exact quiet_of rfl rfl rfl rfl rfl
    · split
      · exact quiet_of rfl rfl rfl rfl rfl
      · dsimp only
        split
        · next chunk _ =>
          have h := @yieldChunk_quiet calls { s with chunkBuffer := [] } chunk
          exact ⟨h.sent, h.config, h.handled, h.generated⟩
        · split
          · exact quiet_of rfl rfl rfl rfl rfl
          · exact quiet_of rfl rfl rfl rfl rfl

theorem handleFinalChunk_cases (h : s.status = .completed) :
    s.handleFinalChunk.Quiet s ∨ s.handleFinalChunk.Settles s := by
  unfold handleFinalChunk
  cases s.usageField "prompt_tokens" with
  | none => exact .inl (quiet_of rfl rfl rfl rfl rfl)
  | some i =>
    cases s.usageField "completion_tokens" with
    | none => exact .inl (quiet_of rfl rfl rfl rfl rfl)
    | some o =>
      cases s.usageField "total_tokens" with
      | none => exact .inl (quiet_of rfl rfl rfl rfl rfl)
      | some t =>
        dsimp only
        rcases s.config.settle_cases i o t with ⟨e, he, hby⟩ | ⟨err, he⟩
        · rw [he]
          exact .inr ⟨⟨e, rfl, hby⟩, rfl, rfl, h, rfl, rfl⟩
        · rw [he]
          exact .inl (quiet_of rfl rfl rfl rfl rfl)

theorem handleText_cases (text : List UInt8) :
    (handleText calls s text).Quiet s ∨ (handleText calls s text).Settles s := by
  unfold handleText
  dsimp only
  split
  · rcases @handleFinalChunk_cases { s with status := .completed } rfl with h | h
    · exact .inl ⟨h.sent, h.config, h.handled, h.generated⟩
    · exact .inr ⟨h.sent, h.config, h.handled, h.completed, h.generated, h.result⟩
  · exact .inl (parseChunk_quiet _)

theorem handleChunk_cases (chunk : List UInt8) :
    (handleChunk calls s chunk).Quiet s ∨ (handleChunk calls s chunk).Settles s := by
  unfold handleChunk
  dsimp only
  split
  · exact .inl (quiet_of rfl rfl rfl rfl rfl)
  · split
    · exact .inl (quiet_of rfl rfl rfl rfl rfl)
    · split
      · exact .inl (quiet_of rfl rfl rfl rfl rfl)
      · split
        · exact .inl (quiet_of rfl rfl rfl rfl rfl)
        · rcases @handleText_cases calls { s with status := .started } chunk with h | h
          · exact .inl ⟨h.sent, h.config, h.handled, h.generated⟩
          · exact .inr ⟨h.sent, h.config, h.handled, h.completed, h.generated, h.result⟩

/-- A poll is quiet, or it is the one that settles; a completed stream's is quiet. -/
theorem pollNext_cases (u : Upstream) : (s.pollNext calls u).Quiet s ∧ (s.status = .completed →
      (s.pollNext calls u).state = s) ∨ s.status ≠ .completed ∧ (s.pollNext calls u).Settles s := by
  unfold pollNext
  split
  · exact .inl ⟨quiet_of rfl rfl rfl rfl rfl, fun _ => rfl⟩
  · next hs =>
    cases u with
    | chunk bytes =>
      rcases @handleChunk_cases calls s bytes with h | h
      · exact .inl ⟨h, fun hc => absurd hc hs⟩
      · exact .inr ⟨hs, h⟩
    | error text => exact .inl ⟨quiet_of rfl rfl rfl rfl rfl, fun hc => absurd hc hs⟩
    | finished => exact .inl ⟨quiet_of rfl rfl rfl rfl rfl, fun hc => absurd hc hs⟩
    | pending => exact .inl ⟨quiet_of rfl rfl rfl rfl rfl, fun hc => absurd hc hs⟩

/-! ## A stream's life -/

/-- What holds of a stream built with `c` after `sent`, its events yielded being `yielded`: either nothing is
settled, or one settlement is and the stream is completed. -/
structure SettledOnce (c : StreamerConfig) (yielded : Nat) (s : Streamer) (sent : List StateManagerEvent) : Prop where
  config : s.config = c
  generated : s.numGeneratedTokens = Int64.ofNat yielded
  pending : s.isFinalChunkHandled = false → sent = []
  settled : s.isFinalChunkHandled = true → s.status = .completed ∧ ∃ e, sent = [e] ∧ c.SettledBy e

theorem settledOnce_new (c : StreamerConfig) : SettledOnce c 0 (.new c) [] :=
  ⟨rfl, rfl, fun _ => rfl, fun h => nomatch h⟩

/-- The number of events among the answers. -/
def yielded (results : List PollResult) : Nat := results.countP PollResult.isEvent

theorem yielded_cons (r : PollResult) (rs : List PollResult) :
    yielded (r :: rs) = (if r.isEvent then 1 else 0) + yielded rs := by
  rw [yielded, yielded, List.countP_cons, Nat.add_comm]

variable {c : StreamerConfig} {n : Nat} {sent : List StateManagerEvent}

/-- **Step lemma.** -/
theorem settledOnce_pollNext (h : SettledOnce c n s sent) (u : Upstream) :
    SettledOnce c (n + if (s.pollNext calls u).result.isEvent then 1 else 0) (s.pollNext calls u).state
      (sent ++ (s.pollNext calls u).sent) := by
  rcases @pollNext_cases calls s u with ⟨hq, hdone⟩ | ⟨hopen, hs⟩
  · refine ⟨hq.config.trans h.config, ?_, fun hf => ?_, fun hf => ?_⟩
    · rw [hq.generated, h.generated]
      split <;> simp [Int64.ofNat_add]
    · rw [hq.sent, List.append_nil]
      exact h.pending (hq.handled ▸ hf)
    · obtain ⟨hc, e, he, hby⟩ := h.settled (hq.handled ▸ hf)
      rw [hdone hc, hq.sent, List.append_nil]
      exact ⟨hc, e, he, hby⟩
  · -- the settling poll found the stream open, so the flag was not set and nothing had been sent
    have hflag : s.isFinalChunkHandled = false := by
      by_contra hf
      exact hopen (h.settled (eq_true_of_ne_false hf)).1
    obtain ⟨e, he, hby⟩ := hs.sent
    refine ⟨hs.config.trans h.config, ?_, fun hf => ?_, fun _ => ⟨hs.completed, e, ?_, h.config ▸ hby⟩⟩
    · rw [hs.generated, h.generated, hs.result]
      rfl
    · rw [hs.handled] at hf
      cases hf
    · rw [h.pending hflag, he, List.nil_append]

/-- **Run lemma.** -/
theorem settledOnce_run (h : SettledOnce c n s sent) (us : List Upstream) :
    SettledOnce c (n + yielded (s.run calls us).2.2) (s.run calls us).1 (sent ++ (s.run calls us).2.1) := by
  induction us generalizing s n sent with
  | nil => simpa [run, yielded] using h
  | cons u us ih =>
    have hstep := @settledOnce_pollNext calls s c n sent h u
    have hrest := ih hstep
    unfold run
    dsimp only
    split
    · next hp =>
      rw [hp] at hstep
      simpa [yielded, PollResult.isEvent] using hstep
    · rw [yielded_cons, ← Nat.add_assoc, ← List.append_assoc]
      exact hrest

/-- What is sent over a stream's life: by its polls, and by its drop after them. -/
def lifetime (calls : StreamerCalls) (c : StreamerConfig) (us : List Upstream) : List StateManagerEvent :=
  let (s, sent, _) := (new c).run calls us
  sent ++ s.drop

/-- The number of events a stream yields. -/
def numYielded (calls : StreamerCalls) (c : StreamerConfig) (us : List Upstream) : Nat :=
  yielded ((new c).run calls us).2.2

/-- A drop before the last chunk's settlement sends one, where the amounts fit. -/
theorem drop_settles (hc : s.config = c) (hf : s.isFinalChunkHandled = false)
    (h : c.stackSmallId = .none → c.Fits s.numGeneratedTokens) : ∃ e, s.drop = [e] ∧ c.SettledBy e := by
  have hdrop : s.drop = (c.settle c.estimatedInputTokens s.numGeneratedTokens
      (c.estimatedInputTokens + s.numGeneratedTokens)).sent := by
    rw [drop, hf, hc]
    rfl
  rw [hdrop]
  cases hs : c.stackSmallId with
  | some id =>
    unfold StreamerConfig.settle StreamerConfig.SettledBy
    rw [hs]
    exact ⟨_, rfl, _, rfl⟩
  | none =>
    have hfits := h hs
    obtain ⟨ai, hi⟩ := amountFits_iff.1 hfits.estimatedInput
    obtain ⟨aeo, heo⟩ := amountFits_iff.1 hfits.estimatedOutput
    obtain ⟨ao, ho⟩ := amountFits_iff.1 hfits.output
    unfold StreamerConfig.settle StreamerConfig.SettledBy
    rw [hs]
    dsimp only
    rw [updateStateManagerFiat_of_some hi heo hi ho]
    exact ⟨_, rfl, _, rfl, rfl, rfl, fiatAmount_eq_some.1 hi, fiatAmount_eq_some.1 heo⟩

/-- **Main result.** Whatever the parser and the verification answer, whatever the stream delivers and wherever
it is dropped, one settlement is sent. -/
theorem settles_exactly_once (calls : StreamerCalls) (c : StreamerConfig) (us : List Upstream)
    (h : c.stackSmallId = .none → c.Fits (Int64.ofNat (numYielded calls c us))) :
    ∃ e, lifetime calls c us = [e] ∧ c.SettledBy e := by
  have hinv := @settledOnce_run calls (new c) c 0 [] (settledOnce_new c) us
  rw [Nat.zero_add, List.nil_append] at hinv
  unfold lifetime
  dsimp only
  by_cases hf : ((new c).run calls us).1.isFinalChunkHandled = true
  · obtain ⟨_, e, he, hby⟩ := hinv.settled hf
    rw [he, drop, if_pos hf]
    exact ⟨e, rfl, hby⟩
  · rw [Bool.not_eq_true] at hf
    rw [hinv.pending hf, List.nil_append]
    refine drop_settles hinv.config hf fun hs => ?_
    rw [hinv.generated]
    exact h hs

/-- A fiat stream of one event, then cut off. -/
def configExample : StreamerConfig where
  stackSmallId := .none
  estimatedInputTokens := 20
  estimatedOutputTokens := 100
  pricePerOneMillionInputComputeUnits := 2000000
  pricePerOneMillionOutputComputeUnits := 3000000
  userId := 7
  modelName := "model"
  endpoint := chatCompletionsPath

def callsExample : StreamerCalls where
  fromStr := fun _ => .ok (.object [])
  verify := fun _ _ => .ok ()

theorem settles_exactly_once_example : ∃ e,
    lifetime callsExample configExample [.chunk (ascii "data: \x7b\x7d\n\n"), .error "reset"] = [e] ∧
      configExample.SettledBy e :=
  settles_exactly_once _ _ _ fun _ => ⟨by decide, by decide, by decide⟩

end Streamer

end AtomaProxy
