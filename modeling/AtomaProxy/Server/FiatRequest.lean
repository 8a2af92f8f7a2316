/-
Whether every fiat lock of a request is settled exactly once.

The trace of a request is read for its fiat events. A pass of the middleware
adds its lock and, where that was granted, what `afterLock` sends: the
settlement that the error arm, the handler or the stream's task sends with the
amounts of the estimate. A pass settles where these amounts are the locked
ones and its path has no gap: a body the extractor rejects and an answer that
panics in the verification settle nothing.
-/
import AtomaProxy.Server.Middleware
import AtomaProxy.Server.StreamerSettles

namespace AtomaProxy

open Base

/-- A lock or a settlement, of a user and with the amounts it locks or releases. -/
inductive LockEvent where
  | locked (userId input output : Int64)
  | settled (userId input output : Int64)
  deriving DecidableEq, Repr

def lockEvent : StateManagerEvent → Option LockEvent
  | .lockUserFiatBalance userId input output => .some (.locked userId input output)
  | .updateStackNumTokensFiat e => .some (.settled e.userId e.estimatedInputAmount e.estimatedOutputAmount)
  | _ => .none

def lockEvents (sent : List StateManagerEvent) : List LockEvent := sent.filterMap lockEvent

/-- The locks of a request in the order they are sent, with what they are answered: a lock that is granted is
followed by one settlement of its amounts before the next lock, and there is no other settlement. -/
inductive EachLockSettled : List Bool → List LockEvent → Prop
  | nil {grants} : EachLockSettled grants []
  | granted {grants events u i o} : EachLockSettled grants events →
      EachLockSettled (true :: grants) (.locked u i o :: .settled u i o :: events)
  | refused {grants events u i o} : EachLockSettled grants events →
      EachLockSettled (false :: grants) (.locked u i o :: events)

/-! ## Amounts -/

/-- The settlement of estimates, where their amounts convert. -/
def settlementOf (userId estimatedInputTokens estimatedOutputTokens pricePerOneMillionInputComputeUnits
    pricePerOneMillionOutputComputeUnits : Int64) : List LockEvent :=
  match fiatAmount estimatedInputTokens pricePerOneMillionInputComputeUnits,
    fiatAmount estimatedOutputTokens pricePerOneMillionOutputComputeUnits with
  | .some input, .some output => [.settled userId input output]
  | _, _ => []

/-- The exact product of the tokens, as the `i64` they are cast to, and the price is an `i64` that is not negative. -/
def ProductFits (tokens : UInt64) (price : Int64) : Prop :=
  0 ≤ tokens.toInt64.toInt * price.toInt ∧ tokens.toInt64.toInt * price.toInt < 2 ^ 63

instance (t : UInt64) (p : Int64) : Decidable (ProductFits t p) := inferInstanceAs (Decidable (_ ∧ _))

/-- The settlement's amount is the locked one exactly where the product fits. -/
theorem fiatAmount_eq_locked {tokens : UInt64} {price : Int64} :
    fiatAmount tokens.toInt64 price = .some (fiatLockedAmount tokens price) ↔ ProductFits tokens price := by
  have hm : (1000000 : Int64).toInt = 1000000 := rfl
  have hlocked : (fiatLockedAmount tokens price).toInt =
      (Int.bmod (tokens.toInt64.toInt * price.toInt) (2 ^ 64)).tdiv 1000000 := by
    rw [fiatLockedAmount, Int64.toInt_div_of_ne_right _ _ (by decide), Int64.toInt_mul, hm]
  rw [fiatAmount_eq_some, hlocked, ProductFits]
  have hw := inI64_bmod (tokens.toInt64.toInt * price.toInt)
  obtain ⟨h1, h2, h3, h4⟩ := tdiv_million_bounds hw
  have hdvd := bmod_sub_self (tokens.toInt64.toInt * price.toInt)
  unfold InI64 at hw
  constructor
  · intro h
    obtain ⟨h0, h⟩ := h
    refine ⟨h0, ?_⟩
    generalize Int.bmod (tokens.toInt64.toInt * price.toInt) (2 ^ 64) = w at *
    generalize tokens.toInt64.toInt * price.toInt = p at *
    omega
  · intro h
    obtain ⟨h0, hlt⟩ := h
    refine ⟨h0, ?_⟩
    rw [Int.bmod_eq_of_le (by omega) (by omega), Int.tdiv_eq_ediv_of_nonneg h0]

theorem fiatAmount_zero_tokens (price : Int64) : fiatAmount 0 price = .some 0 := by
  have h0 : (0 : Int64).toInt = 0 := rfl
  rw [fiatAmount_eq_some, h0]
  simp

/-- A settlement sends one with the amounts of its estimates where all four amounts convert. -/
theorem updateStateManagerFiat_cases (u ei i eo o pi po : Int64) (m endpoint : String) :
    (lockEvents (updateStateManagerFiat u ei i eo o pi po m endpoint).sent = settlementOf u ei eo pi po ∧
        (updateStateManagerFiat u ei i eo o pi po m endpoint).ending = .ok ()) ∨
      ∃ e, updateStateManagerFiat u ei i eo o pi po m endpoint = ⟨[], .err e⟩ := by
  cases hei : fiatAmount ei pi with
  | none => exact .inr (updateStateManagerFiat_of_none (.inl hei))
  | some aei =>
    cases heo : fiatAmount eo po with
    | none => exact .inr (updateStateManagerFiat_of_none (.inr (.inl heo)))
    | some aeo =>
      cases hi : fiatAmount i pi with
      | none => exact .inr (updateStateManagerFiat_of_none (.inr (.inr (.inl hi))))
      | some ai =>
        cases ho : fiatAmount o po with
        | none => exact .inr (updateStateManagerFiat_of_none (.inr (.inr (.inr ho))))
        | some ao =>
          rw [updateStateManagerFiat_of_some hei heo hi ho, settlementOf, hei, heo]
          exact .inl ⟨rfl, rfl⟩

/-- One whose used amounts are the estimated ones or convert sends it wherever the estimates convert. -/
theorem lockEvents_settlement {u ei i eo o pi po : Int64} {m endpoint : String}
    (hi : i = ei ∨ ∃ a, fiatAmount i pi = .some a) (ho : o = eo ∨ ∃ a, fiatAmount o po = .some a) :
    lockEvents (updateStateManagerFiat u ei i eo o pi po m endpoint).sent = settlementOf u ei eo pi po := by
  rcases updateStateManagerFiat_cases u ei i eo o pi po m endpoint with ⟨h, _⟩ | ⟨e, he⟩
  · exact h
  · rw [he, settlementOf]
    cases hei : fiatAmount ei pi with
    | none => rfl
    | some aei =>
      cases heo : fiatAmount eo po with
      | none => rfl
      | some aeo =>
        have hi' : ∃ ai, fiatAmount i pi = .some ai := hi.elim (fun h => ⟨aei, h ▸ hei⟩) id
        have ho' : ∃ ao, fiatAmount o po = .some ao := ho.elim (fun h => ⟨aeo, h ▸ heo⟩) id
        obtain ⟨ai, hai⟩ := hi'
        obtain ⟨ao, hao⟩ := ho'
        rw [updateStateManagerFiat_of_some hei heo hai hao] at he
        cases he

/-- The tokens used are none. -/
theorem converts_zero (price : Int64) : ∃ a, fiatAmount 0 price = .some a := ⟨0, fiatAmount_zero_tokens price⟩

/-! ## Handlers -/

def RequestMetadataExtension.settlement (metadata : RequestMetadataExtension) : List LockEvent :=
  settlementOf metadata.userId metadata.inputTokens metadata.outputTokens
    metadata.pricePerOneMillionInputComputeUnits metadata.pricePerOneMillionOutputComputeUnits

/-- A success whose JSON has a hash that is not base64. -/
def NodeAnswer.badHash (c : ResponseCrypto) : NodeAnswer → Bool
  | .answered status _ (.ok response) _ => isSuccess status && response.badResponseHash c
  | _ => false


theorem lockEvents_append (xs ys : List StateManagerEvent) :
    lockEvents (xs ++ ys) = lockEvents xs ++ lockEvents ys := List.filterMap_append

section Fiat

variable {calls : HandlerCalls} {metadata : RequestMetadataExtension} {answer : NodeAnswer}

/-- What a fiat request's work sends: its settlement where it ends well, nothing where it does not; it panics on
a bad hash. -/
structure Works {α : Type} (calls : HandlerCalls) (answer : NodeAnswer) (settled : List LockEvent)
    (x : Handler α) : Prop where
  panic : x.ending = .panic ↔ answer.badHash calls.crypto = true
  ok : ∀ a, x.ending = .ok a → lockEvents x.sent = settled
  notOk : (∀ a, x.ending ≠ .ok a) → lockEvents x.sent = []

theorem Works.notPanic {α : Type} {settled : List LockEvent} {x : Handler α} (h : Works calls answer settled x)
    (hx : x.ending ≠ .panic) : answer.badHash calls.crypto = false :=
  eq_false_of_ne_true fun hb => hx (h.panic.2 hb)

theorem works_of_fail {α : Type} {settled : List LockEvent} {e : AtomaProxyError}
    (h : answer.badHash calls.crypto = false) : Works calls answer settled (.fail e : Handler α) :=
  ⟨⟨(nomatch ·), fun hb => absurd (h ▸ hb) Bool.false_ne_true⟩, fun _ => (nomatch ·), fun _ => rfl⟩

/-- The call of the node, then `rest` of a verified answer. -/
theorem works_verified {α : Type} {settled : List LockEvent} {sendError parseError verifyHash}
    {rest : Value → Handler α}
    (hrest : ∀ response, (rest response).ending ≠ .panic ∧
      (∀ a, (rest response).ending = .ok a → lockEvents (rest response).sent = settled) ∧
      ((∀ a, (rest response).ending ≠ .ok a) → lockEvents (rest response).sent = [])) :
    Works calls answer settled (do
      let (json, _) ← answer.success sendError metadata.endpoint
      let response ← parsed json parseError
      .ofEnding (verifyResponseHashAndSignature calls.crypto response verifyHash)
      rest response) := by
  cases answer with
  | unreachable text => exact works_of_fail rfl
  | answered status reason json stream =>
    unfold NodeAnswer.success
    dsimp only
    by_cases hs : isSuccess status
    · rw [if_pos hs, Eff.pure_bind]
      cases json with
      | error text => exact works_of_fail rfl
      | ok response =>
        dsimp only [parsed, Except.mapError]
        rw [Eff.ofExcept_ok_bind]
        have hbad : (NodeAnswer.answered status reason (.ok response) stream).badHash calls.crypto =
            response.badResponseHash calls.crypto := by simp [NodeAnswer.badHash, hs]
        have hpanic := @verifyResponse_panic calls.crypto response verifyHash
        cases hv : verifyResponseHashAndSignature calls.crypto response verifyHash with
        | panic => exact ⟨⟨fun _ => hbad.trans (hpanic.1 hv), fun _ => rfl⟩, fun _ => (nomatch ·), fun _ => rfl⟩
        | err e =>
          refine works_of_fail (hbad.trans ?_)
          rw [hv] at hpanic
          exact eq_false_of_ne_true fun h => nomatch hpanic.2 h
        | ok a =>
          rw [Eff.ofEnding_ok_bind]
          obtain ⟨hnot, hok, hnotOk⟩ := hrest response
          refine ⟨⟨fun h => absurd h hnot, fun h => ?_⟩, hok, hnotOk⟩
          rw [hv] at hpanic
          exact nomatch hpanic.2 (hbad ▸ h)
    · rw [if_neg hs]
      refine works_of_fail ?_
      cases json <;> simp [NodeAnswer.badHash, hs]

/-- The settlement of a fiat request is the one of its estimates, where its amounts convert. -/
theorem settle_fiat (hfiat : metadata.selectedStackSmallId = .none) (et t ei i eo o : Int64) :
    metadata.settle et t ei i eo o =
      updateStateManagerFiat metadata.userId ei i eo o metadata.pricePerOneMillionInputComputeUnits
        metadata.pricePerOneMillionOutputComputeUnits metadata.modelName metadata.endpoint := by
  rw [RequestMetadataExtension.settle, hfiat]

theorem lockEvents_release (hfiat : metadata.selectedStackSmallId = .none) :
    lockEvents metadata.release.sent = metadata.settlement := by
  rw [RequestMetadataExtension.release, settle_fiat hfiat]
  exact lockEvents_settlement (.inr (converts_zero _)) (.inr (converts_zero _))

theorem works_nonStreaming (hfiat : metadata.selectedStackSmallId = .none) (verifyHash : Bool)
    (fiatTokens : Value → Int64 × Int64) : Works calls answer metadata.settlement
      (handleNonStreamingResponse calls metadata answer verifyHash fiatTokens) := by
  refine works_verified fun response => ?_
  rw [settle_fiat hfiat, Eff.send_bind]
  rcases updateStateManagerFiat_cases metadata.userId metadata.inputTokens (fiatTokens response).1
    metadata.outputTokens (fiatTokens response).2 metadata.pricePerOneMillionInputComputeUnits
    metadata.pricePerOneMillionOutputComputeUnits metadata.modelName metadata.endpoint with ⟨hsent, hend⟩ | ⟨e, he⟩
  · rw [Eff.handle_ok hend, Eff.bind_ok _ rfl]
    refine ⟨(nomatch ·), fun _ _ => ?_, fun h => absurd rfl (h _)⟩
    show lockEvents (_ ++ []) = _
    rw [List.append_nil]
    exact hsent
  · rw [he]
    exact ⟨(nomatch ·), fun _ => (nomatch ·), fun _ => rfl⟩

/-- A task whose work is that, and which releases where it is an error. -/
theorem lockEvents_handlerTask {work : Handler Response} (hfiat : metadata.selectedStackSmallId = .none)
    (h : Works calls answer metadata.settlement work) (endpoint : String) :
    lockEvents (handlerTask work metadata.release endpoint).sent =
      if answer.badHash calls.crypto then [] else metadata.settlement := by
  rw [handlerTask, Eff.sent_spawned]
  cases hend : work.ending with
  | ok a =>
    rw [Eff.handle_ok hend, h.notPanic (by rw [hend]; exact (nomatch ·))]
    exact h.ok a hend
  | err e =>
    have hwork : lockEvents work.sent = [] := h.notOk (by rw [hend]; exact fun _ => (nomatch ·))
    rw [Eff.handle_err hend, h.notPanic (by rw [hend]; exact (nomatch ·))]
    dsimp only
    rw [Eff.sent_bind_of_quiet fun _ => rfl, lockEvents_append, hwork, lockEvents_release hfiat]
    rfl
  | panic =>
    rw [Eff.handle_panic hend, h.panic.1 hend]
    exact h.notOk (by rw [hend]; exact fun _ => (nomatch ·))

theorem works_verifiedResponse {what parseErrorMessage : String} {verifyHash : Bool}
    {throughput : Value → Int64 × Int64} : Works calls answer []
      (handleVerifiedResponse calls metadata answer what parseErrorMessage verifyHash throughput) :=
  works_verified fun _ => ⟨(nomatch ·), fun _ _ => rfl, fun _ => rfl⟩

/-- A task whose work sends no settlement, and which settles its answer or its error. -/
theorem lockEvents_settlingTask {work : Handler Value} (h : Works calls answer [] work) {onErr : Handler Unit}
    {onOk : Value → Handler Unit} {settled : List LockEvent} (herr : lockEvents onErr.sent = settled)
    (hok : ∀ response, lockEvents (onOk response).sent = settled) (joinError : AtomaProxyError) :
    lockEvents (Eff.spawned (do
      let response ← work.handle fun e => do
        onErr
        .fail e
      onOk response
      pure (.json response)) joinError : Handler Response).sent =
      if answer.badHash calls.crypto then [] else settled := by
  have hwork : lockEvents work.sent = [] := by
    by_cases hw : ∃ a, work.ending = .ok a
    · obtain ⟨a, ha⟩ := hw
      exact h.ok a ha
    · exact h.notOk fun a ha => hw ⟨a, ha⟩
  rw [Eff.sent_spawned]
  cases hend : work.ending with
  | ok response =>
    rw [Eff.handle_ok hend, Eff.bind_ok _ rfl, h.notPanic (by rw [hend]; exact (nomatch ·))]
    dsimp only
    rw [Eff.sent_bind_of_quiet fun _ => rfl, lockEvents_append, hwork, hok]
    rfl
  | err e =>
    rw [Eff.handle_err hend, h.notPanic (by rw [hend]; exact (nomatch ·))]
    have hsent : lockEvents (work.sent ++ (onErr >>= fun _ => (.fail e : Handler Value)).sent) = settled := by
      rw [Eff.sent_bind_of_quiet fun _ => rfl, lockEvents_append, hwork, herr]
      rfl
    -- after the error arm there is no answer to settle
    cases he : onErr.ending with
    | ok a =>
      rw [Eff.bind_err (e := e) _ (by rw [Eff.bind_ok _ he]; rfl)]
      exact hsent
    | err e' =>
      rw [Eff.bind_err (e := e') _ (by rw [Eff.bind_err _ he])]
      exact hsent
    | panic =>
      rw [Eff.bind_panic _ (by rw [Eff.bind_panic _ he])]
      exact hsent
  | panic =>
    rw [Eff.handle_panic hend, Eff.bind_panic _ rfl, h.panic.1 hend]
    exact hwork

end Fiat

/-! ## Streams -/

/-- Driving a stream keeps what its polls keep. -/
theorem settledOnce_drive {calls : StreamerCalls} {c : StreamerConfig} (us : List Upstream) {n : Nat} {s : Streamer}
    {sent : List StateManagerEvent} (h : Streamer.SettledOnce c n s sent) :
    ∃ n', Streamer.SettledOnce c n' (s.drive calls us).1 (sent ++ (s.drive calls us).2) := by
  induction us generalizing n s sent with
  | nil => exact ⟨n, by simpa [Streamer.drive] using h⟩
  | cons u us ih =>
    have hstep := @Streamer.settledOnce_pollNext calls s c n sent h u
    unfold Streamer.drive
    dsimp only
    split
    · exact ⟨_, hstep⟩
    · exact ⟨_, hstep⟩
    · obtain ⟨n', hrest⟩ := ih hstep
      rw [← List.append_assoc]
      exact ⟨n', hrest⟩

/-- The stream's task settles: its last chunk did, or the amount of the events it yielded converts. -/
def StreamSettles (calls : HandlerCalls) (metadata : RequestMetadataExtension) (stream : List Upstream) : Prop :=
  let s := ((Streamer.new metadata.streamer).drive calls.streamer stream).1
  s.isFinalChunkHandled = true ∨
    AmountFits s.numGeneratedTokens metadata.pricePerOneMillionOutputComputeUnits

instance (calls : HandlerCalls) (metadata : RequestMetadataExtension) (stream : List Upstream) :
    Decidable (StreamSettles calls metadata stream) := inferInstanceAs (Decidable (_ ∨ _))

theorem lockEvents_task {calls : HandlerCalls} {metadata : RequestMetadataExtension}
    (hfiat : metadata.selectedStackSmallId = .none) (stream : List Upstream) :
    lockEvents (Streamer.task calls.streamer metadata.streamer stream) =
      if StreamSettles calls metadata stream then metadata.settlement else [] := by
  obtain ⟨n, hinv⟩ := @settledOnce_drive calls.streamer metadata.streamer stream 0 (.new metadata.streamer) []
    (Streamer.settledOnce_new _)
  rw [List.nil_append] at hinv
  rcases hd : (Streamer.new metadata.streamer).drive calls.streamer stream with ⟨s, sent⟩
  have htask : Streamer.task calls.streamer metadata.streamer stream = sent ++ s.drop := by rw [Streamer.task, hd]
  have hset : StreamSettles calls metadata stream ↔ s.isFinalChunkHandled = true ∨
      AmountFits s.numGeneratedTokens metadata.pricePerOneMillionOutputComputeUnits := by rw [StreamSettles, hd]
  rw [hd] at hinv
  dsimp only at hinv
  rw [htask, if_congr hset rfl rfl]
  by_cases hf : s.isFinalChunkHandled = true
  · obtain ⟨_, e, he, hby⟩ := hinv.settled hf
    rw [StreamerConfig.SettledBy, show metadata.streamer.stackSmallId = .none from hfiat] at hby
    obtain ⟨f, rfl, huser, _, hin, hout⟩ := hby
    have hsettled : metadata.settlement = [.settled f.userId f.estimatedInputAmount f.estimatedOutputAmount] := by
      have hi := fiatAmount_eq_some.2 hin
      have ho := fiatAmount_eq_some.2 hout
      dsimp only [RequestMetadataExtension.streamer] at hi ho huser
      rw [RequestMetadataExtension.settlement, settlementOf, hi, ho, huser]
    rw [if_pos (.inl hf), he, Streamer.drop, if_pos hf, hsettled]
    rfl
  · have hf' : s.isFinalChunkHandled = false := eq_false_of_ne_true hf
    have hdrop : s.drop = (updateStateManagerFiat metadata.userId metadata.inputTokens metadata.inputTokens
        metadata.outputTokens s.numGeneratedTokens metadata.pricePerOneMillionInputComputeUnits
        metadata.pricePerOneMillionOutputComputeUnits metadata.modelName metadata.endpoint).sent := by
      rw [Streamer.drop, if_neg hf, hinv.config, StreamerConfig.settle,
        show metadata.streamer.stackSmallId = .none from hfiat]
      rfl
    rw [hinv.pending hf', hdrop, List.nil_append]
    by_cases hfits : AmountFits s.numGeneratedTokens metadata.pricePerOneMillionOutputComputeUnits
    · rw [if_pos (.inr hfits)]
      exact lockEvents_settlement (.inl rfl) (.inr (amountFits_iff.1 hfits))
    · have hnone : fiatAmount s.numGeneratedTokens metadata.pricePerOneMillionOutputComputeUnits = .none := by
        cases h : fiatAmount s.numGeneratedTokens metadata.pricePerOneMillionOutputComputeUnits with
        | none => rfl
        | some a => exact absurd (amountFits_iff.2 ⟨a, h⟩) hfits
      obtain ⟨e, he⟩ := @updateStateManagerFiat_of_none metadata.userId metadata.inputTokens metadata.inputTokens
        metadata.outputTokens s.numGeneratedTokens metadata.pricePerOneMillionInputComputeUnits
        metadata.pricePerOneMillionOutputComputeUnits metadata.modelName metadata.endpoint
        (.inr (.inr (.inr hnone)))
      rw [he, if_neg fun h => h.elim hf hfits]
      rfl

/-- What the stream of an answer has to meet. -/
def NodeAnswer.StreamSettles (calls : HandlerCalls) (metadata : RequestMetadataExtension) : NodeAnswer → Prop
  | .answered status _ _ stream => isSuccess status → AtomaProxy.StreamSettles calls metadata stream
  | .unreachable _ => True

instance (calls : HandlerCalls) (metadata : RequestMetadataExtension) (answer : NodeAnswer) :
    Decidable (answer.StreamSettles calls metadata) := by
  unfold NodeAnswer.StreamSettles
  split <;> infer_instance

theorem lockEvents_streaming {calls : HandlerCalls} {metadata : RequestMetadataExtension} (answer : NodeAnswer)
    (hfiat : metadata.selectedStackSmallId = .none) (endpoint : String) :
    lockEvents (handlerTask (handleStreamingResponse calls metadata answer) metadata.release endpoint).sent =
      if answer.StreamSettles calls metadata then metadata.settlement else [] := by
  rw [handlerTask, Eff.sent_spawned]
  unfold handleStreamingResponse NodeAnswer.success
  cases answer with
  | unreachable text =>
    have hset : (NodeAnswer.unreachable text).StreamSettles calls metadata := trivial
    rw [if_pos hset, Eff.fail_bind, Eff.handle_err rfl]
    dsimp only
    rw [Eff.sent_bind_of_quiet fun _ => rfl]
    exact lockEvents_release hfiat
  | answered status reason json stream =>
    dsimp only
    by_cases hs : isSuccess status
    · rw [if_pos hs, Eff.pure_bind, Eff.handle_ok rfl]
      refine (lockEvents_task hfiat stream).trans ?_
      simp only [NodeAnswer.StreamSettles, hs, true_implies]
    · have hset : (NodeAnswer.answered status reason json stream).StreamSettles calls metadata := fun h => absurd h hs
      rw [if_neg hs, if_pos hset, Eff.fail_bind, Eff.handle_err rfl]
      dsimp only
      rw [Eff.sent_bind_of_quiet fun _ => rfl]
      exact lockEvents_release hfiat

/-! ## The handler of a route -/

/-- The handler settles: its body is accepted, and its answer streams to a settlement or does not panic. -/
def HandlerSettles (calls : ServerCalls) (headers : Headers) (body : Value) (answer : NodeAnswer)
    (metadata : RequestMetadataExtension) : Prop :=
  (jsonExtractor calls headers body).isOk ∧
    if (metadata.endpoint = completionsPath ∨ metadata.endpoint = chatCompletionsPath) ∧ isStreaming body then
      answer.StreamSettles calls.toHandlerCalls metadata
    else answer.badHash calls.crypto = false

instance (calls : ServerCalls) (headers : Headers) (body : Value) (answer : NodeAnswer)
    (metadata : RequestMetadataExtension) : Decidable (HandlerSettles calls headers body answer metadata) := by
  unfold HandlerSettles
  infer_instance

theorem jsonExtractor_eq {calls : ServerCalls} {headers : Headers} {body payload : Value}
    (h : jsonExtractor calls headers body = .ok payload) : payload = body := by
  unfold jsonExtractor at h
  split at h
  · cases h
  · split at h
    · cases h
    · split at h
      · cases h
      · cases h
        rfl

/-- A response is made of every ending but a panic, and it sends nothing. -/
theorem sent_intoResponse (x : Handler Response) : (intoResponse x).sent = x.sent := by
  unfold intoResponse
  cases h : x.ending with
  | ok a => rw [Eff.handle_ok h]
  | err e => rw [Eff.handle_err h, Eff.sent_pure, List.append_nil]
  | panic => rw [Eff.handle_panic h]

/-- A chat's or a completion's handler. -/
theorem lockEvents_chat {calls : HandlerCalls} {metadata : RequestMetadataExtension} {payload : Value}
    {answer : NodeAnswer} (hfiat : metadata.selectedStackSmallId = .none) (verifyHash : Bool)
    (fiatTokens : Value → Int64 × Int64) (endpoint : String) :
    lockEvents (handlerTask (if isStreaming payload then handleStreamingResponse calls metadata answer
      else handleNonStreamingResponse calls metadata answer verifyHash fiatTokens) metadata.release endpoint).sent =
      if (if isStreaming payload then answer.StreamSettles calls metadata else answer.badHash calls.crypto = false)
      then metadata.settlement else [] := by
  by_cases hs : isStreaming payload = true
  · simp only [hs, if_true]
    exact lockEvents_streaming answer hfiat endpoint
  · simp only [hs]
    refine (lockEvents_handlerTask hfiat (works_nonStreaming hfiat verifyHash fiatTokens) endpoint).trans ?_
    cases answer.badHash calls.crypto <;> rfl

/-- **What a regular handler settles of a fiat request.** -/
theorem lockEvents_regularHandler {calls : ServerCalls} {headers : Headers} {body : Value} {answer : NodeAnswer}
    {metadata : RequestMetadataExtension} (hfiat : metadata.selectedStackSmallId = .none)
    (hembeddings : metadata.endpoint = embeddingsPath → metadata.outputTokens = 0) :
    lockEvents (regularHandler calls headers body answer metadata).sent =
      if HandlerSettles calls headers body answer metadata then metadata.settlement else [] := by
  cases hjson : jsonExtractor calls headers body with
  | error status =>
    have hno : ¬ HandlerSettles calls headers body answer metadata := by
      rw [HandlerSettles, hjson]
      simp [Except.isOk, Except.toBool]
    rw [if_neg hno, regularHandler, hjson]
    rfl
  | ok payload =>
    obtain rfl := jsonExtractor_eq hjson
    have hiff : HandlerSettles calls headers payload answer metadata ↔
        if (metadata.endpoint = completionsPath ∨ metadata.endpoint = chatCompletionsPath) ∧ isStreaming payload then
          answer.StreamSettles calls.toHandlerCalls metadata
        else answer.badHash calls.crypto = false := by
      rw [HandlerSettles, hjson]
      simp [Except.isOk, Except.toBool]
    rw [if_congr hiff rfl rfl, regularHandler, hjson]
    dsimp only
    rw [sent_intoResponse]
    by_cases hc : metadata.endpoint = completionsPath
    · simp only [hc, true_or, true_and, if_true]
      exact lockEvents_chat hfiat _ _ _
    · by_cases hch : metadata.endpoint = chatCompletionsPath
      · simp only [hch, or_true, true_and, if_true]
        rw [if_neg (by decide)]
        exact lockEvents_chat hfiat _ _ _
      · simp only [hc, hch, or_self, false_and, if_false]
        have hbad : (if answer.badHash calls.crypto = false then metadata.settlement else []) =
            if answer.badHash calls.crypto then [] else metadata.settlement := by
          cases answer.badHash calls.crypto <;> rfl
        rw [hbad]
        by_cases he : metadata.endpoint = embeddingsPath
        · rw [if_pos he]
          have hsettled : ∀ et t i, i = 0 ∨ i = metadata.inputTokens →
              lockEvents (metadata.settle et t metadata.inputTokens i 0 0).sent = metadata.settlement := by
            intro et t i hi
            rw [settle_fiat hfiat, RequestMetadataExtension.settlement, hembeddings he]
            refine lockEvents_settlement ?_ (.inl rfl)
            rcases hi with rfl | rfl
            · exact .inr (converts_zero _)
            · exact .inl rfl
          exact lockEvents_settlingTask works_verifiedResponse (hsettled _ _ 0 (.inl rfl))
            (fun _ => hsettled _ _ _ (.inr rfl)) _
        · rw [if_neg he]
          refine lockEvents_settlingTask works_verifiedResponse (lockEvents_release hfiat) (fun _ => ?_) _
          rw [settle_fiat hfiat]
          exact lockEvents_settlement (.inl rfl) (.inl rfl)

end AtomaProxy
