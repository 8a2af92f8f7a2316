/-
The units that requests which are sent again have reserved, and what becomes
of them.

Every way in which a search finds a stack reserves what the request asks for,
and every other way nothing; and however the request then ends, its handler
releases just that: where it cannot be prepared, where the node is down or
refuses, where its answer streams, breaks off or does not verify. Units are
lost in two places. A handler that panics in the verification releases nothing;
and a settlement that the table refuses is only logged.
-/
import AtomaProxy.Server.ChargedUser
import AtomaProxy.Server.ConfidentialLedger
import AtomaProxy.Server.StackSearch

namespace AtomaProxy

open Base

/-! ## What a regular handler releases -/

/-- The verification of the answer panics: a stream is verified apart, event by event. -/
def panicsOn (calls : ServerCalls) (payload : Value) (answer : NodeAnswer) (endpoint : String) : Bool :=
  !((endpoint = completionsPath || endpoint = chatCompletionsPath) && isStreaming payload) &&
    answer.jsonBody.any (Value.badResponseHash calls.crypto)

/-- **What a request's end releases of the stack that pays for it.** -/
theorem released_regularHandler {calls : ServerCalls} {headers : Headers} {body payload : Value} {answer : NodeAnswer}
    {metadata : RequestMetadataExtension} {stackSmallId : Int64}
    (hpayload : jsonExtractor calls headers body = .ok payload)
    (hstack : metadata.selectedStackSmallId = .some stackSmallId)
    (hembeddings : metadata.endpoint = embeddingsPath → metadata.outputTokens = 0) :
    released stackSmallId (regularHandler calls headers body answer metadata).sent =
      if panicsOn calls payload answer metadata.endpoint then 0 else metadata.totalTokens.toInt := by
  unfold regularHandler panicsOn
  rw [hpayload]
  dsimp only
  rw [sent_intoResponse]
  by_cases hcompletions : metadata.endpoint = completionsPath
  · rw [if_pos hcompletions]
    refine (released_generation hstack).trans ?_
    simp only [hcompletions]
    cases isStreaming payload <;> cases answer.jsonBody.any (Value.badResponseHash calls.crypto) <;> rfl
  · rw [if_neg hcompletions]
    by_cases hchat : metadata.endpoint = chatCompletionsPath
    · rw [if_pos hchat]
      refine (released_generation hstack).trans ?_
      simp only [hchat]
      cases isStreaming payload <;> cases answer.jsonBody.any (Value.badResponseHash calls.crypto) <;> rfl
    · rw [if_neg hchat]
      simp only [hcompletions, hchat, decide_false, Bool.or_self, Bool.false_and, Bool.not_false, Bool.true_and]
      by_cases he : metadata.endpoint = embeddingsPath
      · rw [if_pos he]
        refine (released_settlingTask hstack).trans ?_
        rw [← inputTokens_add_outputTokens, hembeddings he, Int64.add_zero]
      · rw [if_neg he]
        exact released_settlingTask hstack

/-! ## The request that is sent again -/

/-- The request as it is prepared for the stack that was found for it. -/
def RetriedRequest.prepared (r : RetriedRequest) (answers : RequestAnswers) (node : SelectedNodeMetadata) :
    Except AtomaProxyError RequestMetadataExtension :=
  tryValidateStackForRequest answers.retryProcess r.body node (node.stackSmallId.getD 0)
    (r.metadata.numInputTokens.getD 0) r.metadata.maxOutputTokens r.metadata.userId r.metadata.endpoint

/-- Its handler panics. -/
def RetriedRequest.panics (calls : ServerCalls) (r : RetriedRequest) (answers : RequestAnswers)
    (node : SelectedNodeMetadata) : Bool :=
  (r.prepared answers node).isOk && panicsOn calls r.body answers.secondNode r.metadata.endpoint

/-- The units that the request has reserved on a stack: what it asks for, once it found one. -/
def RetriedRequest.heldOn (stackSmallId : Int64) (r : RetriedRequest) : Int :=
  match r.phase with
  | .searching _ => 0
  | .found node => if node.stackSmallId = .some stackSmallId then r.metadata.totalTokens.toInt else 0

/-- The request came through its extractor once, and embeddings have no output. -/
structure RetriedRequest.Well (calls : ServerCalls) (r : RetriedRequest) : Prop where
  payload : jsonExtractor calls r.headers r.body = .ok r.body
  embeddings : r.metadata.endpoint = embeddingsPath → r.metadata.outputTokens = 0

section Retry

variable {calls : ServerCalls} {stackSmallId : Int64} {r : RetriedRequest} {answers : RequestAnswers}
  {node : SelectedNodeMetadata}

theorem tryValidateStackForRequest_ok {processed : Except AtomaProxyError ProcessedRequest} {body : Value}
    {id : Int64} {metadata retried : RequestMetadataExtension} (h : tryValidateStackForRequest processed body node id
      (metadata.numInputTokens.getD 0) metadata.maxOutputTokens metadata.userId metadata.endpoint = .ok retried) :
    retried.selectedStackSmallId = .some id ∧ retried.totalTokens = metadata.totalTokens ∧
      retried.outputTokens = metadata.outputTokens ∧ retried.endpoint = metadata.endpoint := by
  unfold tryValidateStackForRequest prepareRequest at h
  obtain ⟨_, _, h⟩ := ok_bind_iff.1 h
  obtain ⟨_, _, h⟩ := ok_bind_iff.1 h
  obtain ⟨_, _, h⟩ := ok_bind_iff.1 h
  cases h
  exact ⟨rfl, rfl, rfl, rfl⟩

/-- **What a request that is sent again releases**: all that it has reserved, unless its handler panics. -/
theorem released_retryOnStack (h : r.Well calls) (hphase : r.phase = .found node) :
    released stackSmallId
        (retryOnStack calls { answers with retryStack := .ok node } r.headers r.body r.metadata).sent =
      if r.panics calls answers node then 0 else r.heldOn stackSmallId := by
  unfold RetriedRequest.heldOn retryOnStack RetriedRequest.panics RetriedRequest.prepared
  rw [hphase, Eff.ofExcept_ok_bind]
  dsimp only
  cases hnode : node.stackSmallId with
  | none =>
    simp only [reduceCtorEq, if_false, ite_self]
    rfl
  | some id =>
    dsimp only [Option.getD]
    simp only [Option.some.injEq]
    split
    · next retried hretried =>
      obtain ⟨hstack, htotal, hout, hendpoint⟩ := tryValidateStackForRequest_ok hretried
      rw [hretried]
      by_cases hid : id = stackSmallId
      · subst hid
        rw [if_pos rfl, ← htotal, ← hendpoint]
        exact released_regularHandler h.payload hstack fun he => hout.trans (h.embeddings (hendpoint ▸ he))
      · rw [if_neg hid, ite_self]
        exact released_of_handlerEvent (fun hsome => hid (Option.some.inj (hstack.symm.trans hsome)))
          (sends_regularHandler calls r.headers r.body)
    · next e he =>
      rw [he, updateStateManager, Eff.send_bind]
      refine (released_cons _ _).trans ?_
      exact Int.add_zero _

end Retry

/-! ## What a search reserves -/

/-- The units that a search has reserved with what an answer led to. -/
def SearchContinued.heldOn (stackSmallId : Int64) (metadata : RequestMetadataExtension) : SearchContinued → Int
  | .ended (.ok node) => if node.stackSmallId = .some stackSmallId then metadata.totalTokens.toInt else 0
  | _ => 0

/-- The units that a statement has reserved, by its reply. -/
def unitsReplied (stackSmallId : Int64) (units : Int64) : Except AtomaStateManagerError (Option (Int64 × Stack)) → Int
  | .ok (.some (id, _)) => if id = stackSmallId then units.toInt else 0
  | _ => 0

section Search

variable {s s' : StackTables} {stackSmallId : Int64} {metadata : RequestMetadataExtension}

/-- A statement that scans for a stack reserves on the one it returns. -/
theorem lockedOn_replied {pick : Option Int64} {clauses : Int64 → Stack → Except SqlError Bool} {units : Int64}
    {fails : Bool} :
    let replied := s.replied (if fails then query (.error .unavailable) else s.reservePicked pick clauses units)
    replied.1.lockedOn stackSmallId = s.lockedOn stackSmallId + unitsReplied stackSmallId units replied.2 := by
  cases fails with
  | true => exact (Int.add_zero _).symm
  | false =>
    dsimp only
    rw [if_neg Bool.false_ne_true]
    rcases hres : s.reservePicked pick clauses units with e | ⟨found, s'⟩
    · exact (Int.add_zero _).symm
    · cases found with
      | none =>
        cases StackTables.reservePicked_none hres
        exact (Int.add_zero _).symm
      | some p =>
        obtain ⟨id, row'⟩ := p
        obtain ⟨row, hrow, hadd, rfl⟩ := StackTables.reservePicked_some hres
        exact StackTables.lockedOn_addLocked hrow hadd rfl

theorem heldOn_afterStacksForModel (reply : Except AtomaStateManagerError (Option (Int64 × Stack))) :
    (metadata.afterStacksForModel reply).heldOn stackSmallId metadata =
      unitsReplied stackSmallId metadata.totalTokens reply := by
  rcases reply with e | found
  · rfl
  · rcases found with _ | ⟨id, row⟩
    · rfl
    · exact if_congr Option.some_inj rfl rfl

theorem heldOn_afterStacksForTask {taskSmallId : Int64} {left : Nat}
    (reply : Except AtomaStateManagerError (Option (Int64 × Stack))) :
    (metadata.afterStacksForTask taskSmallId left reply).heldOn stackSmallId metadata =
      unitsReplied stackSmallId metadata.totalTokens reply := by
  rcases reply with e | found
  · rfl
  · rcases found with _ | ⟨id, row⟩
    · cases left <;> rfl
    · exact if_congr Option.some_inj rfl rfl

theorem heldOn_afterCheapestNode {reply : Except AtomaStateManagerError (Option CheapestNode)}
    {lockIsFree stackIsLocked : Bool} :
    (metadata.afterCheapestNode reply lockIsFree stackIsLocked).heldOn stackSmallId metadata = 0 := by
  unfold RequestMetadataExtension.afterCheapestNode RequestMetadataExtension.getStackIfLocked
  split
  · rfl
  · rfl
  · split
    · rfl
    · split
      · split <;> rfl
      · rfl

/-- A purchase has reserved nothing before its stack is inserted. -/
theorem heldOn_inAcquire {node : CheapestNode} {c : Continued} (h : ∀ result, c ≠ .ended (.ok result)) :
    (RequestMetadataExtension.inAcquire node c).heldOn stackSmallId metadata = 0 := by
  cases c with
  | waits phase => rfl
  | ended result =>
    cases result with
    | error e => rfl
    | ok result => exact absurd rfl (h result)

/-- **An answer reserves what the search has found with it**, and nothing else. -/
theorem lockedOn_handled {phase : StackSearch} {answer : SearchAnswer} {continued : SearchContinued}
    (h : answer.handled s metadata phase = .some (s', continued)) :
    s'.lockedOn stackSmallId = s.lockedOn stackSmallId + continued.heldOn stackSmallId metadata := by
  unfold SearchAnswer.handled at h
  split at h
  · cases h
    rw [heldOn_afterStacksForModel]
    exact lockedOn_replied
  · cases h
    rw [heldOn_afterCheapestNode, Int.add_zero]
  · cases h
    rw [heldOn_afterStacksForTask]
    exact lockedOn_replied
  · cases h
    rw [heldOn_inAcquire Purchase.afterDeduct_ne_ended, Int.add_zero]
  · cases h
    rw [heldOn_inAcquire Purchase.afterEntry_ne_ended, Int.add_zero]
  · next node event fails =>
    cases h
    have hfailed : ∀ e, (RequestMetadataExtension.inAcquire node
        ((metadata.purchase node).afterNewStackAcquired event (.error e))).heldOn stackSmallId metadata = 0 :=
      fun e => heldOn_inAcquire Purchase.afterNewStackAcquired_ne_ended
    cases fails with
    | true => exact (congrArg _ (hfailed _)).trans (Int.add_zero _) |>.symm
    | false =>
      rw [if_neg Bool.false_ne_true]
      cases hins : handleStackCreatedEvent s event (metadata.purchase node).totalTokens.toInt64
        (metadata.purchase node).userId with
      | error e => exact (congrArg _ (hfailed _)).trans (Int.add_zero _) |>.symm
      | ok s₁ =>
        refine (StackTables.lockedOn_stackCreated hins).trans (congrArg _ ?_)
        exact if_congr Option.some_inj.symm rfl rfl
  · cases h
    rw [heldOn_inAcquire Purchase.afterRefund_ne_ended, Int.add_zero]
  · cases h

end Search

/-! ## The ledger -/

namespace RetryState

variable (stackSmallId : Int64) (s : RetryState)

def heldOn : Int := (s.requests.map (RetriedRequest.heldOn stackSmallId)).sum

def toRelease : Int := (s.pending.map (StateManagerEvent.releases stackSmallId)).sum

/-- What is locked on the stack, and is neither a request's nor to be released. -/
def unaccounted : Int := s.tables.lockedOn stackSmallId - s.heldOn stackSmallId - s.toRelease stackSmallId

end RetryState

/-- The statement of the settlement fails. -/
def StackTables.refuses (s : StackTables) : StateManagerEvent → Bool
  | .updateStackNumTokens id estimatedTotalTokens totalTokens =>
    !(updateStackNumTokens s id estimatedTotalTokens totalTokens).isOk
  | _ => false

/-- The units of a stack that a step loses: those of a request whose handler panics, and those of a settlement that
the table refuses. -/
def RetryEvent.lost (calls : ServerCalls) (stackSmallId : Int64) (s : RetryState) : RetryEvent → Int
  | .served i answers =>
    match s.requests[i]? with
    | .some r =>
      match r.phase with
      | .found node => if r.panics calls answers node then r.heldOn stackSmallId else 0
      | .searching _ => 0
    | .none => 0
  | .applied e => if s.tables.refuses e then e.releases stackSmallId else 0
  | _ => 0

/-- The stack is used by requests that are sent again only. -/
def RetryEvent.Spares (stackSmallId : Int64) (s : RetryState) : RetryEvent → Prop
  | .other ev => ev.Spares stackSmallId s.tables
  | _ => True

namespace RetryState

variable {calls : ServerCalls} {stackSmallId : Int64} {s s' : RetryState}

/-- What an event releases comes off the locked units, where the table takes it. -/
theorem lockedOn_applied (e : StateManagerEvent) : (s.tables.apply e).lockedOn stackSmallId +
    e.releases stackSmallId = s.tables.lockedOn stackSmallId +
      if s.tables.refuses e then e.releases stackSmallId else 0 := by
  cases e with
  | updateStackNumTokens id estimated total =>
    cases hsettle : updateStackNumTokens s.tables id estimated total with
    | ok s₁ =>
      simp only [StackTables.apply, StackTables.refuses, hsettle]
      exact (StackTables.lockedOn_settle hsettle).trans (Int.add_zero _).symm
    | error e =>
      simp only [StackTables.apply, StackTables.refuses, hsettle]
      rfl
  | lockStack id => exact congrArg (· + 0) (StackTables.lockedOn_flags false)
  | lockUserFiatBalance | updateStackNumTokensFiat | updateNodeThroughputPerformance => rfl

@[simp] theorem goOn_tables (i : Nat) (r : RetriedRequest) (continued : SearchContinued) :
    (s.goOn i r continued).tables = s.tables := by
  rcases continued with _ | ⟨_ | _⟩ <;> rfl

@[simp] theorem goOn_pending (i : Nat) (r : RetriedRequest) (continued : SearchContinued) :
    (s.goOn i r continued).pending = s.pending := by
  rcases continued with _ | ⟨_ | _⟩ <;> rfl

theorem heldOn_goOn {i : Nat} {r : RetriedRequest} {tables : StackTables} {continued : SearchContinued}
    (hr : s.requests[i]? = .some r) (hphase : r.heldOn stackSmallId = 0) :
    RetryState.heldOn stackSmallId ({ s with tables }.goOn i r continued) =
      s.heldOn stackSmallId + continued.heldOn stackSmallId r.metadata := by
  have hset : ∀ phase, RetryState.heldOn stackSmallId
      { s with tables, requests := s.requests.set i { r with phase } } =
        s.heldOn stackSmallId + RetriedRequest.heldOn stackSmallId { r with phase } := by
    intro phase
    have hsum := sum_map_set { r with phase } hr (RetriedRequest.heldOn stackSmallId)
    unfold RetryState.heldOn
    dsimp only
    omega
  cases continued with
  | waits phase => exact hset (.searching phase)
  | ended result =>
    cases result with
    | ok node => exact hset (.found node)
    | error e =>
      have hsum := sum_map_eraseIdx hr (RetriedRequest.heldOn stackSmallId)
      show ((s.requests.eraseIdx i).map _).sum = (s.requests.map _).sum + 0
      omega

theorem toRelease_add (requests : List RetriedRequest) (sent : List StateManagerEvent) :
    RetryState.toRelease stackSmallId { s with requests, pending := s.pending + ↑sent } =
      s.toRelease stackSmallId + released stackSmallId sent := by
  unfold RetryState.toRelease released
  dsimp only
  rw [Multiset.map_add, Multiset.sum_add, Multiset.map_coe, Multiset.sum_coe]

theorem toRelease_erase {e : StateManagerEvent} (h : e ∈ s.pending) :
    RetryState.toRelease stackSmallId { s with pending := s.pending.erase e } + e.releases stackSmallId =
      s.toRelease stackSmallId := by
  rw [Int.add_comm]
  exact Multiset.sum_map_erase h

/-- A request that its node is to be asked again came through its extractor. -/
theorem jsonExtractor_of_tooEarly {headers : Headers} {body : Value} {metadata : RequestMetadataExtension}
    {firstNode : NodeAnswer} (h : respondsTooEarly calls headers body metadata firstNode = true) :
    jsonExtractor calls headers body = .ok body := by
  have hsame : jsonExtractor calls { headers with authorization := .none } body =
      jsonExtractor calls headers body := rfl
  unfold respondsTooEarly at h
  replace h := (Bool.and_eq_true_iff.1 h).2
  unfold regularHandler at h
  rw [hsame] at h
  unfold jsonExtractor at h ⊢
  cases hcontent : headers.contentType with
  | none =>
    rw [hcontent] at h
    cases h
  | some contentType =>
    rw [hcontent] at h
    dsimp only at h ⊢
    split
    · next hjson =>
      rw [if_pos hjson] at h
      cases h
    · next hjson =>
      rw [if_neg hjson] at h
      split
      · next hlength =>
        rw [if_pos hlength] at h
        cases h
      · rfl

theorem admitted_ok {p : PassAnswers} {headers : Headers} {body : Value} {endpoint : String}
    {metadata : RequestMetadataExtension} (h : p.admitted headers body endpoint = .some metadata) :
    ∃ m, p.quoted headers body endpoint = .ok m ∧ createFiatRequest p body m endpoint = .ok metadata := by
  unfold PassAnswers.admitted at h
  split at h
  · next m hquoted =>
    split at h
    · cases hcreate : createFiatRequest p body m endpoint with
      | error e =>
        rw [hcreate] at h
        cases h
      | ok prepared =>
        rw [hcreate] at h
        cases h
        exact ⟨m, hquoted, hcreate⟩
    · cases h
  · cases h

theorem step_tooEarly {p : PassAnswers} {headers : Headers} {body : Value} {endpoint : String} {firstNode : NodeAnswer}
    (h : (retryMachine calls).step s (.tooEarly p headers body endpoint firstNode) = .some s') :
    ∃ metadata, p.admitted headers (withDefaultMaxTokens body) endpoint = .some metadata ∧
      respondsTooEarly calls headers (withDefaultMaxTokens body) metadata firstNode = true ∧
      s' = { s with requests := s.requests ++
        [⟨headers, withDefaultMaxTokens body, metadata, .searching .getStacksForModel⟩] } := by
  obtain ⟨metadata, hadmitted, h⟩ := Option.bind_eq_some_iff.1 h
  split at h
  · next htooEarly =>
    cases h
    exact ⟨metadata, hadmitted, htooEarly, rfl⟩
  · cases h

theorem step_answered {i : Nat} {answer : SearchAnswer}
    (h : (retryMachine calls).step s (.answered i answer) = .some s') :
    ∃ r phase tables continued, s.requests[i]? = .some r ∧ r.phase = .searching phase ∧
      answer.handled s.tables r.metadata phase = .some (tables, continued) ∧
      s' = { s with tables }.goOn i r continued := by
  obtain ⟨r, hr, h⟩ := Option.bind_eq_some_iff.1 h
  split at h
  · next phase hphase =>
    obtain ⟨⟨tables, continued⟩, hhandled, h⟩ := Option.bind_eq_some_iff.1 h
    cases h
    exact ⟨r, phase, tables, continued, hr, hphase, hhandled, rfl⟩
  · cases h

theorem step_served {i : Nat} {answers : RequestAnswers}
    (h : (retryMachine calls).step s (.served i answers) = .some s') :
    ∃ r node, s.requests[i]? = .some r ∧ r.phase = .found node ∧ s' = { s with
      requests := s.requests.eraseIdx i
      pending := s.pending +
        ↑(retryOnStack calls { answers with retryStack := .ok node } r.headers r.body r.metadata).sent } := by
  obtain ⟨r, hr, h⟩ := Option.bind_eq_some_iff.1 h
  split at h
  · cases h
  · next node hphase =>
    cases h
    exact ⟨r, node, hr, hphase, rfl⟩

theorem step_applied {e : StateManagerEvent} (h : (retryMachine calls).step s (.applied e) = .some s') :
    e ∈ s.pending ∧ s' = { s with tables := s.tables.apply e, pending := s.pending.erase e } := by
  change (if e ∈ s.pending then _ else _) = _ at h
  split at h
  · next he =>
    cases h
    exact ⟨he, rfl⟩
  · cases h

/-- Where a request goes on, it and the others stay as they came through the extractor. -/
theorem well_goOn {i : Nat} {r : RetriedRequest} (continued : SearchContinued) (hr : s.requests[i]? = .some r)
    (h : ∀ r ∈ s.requests, r.Well calls) : ∀ r' ∈ (s.goOn i r continued).requests, r'.Well calls := by
  have hset : ∀ phase, ∀ r' ∈ s.requests.set i { r with phase }, r'.Well calls := by
    intro phase r' hr'
    have hwell := h r (List.mem_of_getElem? hr)
    rcases List.mem_or_eq_of_mem_set hr' with hr' | rfl
    · exact h r' hr'
    · exact ⟨hwell.payload, hwell.embeddings⟩
  cases continued with
  | waits phase => exact hset (.searching phase)
  | ended result =>
    cases result with
    | ok node => exact hset (.found node)
    | error e => exact fun r' hr' => h r' (List.mem_of_mem_eraseIdx hr')

theorem well_step {ev : RetryEvent} (h : ∀ r ∈ s.requests, r.Well calls)
    (hstep : (retryMachine calls).step s ev = .some s') : ∀ r ∈ s'.requests, r.Well calls := by
  cases ev with
  | tooEarly p headers body endpoint firstNode =>
    obtain ⟨metadata, hadmitted, htooEarly, rfl⟩ := step_tooEarly hstep
    obtain ⟨m, hquoted, hcreate⟩ := admitted_ok hadmitted
    intro r hr
    rcases List.mem_append.1 hr with hr | hr
    · exact h r hr
    · cases List.mem_singleton.1 hr
      exact ⟨jsonExtractor_of_tooEarly htooEarly, outputTokens_of_embeddings hquoted hcreate⟩
  | answered i answer =>
    obtain ⟨r, phase, tables, continued, hr, -, -, rfl⟩ := step_answered hstep
    exact well_goOn continued hr h
  | served i answers =>
    obtain ⟨r, node, -, -, rfl⟩ := step_served hstep
    exact fun r' hr' => h r' (List.mem_of_mem_eraseIdx hr')
  | applied e =>
    obtain ⟨-, rfl⟩ := step_applied hstep
    exact h
  | other ev =>
    cases hstep
    exact h

/-- **What is locked, and neither reserved by a request nor to be released, moves by what a step loses.** -/
theorem unaccounted_step {ev : RetryEvent} (h : ∀ r ∈ s.requests, r.Well calls) (hspares : ev.Spares stackSmallId s)
    (hstep : (retryMachine calls).step s ev = .some s') :
    s'.unaccounted stackSmallId = s.unaccounted stackSmallId + ev.lost calls stackSmallId s := by
  unfold unaccounted
  cases ev with
  | tooEarly p headers body endpoint firstNode =>
    obtain ⟨metadata, -, -, rfl⟩ := step_tooEarly hstep
    have hheld : RetryState.heldOn stackSmallId { s with requests := s.requests ++
        [⟨headers, withDefaultMaxTokens body, metadata, .searching .getStacksForModel⟩] } = s.heldOn stackSmallId := by
      unfold heldOn
      rw [List.map_append, List.sum_append]
      exact Int.add_zero _
    rw [hheld]
    exact (Int.add_zero _).symm
  | answered i answer =>
    obtain ⟨r, phase, tables, continued, hr, hphase, hhandled, rfl⟩ := step_answered hstep
    have hlocked := @lockedOn_handled _ _ stackSmallId _ _ _ _ hhandled
    have hheld := @heldOn_goOn stackSmallId s i r tables continued hr (by rw [RetriedRequest.heldOn, hphase])
    show _ = _ + 0
    rw [hheld, goOn_tables, toRelease, goOn_pending, toRelease, hlocked]
    dsimp only
    omega
  | served i answers =>
    obtain ⟨r, node, hr, hphase, rfl⟩ := step_served hstep
    have hreleased := @released_retryOnStack calls stackSmallId r answers node (h r (List.mem_of_getElem? hr)) hphase
    have hrelease := @toRelease_add stackSmallId s (s.requests.eraseIdx i)
      (retryOnStack calls { answers with retryStack := .ok node } r.headers r.body r.metadata).sent
    have hheld := sum_map_eraseIdx hr (RetriedRequest.heldOn stackSmallId)
    have hlost : RetryEvent.lost calls stackSmallId s (.served i answers) =
        if r.panics calls answers node then r.heldOn stackSmallId else 0 := by
      rw [RetryEvent.lost, hr]
      dsimp only
      rw [hphase]
    show s.tables.lockedOn stackSmallId - _ - _ = _
    rw [hlost, hrelease, hreleased]
    unfold heldOn
    dsimp only
    split <;> omega
  | applied e =>
    obtain ⟨he, rfl⟩ := step_applied hstep
    have hlocked := @lockedOn_applied stackSmallId s e
    have hrelease := @toRelease_erase stackSmallId s e he
    show (s.tables.apply e).lockedOn stackSmallId - s.heldOn stackSmallId - _ =
      _ + if s.tables.refuses e then e.releases stackSmallId else 0
    unfold toRelease at hrelease ⊢
    dsimp only at hrelease ⊢
    omega
  | other ev =>
    cases hstep
    exact (congrArg (· - s.heldOn stackSmallId - s.toRelease stackSmallId) (StackTables.lockedOn_step hspares)).trans
      (Int.add_zero _).symm

end RetryState

/-- **Main result.** In every run on whose requests alone the stack is used, what is locked on it is what the requests
hold, with what is to be released and what was lost: once they have ended and every event is applied, the units that
stay locked are those of the handlers that panicked and of the settlements that the table refused. -/
theorem retried_units_accounted {calls : ServerCalls} {c : Catalog} {evs : List RetryEvent} {s : RetryState}
    {stackSmallId : Int64} (hspares : (retryMachine calls).Guarded (RetryEvent.Spares stackSmallId) (.empty c) evs)
    (hrun : (retryMachine calls).run (.empty c) evs = .some s) :
    s.tables.lockedOn stackSmallId = s.heldOn stackSmallId + s.toRelease stackSmallId +
        (retryMachine calls).total (RetryEvent.lost calls stackSmallId) (.empty c) evs ∧
      (s.requests = [] → s.pending = 0 → s.tables.lockedOn stackSmallId =
        (retryMachine calls).total (RetryEvent.lost calls stackSmallId) (.empty c) evs) := by
  have htotal : s.unaccounted stackSmallId = (RetryState.empty c).unaccounted stackSmallId +
      (retryMachine calls).total (RetryEvent.lost calls stackSmallId) (.empty c) evs :=
    Machine.run_total (fun h _ hstep => RetryState.well_step h hstep)
      (fun h hspares hstep => RetryState.unaccounted_step h hspares hstep) (fun _ hr => absurd hr List.not_mem_nil) hspares hrun
  have hempty : (RetryState.empty c).unaccounted stackSmallId = 0 := rfl
  have hlocked : s.tables.lockedOn stackSmallId = s.heldOn stackSmallId + s.toRelease stackSmallId +
      (retryMachine calls).total (RetryEvent.lost calls stackSmallId) (.empty c) evs := by
    unfold RetryState.unaccounted at htotal hempty
    omega
  refine ⟨hlocked, fun hrequests hpending => ?_⟩
  have hheld : s.heldOn stackSmallId = 0 := by rw [RetryState.heldOn, hrequests, List.map_nil, List.sum_nil]
  have hrelease : s.toRelease stackSmallId = 0 := by
    rw [RetryState.toRelease, hpending, Multiset.map_zero, Multiset.sum_zero]
  omega

/-- User 1 asks twice for 55 units, and its node answers 425; the stack's node is down at first, and then answers with
a hash that is not base64. -/
def retryExampleRun : List RetryEvent :=
  let tooEarly : RetryEvent := .tooEarly requestAnswersExample.first headersExample (bodyExample 50) chatCompletionsPath
    (.answered 425 .none (.error "not JSON") [])
  [.other (.newStackAcquired stackCreatedExample 0 1),
    tooEarly,
    .answered 0 (.stacks (.some 1) false),
    .served 0 requestAnswersExample,
    .applied (.updateStackNumTokens 1 55 0),
    tooEarly,
    .answered 0 (.stacks (.some 1) false),
    .served 0 { requestAnswersExample with secondNode := requestAnswersExample.firstNode }]

theorem retried_units_accounted_example : ∃ s,
    (retryMachine serverCallsExample).run (.empty catalogExample) retryExampleRun = .some s ∧
      s.tables.lockedOn 1 = 55 ∧ s.heldOn 1 = 0 ∧ s.toRelease 1 = 0 ∧
        s.tables.lockedOn 1 = s.heldOn 1 + s.toRelease 1 + (retryMachine serverCallsExample).total
          (RetryEvent.lost serverCallsExample 1) (.empty catalogExample) retryExampleRun := by
  have hend : ((retryMachine serverCallsExample).run (.empty catalogExample) retryExampleRun).map
      (fun s => (s.tables.lockedOn 1, s.heldOn 1, s.toRelease 1)) = .some (55, 0, 0) := by decide
  obtain ⟨s, hrun, hs⟩ := Option.map_eq_some_iff.1 hend
  simp only [Prod.mk.injEq] at hs
  obtain ⟨hlocked, hheld, hrelease⟩ := hs
  refine ⟨s, hrun, hlocked, hheld, hrelease, (retried_units_accounted ?_ hrun).1⟩
  refine ⟨fun _ => rfl, fun _ _ => ⟨trivial, fun _ _ => ⟨trivial, fun _ _ => ⟨trivial, fun _ _ => ?_⟩⟩⟩⟩
  exact ⟨trivial, fun _ _ => ⟨trivial, fun _ _ => ⟨trivial, fun _ _ => ⟨trivial, fun _ _ => trivial⟩⟩⟩⟩

end AtomaProxy
