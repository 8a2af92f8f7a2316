/-
Whose stack a request that is sent again is paid with.

Both statements that the search asks for a stack look at its user, and a stack
that is bought is stored for the user whose request buys it; and what a stack
was bought as never changes. So the request goes to the node of a stack of its
own user, as long as it takes, and whatever that node then answers, all that
its end settles is that stack, and not the balance from which its first
attempt was paid.
-/
import AtomaProxy.Server.LockOwnership
import AtomaProxy.Server.RetryLedger

namespace AtomaProxy

open Base

/-- The node is that of a stack of the user. -/
def SelectedNodeMetadata.OfUser (s : StackTables) (userId : Int64) (node : SelectedNodeMetadata) : Prop :=
  ∃ id row, node.stackSmallId = .some id ∧ s.rows id = .some row ∧ row.userId = userId ∧
    row.selectedNodeId = node.selectedNodeId

/-- The event settles nothing but a stack of the user. -/
def StateManagerEvent.PaidBy (s : StackTables) (userId : Int64) : StateManagerEvent → Prop
  | .updateStackNumTokens stackSmallId .. => s.OwnedBy stackSmallId userId
  | .updateNodeThroughputPerformance .. => True
  | .updateStackNumTokensFiat _ | .lockUserFiatBalance .. | .lockStack _ => False

section OfUser

variable {s s' : StackTables} {userId : Int64}

theorem SelectedNodeMetadata.OfUser.keep {node : SelectedNodeMetadata} (hk : s.KeepsTerms s')
    (h : node.OfUser s userId) : node.OfUser s' userId := by
  obtain ⟨id, row, hid, hrow, huser, hnode⟩ := h
  obtain ⟨row', hrow', hterms⟩ := hk hrow
  simp only [Stack.terms, Prod.mk.injEq] at hterms
  exact ⟨id, row', hid, hrow', hterms.1.trans huser, hterms.2.1.trans hnode⟩

theorem ofUser_nodeMetadata {id : Int64} {row : Stack} (hrow : s.rows id = .some row) (huser : row.userId = userId) :
    (row.nodeMetadata id).OfUser s userId := ⟨id, row, rfl, hrow, huser, rfl⟩

theorem Stack.userId_of_forModel {c : Catalog} {model : String} {units id : Int64} {row : Stack}
    (h : Stack.forModel c model units userId id row = .ok true) : row.userId = userId := by
  simp only [Stack.forModel, ok_bind_iff, Except.ok.injEq, Bool.and_eq_true, decide_eq_true_eq] at h
  obtain ⟨_, _, h⟩ := h
  exact h.1.1.1.1.2

theorem Stack.userId_of_forTask {taskSmallId units id : Int64} {row : Stack}
    (h : Stack.forTask taskSmallId units userId id row = .ok true) : row.userId = userId := by
  simp only [Stack.forTask, ok_bind_iff, Except.ok.injEq, Bool.and_eq_true, decide_eq_true_eq] at h
  obtain ⟨_, _, h⟩ := h
  exact h.1.1.1.2

/-- A statement whose clauses ask for the user returns a row of the user, if any. -/
theorem ofUser_replied {pick : Option Int64} {clauses : Int64 → Stack → Except SqlError Bool} {units : Int64}
    {fails : Bool} (hclauses : ∀ {id row}, clauses id row = .ok true → row.userId = userId) :
    let replied := s.replied (if fails then query (.error .unavailable) else s.reservePicked pick clauses units)
    s.KeepsTerms replied.1 ∧ ∀ {id row}, replied.2 = .ok (.some (id, row)) →
      (row.nodeMetadata id).OfUser replied.1 userId := by
  cases fails with
  | true => exact ⟨StackTables.KeepsTerms.refl s, fun h => by cases h⟩
  | false =>
    dsimp only
    rw [if_neg Bool.false_ne_true]
    rcases hres : s.reservePicked pick clauses units with e | ⟨found, s₁⟩
    · exact ⟨StackTables.KeepsTerms.refl s, fun h => by cases h⟩
    · cases found with
      | none =>
        cases StackTables.reservePicked_none hres
        exact ⟨StackTables.KeepsTerms.refl s, fun h => by cases h⟩
      | some p =>
        obtain ⟨id, row'⟩ := p
        obtain ⟨_, row, hrow, hmet, _⟩ := StackTables.reservePicked_some_iff.1 ⟨row', s₁, hres⟩
        obtain ⟨row₁, hrow₁, hadd, rfl⟩ := StackTables.reservePicked_some hres
        cases hrow.symm.trans hrow₁
        refine ⟨StackTables.keepsTerms_addLocked hrow hadd rfl, fun h => ?_⟩
        cases h
        refine ofUser_nodeMetadata (Function.update_self _ _ _) ?_
        exact (congrArg Prod.fst (StackTables.terms_addLocked hadd)).trans (hclauses hmet)

end OfUser

section Search

variable {s s' : StackTables} {metadata : RequestMetadataExtension}

theorem afterStacksForModel_ok {reply : Except AtomaStateManagerError (Option (Int64 × Stack))}
    {node : SelectedNodeMetadata} (h : metadata.afterStacksForModel reply = .ended (.ok node)) :
    ∃ id row, reply = .ok (.some (id, row)) ∧ node = row.nodeMetadata id := by
  rcases reply with e | _ | ⟨id, row⟩
  · cases h
  · cases h
  · cases h
    exact ⟨id, row, rfl, rfl⟩

theorem afterStacksForTask_ok {taskSmallId : Int64} {left : Nat}
    {reply : Except AtomaStateManagerError (Option (Int64 × Stack))} {node : SelectedNodeMetadata}
    (h : metadata.afterStacksForTask taskSmallId left reply = .ended (.ok node)) :
    ∃ id row, reply = .ok (.some (id, row)) ∧ node = row.nodeMetadata id := by
  rcases reply with e | _ | ⟨id, row⟩
  · cases h
  · cases left <;> cases h
  · cases h
    exact ⟨id, row, rfl, rfl⟩

theorem afterCheapestNode_ne_ok {reply : Except AtomaStateManagerError (Option CheapestNode)}
    {lockIsFree stackIsLocked : Bool} {node : SelectedNodeMetadata} :
    metadata.afterCheapestNode reply lockIsFree stackIsLocked ≠ .ended (.ok node) := by
  unfold RequestMetadataExtension.afterCheapestNode RequestMetadataExtension.getStackIfLocked
  split
  · rintro ⟨⟩
  · rintro ⟨⟩
  · split
    · rintro ⟨⟩
    · split
      · split <;> rintro ⟨⟩
      · rintro ⟨⟩

theorem inAcquire_ok {offer : CheapestNode} {c : Continued} {node : SelectedNodeMetadata}
    (h : RequestMetadataExtension.inAcquire offer c = .ended (.ok node)) : c = .ended (.ok node) := by
  cases c with
  | waits phase => cases h
  | ended result =>
    cases h
    rfl

/-- **An answer keeps what the stacks were bought as**, and the search ends with a stack of the request's user. -/
theorem ofUser_handled {phase : StackSearch} {answer : SearchAnswer} {continued : SearchContinued}
    (h : answer.handled s metadata phase = .some (s', continued)) :
    s.KeepsTerms s' ∧ ∀ {node}, continued = .ended (.ok node) → node.OfUser s' metadata.userId := by
  unfold SearchAnswer.handled at h
  split at h
  · next pick fails =>
    cases h
    obtain ⟨hkeeps, hfound⟩ := @ofUser_replied s metadata.userId pick
      (Stack.forModel s.catalog metadata.modelName metadata.totalTokens metadata.userId) metadata.totalTokens fails
      Stack.userId_of_forModel
    refine ⟨hkeeps, fun hend => ?_⟩
    obtain ⟨id, row, hreply, rfl⟩ := afterStacksForModel_ok hend
    exact hfound hreply
  · cases h
    exact ⟨StackTables.KeepsTerms.refl s, fun hend => absurd hend afterCheapestNode_ne_ok⟩
  · next taskSmallId left pick fails =>
    cases h
    obtain ⟨hkeeps, hfound⟩ := @ofUser_replied s metadata.userId pick
      (Stack.forTask taskSmallId metadata.totalTokens metadata.userId) metadata.totalTokens fails
      Stack.userId_of_forTask
    refine ⟨hkeeps, fun hend => ?_⟩
    obtain ⟨id, row, hreply, rfl⟩ := afterStacksForTask_ok hend
    exact hfound hreply
  · cases h
    exact ⟨StackTables.KeepsTerms.refl s, fun hend => absurd (inAcquire_ok hend) (Purchase.afterDeduct_ne_ended _)⟩
  · cases h
    exact ⟨StackTables.KeepsTerms.refl s, fun hend => absurd (inAcquire_ok hend) (Purchase.afterEntry_ne_ended _)⟩
  · next offer event fails =>
    cases h
    cases fails with
    | true =>
      exact ⟨StackTables.KeepsTerms.refl s,
        fun hend => absurd (inAcquire_ok hend) (Purchase.afterNewStackAcquired_ne_ended _)⟩
    | false =>
      rw [if_neg Bool.false_ne_true]
      cases hins : handleStackCreatedEvent s event (metadata.purchase offer).totalTokens.toInt64
        (metadata.purchase offer).userId with
      | error e =>
        exact ⟨StackTables.KeepsTerms.refl s,
          fun hend => absurd (inAcquire_ok hend) (Purchase.afterNewStackAcquired_ne_ended _)⟩
      | ok s₁ =>
        obtain ⟨hnone, _, hrows⟩ := handleStackCreatedEvent_ok hins
        refine ⟨StackTables.KeepsTerms.insert hnone hrows, fun hend => ?_⟩
        cases inAcquire_ok hend
        let row := { event.toStack metadata.userId with
          lockedComputeUnits := (metadata.purchase offer).totalTokens.toInt64 }
        have hrow : s₁.rows event.stackSmallId.toInt64 = .some row := by
          rw [hrows, Function.update_self]
          rfl
        exact ⟨event.stackSmallId.toInt64, row, rfl, hrow, rfl, rfl⟩
  · cases h
    exact ⟨StackTables.KeepsTerms.refl s, fun hend => absurd (inAcquire_ok hend) (by rintro ⟨⟩)⟩
  · cases h

end Search

/-! ## Runs -/

/-- The invariant: a request that found its stack found one of its user. -/
def RetryState.Owned (s : RetryState) : Prop :=
  ∀ r ∈ s.requests, ∀ node, r.phase = .found node → node.OfUser s.tables r.metadata.userId

namespace RetryState

variable {calls : ServerCalls} {s s' : RetryState}

/-- The tables change, and some requests have ended. -/
theorem Owned.keep (h : s.Owned) {tables : StackTables} (hk : s.tables.KeepsTerms tables)
    {requests : List RetriedRequest} (hsub : requests ⊆ s.requests) (pending : Multiset StateManagerEvent) :
    Owned ⟨tables, requests, pending⟩ :=
  fun r hr node hfound => (h r (hsub hr) node hfound).keep hk

theorem Owned.goOn (h : s.Owned) {i : Nat} {r : RetriedRequest} {continued : SearchContinued}
    (hc : ∀ {node}, continued = .ended (.ok node) → node.OfUser s.tables r.metadata.userId) :
    (s.goOn i r continued).Owned := by
  rcases continued with phase | e | node
  · intro r' hr' node' hfound
    rcases List.mem_or_eq_of_mem_set hr' with hr' | rfl
    · exact h r' hr' node' hfound
    · cases hfound
  · exact h.keep (StackTables.KeepsTerms.refl _) List.eraseIdx_subset _
  · intro r' hr' node' hfound
    rcases List.mem_or_eq_of_mem_set hr' with hr' | rfl
    · exact h r' hr' node' hfound
    · cases hfound
      exact hc rfl

theorem Owned.step (h : s.Owned) {ev : RetryEvent} (hstep : (retryMachine calls).step s ev = .some s') :
    s'.Owned := by
  cases ev with
  | tooEarly p headers body endpoint firstNode =>
    obtain ⟨metadata, -, -, rfl⟩ := step_tooEarly hstep
    intro r hr node hfound
    rcases List.mem_append.1 hr with hr | hr
    · exact h r hr node hfound
    · cases List.mem_singleton.1 hr
      cases hfound
  | answered i answer =>
    obtain ⟨r, phase, tables, continued, -, -, hhandled, rfl⟩ := step_answered hstep
    obtain ⟨hkeeps, hfound⟩ := ofUser_handled hhandled
    exact (h.keep hkeeps (List.Subset.refl _) s.pending).goOn hfound
  | served i answers =>
    obtain ⟨r, node, -, -, rfl⟩ := step_served hstep
    exact h.keep (StackTables.KeepsTerms.refl _) List.eraseIdx_subset _
  | applied e =>
    obtain ⟨-, rfl⟩ := step_applied hstep
    exact h.keep (s.tables.keepsTerms_apply e) (List.Subset.refl _) _
  | other ev =>
    cases hstep
    exact h.keep (s.tables.keepsTerms_step ev) (List.Subset.refl _) _

end RetryState

/-- What a handler sends settles the stack of its metadata. -/
theorem paidBy_of_handlerEvent {s : StackTables} {userId id : Int64} {metadata : RequestMetadataExtension}
    (hstack : metadata.selectedStackSmallId = .some id) (hid : s.OwnedBy id userId) {e : StateManagerEvent}
    (h : metadata.HandlerEvent e) : e.PaidBy s userId := by
  cases e with
  | updateStackNumTokens id' estimated total =>
    cases hstack.symm.trans h
    exact hid
  | updateStackNumTokensFiat settlement => cases hstack.symm.trans h.1
  | updateNodeThroughputPerformance => trivial
  | lockUserFiatBalance | lockStack => exact h

/-- However a request that is sent again ends, it settles the stack it was sent on. -/
theorem paidBy_retryOnStack {calls : ServerCalls} {s : StackTables} {answers : RequestAnswers} {headers : Headers}
    {body : Value} {metadata : RequestMetadataExtension} {node : SelectedNodeMetadata}
    (h : node.OfUser s metadata.userId) : (retryOnStack calls { answers with retryStack := .ok node } headers body
      metadata).Sends (StateManagerEvent.PaidBy s metadata.userId) := by
  obtain ⟨id, row, hid, hrow, huser, -⟩ := h
  have hown : s.OwnedBy id metadata.userId := ⟨row, hrow, huser⟩
  unfold retryOnStack
  rw [Eff.ofExcept_ok_bind, hid]
  dsimp only
  split
  · next retried hretried =>
    obtain ⟨hstack, -⟩ := tryValidateStackForRequest_ok hretried
    exact (sends_regularHandler calls headers body).mono fun e he => paidBy_of_handlerEvent hstack hown he
  · exact Eff.Sends.bind (Eff.sends_send hown) fun _ _ => Eff.sends_of_nil rfl

/-- **Main result.** In every run, a request that found its stack goes to the node of a stack of its own user; and
whatever that node answers, it settles stacks of its user only, and no balance. -/
theorem retries_pay_with_own_stacks {calls : ServerCalls} {c : Catalog} {evs : List RetryEvent} {s : RetryState}
    (hrun : (retryMachine calls).run (.empty c) evs = .some s) {r : RetriedRequest} (hr : r ∈ s.requests)
    {node : SelectedNodeMetadata} (hfound : r.phase = .found node) :
    node.OfUser s.tables r.metadata.userId ∧ ∀ answers : RequestAnswers,
      ∀ e ∈ (retryOnStack calls { answers with retryStack := .ok node } r.headers r.body r.metadata).sent,
        e.PaidBy s.tables r.metadata.userId := by
  have howned : s.Owned := Machine.run_invariant (C := fun _ _ => True)
    (fun h _ hstep => h.step hstep) (fun _ hr => absurd hr List.not_mem_nil)
    (Machine.guarded_of_forall (fun _ _ => trivial) _ _) hrun
  exact ⟨howned r hr node hfound, fun _ => paidBy_retryOnStack (howned r hr node hfound)⟩

/-- User 1's first request, with the stack 1 of node 7. -/
theorem retries_pay_with_own_stacks_example : ∃ s r,
    (retryMachine serverCallsExample).run (.empty catalogExample) (retryExampleRun.take 3) = .some s ∧
      r ∈ s.requests ∧ r.metadata.userId = 1 ∧ SelectedNodeMetadata.OfUser s.tables 1 ⟨.some 1, 7, 10, 10⟩ ∧
        ∀ e ∈ (retryOnStack serverCallsExample { requestAnswersExample with retryStack := .ok ⟨.some 1, 7, 10, 10⟩ }
          r.headers r.body r.metadata).sent, e.PaidBy s.tables 1 := by
  have hend : ((retryMachine serverCallsExample).run (.empty catalogExample) (retryExampleRun.take 3)).map
      (fun s => s.requests.map fun r => (r.phase, r.metadata.userId)) =
        .some [(.found ⟨.some 1, 7, 10, 10⟩, 1)] := by decide
  obtain ⟨s, hrun, hs⟩ := Option.map_eq_some_iff.1 hend
  obtain ⟨r, hr, hphase⟩ := List.mem_map.1 (hs ▸ List.mem_singleton.2 rfl)
  obtain ⟨hfound, huser⟩ := Prod.mk.inj hphase
  obtain ⟨hnode, hpaid⟩ := retries_pay_with_own_stacks hrun hr hfound
  rw [huser] at hnode hpaid
  exact ⟨s, r, hrun, hr, huser, hnode, hpaid requestAnswersExample⟩

end AtomaProxy
