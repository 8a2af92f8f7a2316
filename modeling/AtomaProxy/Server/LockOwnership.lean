/-
Whose lock a confidential request takes.

A lock is created on a stack of the user who asked for it, and a stack's user
never changes; so all locks of one stack were created by one user. The
middleware that takes a request in does not look at that user: the request
names the stack, and takes any lock of it that has the units and the time.
-/
import AtomaProxy.Server.ConfidentialLocks
import AtomaProxy.Server.LockStackTarget
import AtomaProxy.State.SettlementRelease

namespace AtomaProxy

open Base

/-- The stack is the user's. -/
def StackTables.OwnedBy (s : StackTables) (id userId : Int64) : Prop := ∃ row, s.rows id = .some row ∧ row.userId = userId

/-- No stack is removed, or changes its user. -/
def StackTables.KeepsOwners (s s' : StackTables) : Prop := ∀ {id userId}, s.OwnedBy id userId → s'.OwnedBy id userId

/-- What a stack was bought as: its user, its node, its task and its price. -/
def Stack.terms (row : Stack) : Int64 × Int64 × Int64 × Int64 :=
  (row.userId, row.selectedNodeId, row.taskSmallId, row.pricePerOneMillionComputeUnits)

/-- No stack is removed, or changes what it was bought as. -/
def StackTables.KeepsTerms (s s' : StackTables) : Prop :=
  ∀ {id row}, s.rows id = .some row → ∃ row', s'.rows id = .some row' ∧ row'.terms = row.terms

namespace StackTables

variable {s s' : StackTables}

theorem OwnedBy.unique {id u u' : Int64} (h : s.OwnedBy id u) (h' : s.OwnedBy id u') : u = u' := by
  obtain ⟨row, hrow, hu⟩ := h
  obtain ⟨row', hrow', hu'⟩ := h'
  rw [hrow] at hrow'
  cases hrow'
  exact hu.symm.trans hu'

theorem KeepsOwners.refl (s : StackTables) : s.KeepsOwners s := fun h => h

theorem KeepsTerms.keepsOwners (h : s.KeepsTerms s') : s.KeepsOwners s' := by
  intro id u hu
  obtain ⟨row, hrow, rfl⟩ := hu
  obtain ⟨row', hrow', hterms⟩ := h hrow
  exact ⟨row', hrow', congrArg Prod.fst hterms⟩

theorem KeepsTerms.refl (s : StackTables) : s.KeepsTerms s := fun {_ row} h => ⟨row, h, rfl⟩

theorem KeepsTerms.of_rows (h : s'.rows = s.rows) : s.KeepsTerms s' := by
  intro id row hrow
  exact ⟨row, h ▸ hrow, rfl⟩

/-- A row is written with the terms it has. -/
theorem KeepsTerms.update {id : Int64} {row row' : Stack} (hrow : s.rows id = .some row)
    (hterms : row'.terms = row.terms) (h : s'.rows = Function.update s.rows id (.some row')) : s.KeepsTerms s' := by
  intro k rowk hk
  rw [h]
  by_cases hid : k = id
  · subst hid
    rw [hrow] at hk
    cases hk
    exact ⟨row', Function.update_self _ _ _, hterms⟩
  · rw [Function.update_of_ne hid]
    exact ⟨rowk, hk, rfl⟩

/-- A row is inserted where there is none. -/
theorem KeepsTerms.insert {id : Int64} {row : Stack} (hnone : s.rows id = .none)
    (h : s'.rows = Function.update s.rows id (.some row)) : s.KeepsTerms s' := by
  intro k rowk hk
  rw [h]
  by_cases hid : k = id
  · subst hid
    rw [hnone] at hk
    cases hk
  · rw [Function.update_of_ne hid]
    exact ⟨rowk, hk, rfl⟩

theorem terms_addLocked {units : Int64} {row row' : Stack} (h : row.addLocked units = .ok row') :
    row'.terms = row.terms := by
  obtain ⟨locked, _, rfl, _⟩ := Stack.of_addLocked h
  rfl

theorem keepsTerms_addLocked {id units : Int64} {row row' : Stack} (hrow : s.rows id = .some row)
    (hadd : row.addLocked units = .ok row') (h : s'.rows = Function.update s.rows id (.some row')) :
    s.KeepsTerms s' :=
  KeepsTerms.update hrow (terms_addLocked hadd) h

theorem keepsTerms_settle {id estimate total : Int64} (h : updateStackNumTokens s id estimate total = .ok s') :
    s.KeepsTerms s' := by
  obtain ⟨row, row', hrow, hsettle, rfl⟩ := updateStackNumTokens_ok.1 h
  simp only [Stack.settle, ok_bind_iff, Except.ok.injEq, Option.some.injEq] at hsettle
  obtain ⟨computed, _, locked, _, messages, _, row₁, hcheck, rfl⟩ := hsettle
  obtain ⟨rfl, _⟩ := Stack.of_check hcheck
  refine KeepsTerms.update hrow ?_ rfl
  rfl

theorem keepsTerms_flags (s : StackTables) (id : Int64) (claim : Bool) :
    s.KeepsTerms { s with rows := s.rows.after id (Stack.setFlags claim) } := by
  intro k row hrow
  refine ⟨if k = id then Table.rowAfter (Stack.setFlags claim) row else row, ?_, ?_⟩
  · dsimp only
    rw [Table.after_apply]
    by_cases hid : k = id
    · rw [if_pos hid, if_pos hid, ← hid, hrow]
      rfl
    · rw [if_neg hid, if_neg hid, hrow]
  · split
    · obtain ⟨_, _, hflags⟩ := row.rowAfter_setFlags claim
      rw [hflags]
      rfl
    · rfl

theorem keepsTerms_step (s : StackTables) (ev : StackEvent) : s.KeepsTerms (s.step ev) := by
  unfold step
  cases ev with
  | reserve request units =>
    simp only [stackStep]
    split
    · next hres =>
      obtain ⟨row, hrow, hadd, rfl⟩ := reserve_some hres
      exact keepsTerms_addLocked hrow hadd rfl
    · next hres =>
      rw [reserve_none hres]
      exact KeepsTerms.refl s
    · exact KeepsTerms.refl s
  | newStackAcquired event units userId =>
    simp only [stackStep]
    split
    · next hins =>
      obtain ⟨hnone, _, hrows⟩ := handleStackCreatedEvent_ok hins
      exact KeepsTerms.insert hnone hrows
    · exact KeepsTerms.refl s
  | updateStackNumTokens id units totalTokens =>
    simp only [stackStep]
    split
    · next hsettle => exact keepsTerms_settle hsettle
    · exact KeepsTerms.refl s
  | lockStack id => exact keepsTerms_flags s id false
  | updateStackClaimed id => exact keepsTerms_flags s id true
  | catalogChange catalog => exact KeepsTerms.of_rows rfl

theorem keepsTerms_apply (s : StackTables) (e : StateManagerEvent) : s.KeepsTerms (s.apply e) := by
  cases e with
  | updateStackNumTokens id estimated total =>
    simp only [apply]
    split
    · next hsettle => exact keepsTerms_settle hsettle
    · exact KeepsTerms.refl s
  | lockStack id => exact keepsTerms_flags s id false
  | lockUserFiatBalance | updateStackNumTokensFiat | updateNodeThroughputPerformance => exact KeepsTerms.refl s

end StackTables

/-! ## What a call holds -/

/-- What a call waits for is a purchase of its user, or the key for a stack of its user. -/
def CreatingLock.OwnedBy (s : StackTables) (userId : Int64) : CreatingLock → Prop
  | .deductFromUsdc p | .acquireNewStack p _ => p = NodesCreateLockRequest.purchase userId p.node
  | .selectNodePublicKeyForEncryptionForNode node => ∀ id, node.stackSmallId = .some id → s.OwnedBy id userId
  | _ => True

def LockPhase.OwnedBy (s : StackTables) (userId : Int64) : LockPhase → Prop
  | .waits phase => phase.OwnedBy s userId
  | .locks id => s.OwnedBy id userId

/-- So does what it goes on with. -/
def CreateLockContinued.OwnedBy (s : StackTables) (userId : Int64) : CreateLockContinued → Prop
  | .waits phase => phase.OwnedBy s userId
  | .locks id _ => s.OwnedBy id userId
  | .ended _ => True

theorem LockPhase.OwnedBy.keep {s s' : StackTables} (hk : s.KeepsOwners s') {userId : Int64} {phase : LockPhase}
    (h : phase.OwnedBy s userId) : phase.OwnedBy s' userId := by
  cases phase with
  | locks id => exact hk h
  | waits phase =>
    cases phase with
    | selectNodePublicKeyForEncryptionForNode node => exact fun id hid => hk (h id hid)
    | selectNodePublicKeyForEncryption | getCheapestNodeForModel => trivial
    | deductFromUsdc p => exact h
    | acquireNewStack p phase => exact h

/-- Inside of `acquire_new_stack` the user stays, until a stack is stored for it. -/
theorem owned_afterAcquire {s : StackTables} {userId : Int64} {p : Purchase} {c : Continued}
    (hp : p = NodesCreateLockRequest.purchase userId p.node)
    (hc : ∀ node, c = .ended (.ok node) → ∀ id, node.stackSmallId = .some id → s.OwnedBy id userId) :
    (NodesCreateLockRequest.afterAcquire p c).OwnedBy s userId := by
  cases c with
  | waits phase => exact hp
  | ended result =>
    cases result with
    | ok node => exact hc node rfl
    | error e => trivial

/-- **An answer keeps the stacks' users**, and leads to stacks of the call's user. -/
theorem LockAnswer.handled_owned {s : StackTables} {call : LockCall} {answer : LockAnswer}
    (h : answer.waitedFor.OwnedBy s call.userId) :
    s.KeepsOwners (answer.handled s call).1 ∧ (answer.handled s call).2.OwnedBy (answer.handled s call).1 call.userId := by
  cases answer with
  | selectNodePublicKeyForEncryption pick pickKey =>
    simp only [handled]
    split
    · next key s' hsel =>
      cases key with
      | none =>
        rw [selectKeyAndStack_none hsel]
        exact ⟨StackTables.KeepsOwners.refl s, trivial⟩
      | some key =>
        obtain ⟨id, row, row', hid, hrow, huser, hadd, rfl⟩ := selectKeyAndStack_some hsel
        have hk : s.KeepsOwners { s with rows := Function.update s.rows id (.some row') } :=
          StackTables.KeepsTerms.keepsOwners (StackTables.keepsTerms_addLocked hrow hadd rfl)
        refine ⟨hk, ?_⟩
        unfold NodesCreateLockRequest.afterSelect
        dsimp only
        rw [hid]
        exact hk ⟨row, hrow, huser⟩
    · exact ⟨StackTables.KeepsOwners.refl s, trivial⟩
  | getCheapestNodeForModel reply lockIsFree =>
    refine ⟨StackTables.KeepsOwners.refl s, ?_⟩
    simp only [handled, NodesCreateLockRequest.afterCheapestNode]
    split
    · trivial
    · trivial
    · split
      · exact rfl
      · trivial
  | deductFromUsdc p reply =>
    exact ⟨StackTables.KeepsOwners.refl s,
      owned_afterAcquire h fun node hnode => absurd hnode (Purchase.afterDeduct_ne_ended node)⟩
  | acquireNewStackEntry p answers =>
    exact ⟨StackTables.KeepsOwners.refl s,
      owned_afterAcquire h fun node hnode => absurd hnode (Purchase.afterEntry_ne_ended node)⟩
  | newStackAcquired p event fails =>
    simp only [handled]
    split
    · next s' hins =>
      split at hins
      · cases hins
      · obtain ⟨hnone, _, hrows⟩ := handleStackCreatedEvent_ok hins
        dsimp only
        refine ⟨StackTables.KeepsTerms.keepsOwners (StackTables.KeepsTerms.insert hnone hrows),
          owned_afterAcquire h fun node hnode id hid => ?_⟩
        cases hnode
        cases hid
        exact ⟨{ event.toStack p.userId with lockedComputeUnits := p.totalTokens.toInt64 },
          by rw [hrows, Function.update_self], congrArg Purchase.userId h⟩
    · next e hins =>
      dsimp only
      exact ⟨StackTables.KeepsOwners.refl s,
        owned_afterAcquire h fun node hnode => absurd hnode (Purchase.afterNewStackAcquired_ne_ended node)⟩
  | refundUsdc p error =>
    simp only [handled]
    exact ⟨StackTables.KeepsOwners.refl s,
      owned_afterAcquire h fun node hnode => absurd hnode (Purchase.afterRefund_ne_ended node)⟩
  | selectNodePublicKeyForEncryptionForNode node pick fails =>
    refine ⟨StackTables.KeepsOwners.refl s, ?_⟩
    simp only [handled, NodesCreateLockRequest.afterSelectForNode]
    split
    · trivial
    · trivial
    · split
      · next id hid => exact h id hid
      · trivial

/-! ## Runs -/

/-- The invariant: a lock was created on a stack of its user, a call holds stacks of its user only, and a lock that
was taken was created before, had the units and the time. -/
structure ConfidentialState.Owned (s : ConfidentialState) : Prop where
  created : ∀ {u id lock}, .created u id lock ∈ s.history → s.tables.OwnedBy id u
  kept : ∀ {id lock}, lock ∈ (s.locks id).items → ∃ u, .created u id lock ∈ s.history
  tasks : ∀ {t}, t ∈ s.tasks → t.phase.OwnedBy s.tables t.call.userId
  taken : ∀ {later metadata now lock earlier}, s.history = later ++ .taken metadata now lock :: earlier →
    ∃ id u, metadata.selectedStackSmallId = .some id ∧ .created u id lock ∈ earlier ∧ now ≤ lock.expiresAt ∧
      metadata.maxOutputTokens.toInt64 ≤ lock.maxNumTokens

namespace ConfidentialState.Owned

variable {s : ConfidentialState}

theorem empty (c : Catalog) : (ConfidentialState.empty c).Owned where
  created := (nomatch ·)
  kept := (nomatch ·)
  tasks := fun h => absurd h (Multiset.notMem_zero _)
  taken := fun {later _ _ _ _} h => by cases later <;> cases h

/-- The tables change, and some calls have ended. -/
theorem keep (h : s.Owned) {tables : StackTables} (hk : s.tables.KeepsOwners tables) {tasks : Multiset LockTask}
    (htasks : ∀ t ∈ tasks, t.phase.OwnedBy tables t.call.userId) :
    ConfidentialState.Owned { s with tables, tasks } where
  created := fun hr => hk (h.created hr)
  kept := h.kept
  tasks := fun ht => htasks _ ht
  taken := h.taken

/-- What is left in the queues was there. -/
theorem prune (h : s.Owned) {locks : Locks} (hlocks : ∀ {id lock}, lock ∈ (locks id).items → lock ∈ (s.locks id).items)
    (pending : Multiset StateManagerEvent) : ConfidentialState.Owned { s with locks, pending } where
  created := h.created
  kept := fun hl => h.kept (hlocks hl)
  tasks := h.tasks
  taken := h.taken

theorem leave (h : s.Owned) (t : LockTask) : (s.leave t).Owned :=
  h.keep (StackTables.KeepsOwners.refl _) fun _ ht => h.tasks (Multiset.mem_of_mem_erase ht)

theorem goOn (h : s.Owned) {call : LockCall} {c : CreateLockContinued} (hc : c.OwnedBy s.tables call.userId) :
    (s.goOn call c).Owned := by
  cases c with
  | ended error => exact h
  | waits phase | locks id response =>
    refine h.keep (StackTables.KeepsOwners.refl _) fun t ht => ?_
    rcases Multiset.mem_cons.1 ht with rfl | ht
    · exact hc
    · exact h.tasks ht

/-- A lock is created on a stack of its user. -/
theorem lockInMemory (h : s.Owned) {call : LockCall} {id : Int64} (hid : s.tables.OwnedBy id call.userId)
    (now : Instant) : (s.lockInMemory call id now).Owned := by
  unfold ConfidentialState.lockInMemory lockComputeUnitsInMemory
  cases hnew : newLock call.request.lockTimeout call.request.units now with
  | none => exact h
  | some lock =>
    refine ⟨fun hr => ?_, fun {k lock'} hl => ?_, h.tasks, fun {later _ _ _ _} hr => ?_⟩
    · rcases List.mem_cons.1 hr with heq | hr
      · cases heq
        exact hid
      · exact h.created hr
    · dsimp only [Option.map, Option.getD] at hl
      by_cases hk : k = id
      · subst hk
        rw [Function.update_self] at hl
        rcases PriorityQueue.mem_push.1 hl with rfl | hl
        · exact ⟨_, List.mem_cons_self⟩
        · obtain ⟨u, hu⟩ := h.kept hl
          exact ⟨u, List.mem_cons_of_mem _ hu⟩
      · rw [Function.update_of_ne hk] at hl
        obtain ⟨u, hu⟩ := h.kept hl
        exact ⟨u, List.mem_cons_of_mem _ hu⟩
    · cases later with
      | nil => cases hr
      | cons r later => exact h.taken (List.cons.inj hr).2

/-- A request is taken in by a lock that was kept. -/
theorem takeIn {calls : ConfidentialCalls} (h : s.Owned) (answers : ConfidentialAnswers) (headers : Headers)
    (body : Value) (endpoint : String) (now : Instant) (pick : Nat) :
    (s.takeIn headers body now
      (confidentialComputeMiddleware calls answers headers body endpoint s.locks now pick)).Owned := by
  have hpruned := h.prune (fun {id lock} => @mem_of_takenIn calls answers headers body endpoint s.locks now pick id lock)
    (s.pending + ↑(confidentialComputeMiddleware calls answers headers body endpoint s.locks now pick).sent)
  unfold ConfidentialState.takeIn
  split
  · next metadata lock hresult =>
    obtain ⟨request, hprepared, hremoved⟩ := confidentialComputeMiddleware_ok hresult
    obtain ⟨_, _, _, hstack, hunits, _, _⟩ := prepareConfidentialRequest_ok hprepared
    obtain ⟨hmem, htime, hle⟩ := of_findStacks hremoved
    refine ⟨fun hr => ?_, fun hl => ?_, hpruned.tasks, fun {later _ _ _ _} hr => ?_⟩
    · rcases List.mem_cons.1 hr with heq | hr
      · cases heq
      · exact h.created hr
    · obtain ⟨u, hu⟩ := hpruned.kept hl
      exact ⟨u, List.mem_cons_of_mem _ hu⟩
    · cases later with
      | nil =>
        cases hr
        obtain ⟨u, hu⟩ := h.kept hmem
        refine ⟨_, u, hstack, hu, le_of_not_gt (of_decide_eq_false htime), ?_⟩
        rw [hunits, Int64.toInt64_toUInt64]
        exact hle
      | cons r later => exact h.taken (List.cons.inj hr).2
  · exact hpruned

/-- **One step keeps it.** -/
theorem step {calls : ConfidentialCalls} {s' : ConfidentialState} {ev : ConfidentialEvent} (h : s.Owned)
    (hstep : (confidentialMachine calls).step s ev = .some s') : s'.Owned := by
  change confidentialStep calls s ev = .some s' at hstep
  cases ev with
  | createLock call =>
    cases hstep
    refine h.keep (StackTables.KeepsOwners.refl _) fun t ht => ?_
    rcases Multiset.mem_cons.1 ht with rfl | ht
    · trivial
    · exact h.tasks ht
  | answered call answer =>
    obtain ⟨ht, rfl⟩ := step_answered.1 hstep
    obtain ⟨hk, howned⟩ := @LockAnswer.handled_owned s.tables call answer (h.tasks ht)
    exact ((h.keep hk fun t ht => (h.tasks ht).keep hk).leave _).goOn howned
  | locked call id now =>
    obtain ⟨ht, rfl⟩ := step_locked.1 hstep
    exact (h.leave _).lockInMemory (h.tasks ht) now
  | pruned id now =>
    cases hstep
    exact h.prune mem_of_pruned _
  | requested answers headers body endpoint now pick =>
    cases hstep
    exact h.takeIn answers headers body endpoint now pick
  | served i answer =>
    obtain ⟨_, _, rfl⟩ := step_served.1 hstep
    exact ⟨h.created, h.kept, h.tasks, h.taken⟩
  | applied e =>
    obtain ⟨_, rfl⟩ := step_applied.1 hstep
    have hk : s.tables.KeepsOwners (s.tables.apply e) :=
      StackTables.KeepsTerms.keepsOwners (s.tables.keepsTerms_apply e)
    have hkept := h.keep hk fun t ht => (h.tasks ht).keep hk
    exact ⟨hkept.created, hkept.kept, hkept.tasks, hkept.taken⟩
  | other ev =>
    cases hstep
    have hk : s.tables.KeepsOwners (s.tables.step ev) :=
      StackTables.KeepsTerms.keepsOwners (s.tables.keepsTerms_step ev)
    exact h.keep hk fun t ht => (h.tasks ht).keep hk

end ConfidentialState.Owned

/-! ## Whose lock is taken -/

/-- The request took a lock that its user created on the stack it names, and that no other user did; the lock covers
the units that were asked for, and has not expired. -/
structure TakesOwnLock (metadata : RequestMetadataExtension) (now : Instant) (lock : LockedDetails)
    (earlier : List LockRecord) : Prop where
  own : ∃ id, metadata.selectedStackSmallId = .some id ∧ .created metadata.userId id lock ∈ earlier
  notOthers : ∀ id userId, metadata.selectedStackSmallId = .some id → .created userId id lock ∈ earlier →
    userId = metadata.userId
  units : (metadata.maxOutputTokens.toNat : Int) ≤ lock.maxNumTokens.toInt
  time : now ≤ lock.expiresAt

/-- Each request that was taken in took such a lock. -/
def TakenOwnLocks (history : List LockRecord) : Prop :=
  ∀ later metadata now lock earlier, history = later ++ .taken metadata now lock :: earlier →
    TakesOwnLock metadata now lock earlier

/-- A request that the locks let in names a stack of its user, and asks for units that a signed integer holds. -/
def ConfidentialEvent.NamesOwnStack (calls : ConfidentialCalls) (s : ConfidentialState) : ConfidentialEvent → Prop
  | .requested answers headers body endpoint now _ => ∀ request metadata,
    prepareConfidentialRequest calls answers headers body endpoint = .ok (request, metadata) →
    (∃ lock ∈ (s.locks request.stackSmallId.toInt64).items,
      lock.expired now = false ∧ request.computeUnits endpoint ≤ lock.maxNumTokens) →
    s.tables.OwnedBy request.stackSmallId.toInt64 metadata.userId ∧ metadata.maxOutputTokens.toNat < 2 ^ 63
  | _ => True

theorem takenOwnLocks_created {history : List LockRecord} {userId id : Int64} {lock : LockedDetails} :
    TakenOwnLocks (.created userId id lock :: history) ↔ TakenOwnLocks history := by
  constructor
  · intro h later metadata now lock' earlier heq
    exact h (_ :: later) metadata now lock' earlier (by rw [heq]; rfl)
  · intro h later metadata now lock' earlier heq
    cases later with
    | nil => cases heq
    | cons r later => exact h later metadata now lock' earlier (List.cons.inj heq).2

theorem takenOwnLocks_taken {history : List LockRecord} {metadata : RequestMetadataExtension} {now : Instant}
    {lock : LockedDetails} :
    TakenOwnLocks (.taken metadata now lock :: history) ↔
      TakenOwnLocks history ∧ TakesOwnLock metadata now lock history := by
  constructor
  · intro h
    exact ⟨fun later metadata' now' lock' earlier heq => h (_ :: later) metadata' now' lock' earlier (by rw [heq]; rfl),
      h [] metadata now lock history rfl⟩
  · rintro ⟨h, hown⟩ later metadata' now' lock' earlier heq
    cases later with
    | nil =>
      cases heq
      exact hown
    | cons r later => exact h later metadata' now' lock' earlier (List.cons.inj heq).2

/-- Units that a signed integer holds are covered as they are compared. -/
theorem covers_iff {units : UInt64} {lock : Int64} (hle : units.toInt64 ≤ lock) :
    (units.toNat : Int) ≤ lock.toInt ↔ units.toNat < 2 ^ 63 := by
  have hlock := lock.toInt_lt
  constructor
  · intro h
    omega
  · intro hfits
    rw [← toInt_toInt64 hfits]
    exact Int64.le_iff_toInt_le.1 hle

/-- **A taken lock is the user's if the stack is.** -/
theorem ConfidentialState.Owned.takesOwnLock_iff {s : ConfidentialState} (h : s.Owned)
    {metadata : RequestMetadataExtension} {id : Int64} {now : Instant} {lock : LockedDetails}
    (hstack : metadata.selectedStackSmallId = .some id) (hmem : lock ∈ (s.locks id).items)
    (htime : lock.expired now = false) (hunits : metadata.maxOutputTokens.toInt64 ≤ lock.maxNumTokens) :
    TakesOwnLock metadata now lock s.history ↔
      s.tables.OwnedBy id metadata.userId ∧ metadata.maxOutputTokens.toNat < 2 ^ 63 := by
  rw [← covers_iff hunits]
  constructor
  · rintro ⟨⟨id', hid', hcreated⟩, _, hcovers, _⟩
    rw [hstack] at hid'
    cases hid'
    exact ⟨h.created hcreated, hcovers⟩
  · rintro ⟨howned, hcovers⟩
    obtain ⟨u, hu⟩ := h.kept hmem
    refine ⟨⟨id, hstack, ?_⟩, fun id' u' hid' hu' => ?_, hcovers, le_of_not_gt (of_decide_eq_false htime)⟩
    · rwa [howned.unique (h.created hu)]
    · rw [hstack] at hid'
      cases hid'
      exact (h.created hu').unique howned

/-- **One step keeps the locks to their users exactly if its request names a stack of its user.** -/
theorem takenOwnLocks_step {calls : ConfidentialCalls} {s s' : ConfidentialState} {ev : ConfidentialEvent}
    (h : s.Owned) (hstep : (confidentialMachine calls).step s ev = .some s') :
    TakenOwnLocks s'.history ↔ TakenOwnLocks s.history ∧ ev.NamesOwnStack calls s := by
  change confidentialStep calls s ev = .some s' at hstep
  cases ev with
  | requested answers headers body endpoint now pick =>
    cases hstep
    unfold ConfidentialState.takeIn ConfidentialEvent.NamesOwnStack
    split
    · next metadata lock hresult =>
      obtain ⟨request, hprepared, hremoved⟩ := confidentialComputeMiddleware_ok hresult
      obtain ⟨_, _, _, hstack, hunits, _, _⟩ := prepareConfidentialRequest_ok hprepared
      obtain ⟨hmem, htime, hle⟩ := of_findStacks hremoved
      have hown := h.takesOwnLock_iff hstack hmem htime (by rw [hunits, Int64.toInt64_toUInt64]; exact hle)
      dsimp only
      rw [takenOwnLocks_taken, hown]
      refine and_congr_right fun _ => ⟨fun howned request' metadata' hprepared' _ => ?_, fun hguard => ?_⟩
      · rw [hprepared] at hprepared'
        cases hprepared'
        exact howned
      · exact hguard request metadata hprepared ⟨lock, hmem, htime, hle⟩
    · next e hresult =>
      refine (and_iff_left fun request metadata hprepared hlock => ?_).symm
      -- a lock that would let the request in would have
      obtain ⟨lock, hmem, htime, hle⟩ := hlock
      have hsome := @findStacks_isSome s.locks request.stackSmallId.toInt64 now _ pick lock hmem htime hle
      unfold confidentialComputeMiddleware at hresult
      rw [hprepared] at hresult
      dsimp only at hresult
      split at hresult
      · cases hresult
      · next hnone =>
        rw [hnone] at hsome
        cases hsome
  | locked call id now =>
    obtain ⟨_, rfl⟩ := step_locked.1 hstep
    unfold ConfidentialState.lockInMemory ConfidentialEvent.NamesOwnStack
    dsimp only
    rw [and_true]
    cases newLock call.request.lockTimeout call.request.units now with
    | none => rfl
    | some lock => exact takenOwnLocks_created
  | answered call answer =>
    obtain ⟨_, rfl⟩ := step_answered.1 hstep
    rw [ConfidentialState.goOn_history]
    exact (iff_of_eq (and_true _)).symm
  | served i answer =>
    obtain ⟨_, _, rfl⟩ := step_served.1 hstep
    exact (iff_of_eq (and_true _)).symm
  | applied e =>
    obtain ⟨_, rfl⟩ := step_applied.1 hstep
    exact (iff_of_eq (and_true _)).symm
  | createLock | pruned | other =>
    cases hstep
    exact (iff_of_eq (and_true _)).symm

/-- **In any order of everybody's calls and requests**, confidential requests take locks of their users exactly if each
of them names a stack of its user. -/
theorem takes_own_locks_iff {calls : ConfidentialCalls} {c : Catalog} {evs : List ConfidentialEvent}
    {s : ConfidentialState} (hrun : (confidentialMachine calls).run (.empty c) evs = .some s) :
    TakenOwnLocks s.history ↔
      (confidentialMachine calls).Guarded (fun s ev => ev.NamesOwnStack calls s) (.empty c) evs := by
  have hempty : TakenOwnLocks (ConfidentialState.empty c).history := by
    intro later metadata now lock earlier heq
    cases later <;> cases heq
  have hguarded := @Machine.run_iff_guarded _ _ (confidentialMachine calls) ConfidentialState.Owned
    (fun s => TakenOwnLocks s.history) (fun s ev => ev.NamesOwnStack calls s) (fun hi hstep => hi.step hstep)
    (fun hi hstep => takenOwnLocks_step hi hstep) evs _ _ (ConfidentialState.Owned.empty c) hrun
  exact hguarded.trans (and_iff_right hempty)

/-- A request for 100 units of stack 1. -/
def confidentialBodyExample : Value := .object [("ciphertext", .string "dGV4dA=="),
  ("stack_small_id", .number (.posInt 1)), ("nonce", .string "bm9uY2U="), ("salt", .string "c2FsdA=="),
  ("client_dh_public_key", .string "a2V5"), ("node_dh_public_key", .string "a2V5"),
  ("plaintext_body_hash", .string "aGFzaA=="), ("model_name", .string "model"),
  ("num_compute_units", .number (.posInt 100))]

/-- User 9 buys stack 1 and locks 300 units of it, and a user asks for 100 of them within a microsecond. -/
def lockExampleRun (userId : Int64) : List ConfidentialEvent :=
  let call : LockCall := ⟨9, ⟨"model", .some 300, .none⟩⟩
  [.other (.newStackAcquired stackCreatedExample 200 9),
    .createLock call,
    .answered call (.selectNodePublicKeyForEncryption (.some 1) 0),
    .locked call 1 0,
    .requested ⟨.ok userId, .ok (.some "http://node", 7)⟩ headersExample confidentialBodyExample
      confidentialChatCompletionsPath 1000 0]

def lockExampleHistory (userId : Int64) : List LockRecord :=
  [.taken ⟨"http://node", 7, .none, 100, userId, .some 1, 0, 0, confidentialChatCompletionsPath, "model"⟩ 1000
      ⟨5000000000, 300⟩,
    .created 9 1 ⟨5000000000, 300⟩]

theorem takes_own_locks_example : ∃ s,
    (confidentialMachine confidentialCallsExample).run (.empty catalogExample) (lockExampleRun 9) = .some s ∧
      s.history = lockExampleHistory 9 ∧ TakenOwnLocks s.history := by
  have hhistory : ((confidentialMachine confidentialCallsExample).run (.empty catalogExample) (lockExampleRun 9)).map
      ConfidentialState.history = .some (lockExampleHistory 9) := by decide
  obtain ⟨s, hrun, hs⟩ := Option.map_eq_some_iff.1 hhistory
  refine ⟨s, hrun, hs, (takes_own_locks_iff hrun).2 ?_⟩
  refine (Machine.guarded_cons rfl).2 ⟨trivial, (Machine.guarded_cons rfl).2 ⟨trivial, ?_⟩⟩
  refine (Machine.guarded_cons rfl).2 ⟨trivial, (Machine.guarded_cons rfl).2 ⟨trivial, ?_⟩⟩
  refine (Machine.guarded_cons rfl).2 ⟨fun request metadata hprepared _ => ?_, trivial⟩
  cases hprepared
  refine ⟨⟨{ stackCreatedExample.toStack 9 with lockedComputeUnits := 500 }, ?_, rfl⟩, by decide⟩
  decide

/-- The same lock, and a request of user 7. -/
theorem takes_own_locks_fails : ¬ ∀ (calls : ConfidentialCalls) (c : Catalog) (evs : List ConfidentialEvent)
    (s : ConfidentialState), (confidentialMachine calls).run (.empty c) evs = .some s → TakenOwnLocks s.history := by
  intro h
  have hhistory : ((confidentialMachine confidentialCallsExample).run (.empty catalogExample) (lockExampleRun 7)).map
      ConfidentialState.history = .some (lockExampleHistory 7) := by decide
  obtain ⟨s, hrun, hs⟩ := Option.map_eq_some_iff.1 hhistory
  have hown := h _ _ _ s hrun [] _ _ _ _ hs
  have huser : (9 : Int64) = 7 := hown.notOthers 1 9 rfl (by decide)
  exact absurd huser (by decide)

end AtomaProxy
