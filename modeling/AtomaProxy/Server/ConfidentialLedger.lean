/-
The two ledgers of a stack's locked units: its row's column, and the locks in
memory with those that requests took.

Between the two are the units a call has reserved and not yet locked in memory,
and the settlements that were sent and not applied. With these counted in,
every step that moves units moves both ledgers by the same amount, where its
condition is met; the conditions are the places where the program lets units
go, or forgets them.
-/
import AtomaProxy.Server.LockOwnership
import AtomaProxy.Server.ReleasedUnits

namespace AtomaProxy

open Base

/-! ## The ledgers -/

/-- The units locked on a stack, none where it has no row. -/
def StackTables.lockedOn (s : StackTables) (stackSmallId : Int64) : Int :=
  ((s.rows stackSmallId).map fun row => row.lockedComputeUnits.toInt).getD 0

def LockedDetails.units (lock : LockedDetails) : Int := lock.maxNumTokens.toInt

/-- The units of the locks that are kept for a stack. -/
def Locks.keptOn (locks : Locks) (stackSmallId : Int64) : Int := (locks stackSmallId).total LockedDetails.units

/-- The units of the lock that a request took of a stack. -/
def TakenRequest.takenOf (stackSmallId : Int64) (r : TakenRequest) : Int :=
  if r.metadata.selectedStackSmallId = .some stackSmallId then r.lock.units else 0

/-- The units that a call has reserved on a stack and not locked in memory: what it asks for, or what a stack is
bought with. -/
def LockPhase.reservedOn (stackSmallId : Int64) (request : NodesCreateLockRequest) : LockPhase → Int
  | .locks id => if id = stackSmallId then request.units.toInt else 0
  | .waits (.selectNodePublicKeyForEncryptionForNode node) =>
    if node.stackSmallId = .some stackSmallId then maxNumTokensForConfidentialCompute.toInt else 0
  | .waits _ => 0

def LockTask.reservedOn (stackSmallId : Int64) (t : LockTask) : Int := t.phase.reservedOn stackSmallId t.call.request

namespace ConfidentialState

variable (s : ConfidentialState) (stackSmallId : Int64)

def inFlight : Int := (s.requests.map (TakenRequest.takenOf stackSmallId)).sum

def midway : Int := (s.tasks.map (LockTask.reservedOn stackSmallId)).sum

def toRelease : Int := (s.pending.map (StateManagerEvent.releases stackSmallId)).sum

end ConfidentialState

/-! ## What moves units -/

section Locks

variable {locks : Locks} {stackSmallId id : Int64} {now : Instant}

theorem Locks.keptOn_update {q : PriorityQueue LockedDetails} : Locks.keptOn (Function.update locks id q) stackSmallId =
    if stackSmallId = id then q.total LockedDetails.units else locks.keptOn stackSmallId := by
  unfold Locks.keptOn
  rw [Function.update_apply]
  split <;> rfl

/-- A prune releases what it drops. -/
theorem keptOn_pruneStack : released stackSmallId (pruneStack locks id now).1 +
    Locks.keptOn (pruneStack locks id now).2 stackSmallId = locks.keptOn stackSmallId := by
  have hreleased : released stackSmallId (pruneStack locks id now).1 = if id = stackSmallId then
      (((locks id).popWhile (LockedDetails.expired now)).1.map LockedDetails.units).sum else 0 := by
    unfold pruneStack released
    rw [List.map_map]
    by_cases hid : id = stackSmallId
    · rw [if_pos hid]
      congr 1
      refine List.map_congr_left fun lock _ => ?_
      exact if_pos hid
    · rw [if_neg hid]
      refine List.sum_eq_zero fun n hn => ?_
      obtain ⟨lock, _, rfl⟩ := List.mem_map.1 hn
      exact if_neg hid
  rw [hreleased]
  unfold pruneStack
  rw [Locks.keptOn_update]
  by_cases hid : id = stackSmallId
  · subst hid
    rw [if_pos rfl, if_pos rfl]
    exact PriorityQueue.total_popWhile _
  · rw [if_neg hid, if_neg (Ne.symm hid), Int.zero_add]

/-- A search releases what it drops, and takes the lock it finds. -/
theorem keptOn_findStacks {minUnits : Int64} {pick : Nat} :
    let found := findStacksMeetingCriteriaAndPrune locks id minUnits now pick
    released stackSmallId found.sent + found.locks.keptOn stackSmallId +
      (if id = stackSmallId then (found.removed.map LockedDetails.units).getD 0 else 0) =
        locks.keptOn stackSmallId := by
  have hpruned := @keptOn_pruneStack locks stackSmallId id now
  unfold findStacksMeetingCriteriaAndPrune
  dsimp only
  split
  · next lock left htake =>
    have htotal := PriorityQueue.total_takeFirst LockedDetails.units htake
    dsimp only
    rw [Locks.keptOn_update, Option.map_some, Option.getD_some]
    by_cases hid : id = stackSmallId
    · subst hid
      rw [if_pos rfl, if_pos rfl, ← hpruned, Locks.keptOn, ← htotal]
      omega
    · rw [if_neg (Ne.symm hid), if_neg hid, Int.add_zero]
      exact hpruned
  · dsimp only [Option.map, Option.getD]
    rw [ite_self, Int.add_zero]
    exact hpruned

end Locks

/-- What the middleware that takes a request in does to the locks. -/
theorem keptOn_takenIn {calls : ConfidentialCalls} {answers : ConfidentialAnswers} {headers : Headers} {body : Value}
    {endpoint : String} {locks : Locks} {now : Instant} {pick : Nat} {stackSmallId : Int64} :
    let takenIn := confidentialComputeMiddleware calls answers headers body endpoint locks now pick
    released stackSmallId takenIn.sent + takenIn.locks.keptOn stackSmallId +
      (match takenIn.result with
        | .ok (metadata, lock) => if metadata.selectedStackSmallId = .some stackSmallId then lock.units else 0
        | .error _ => 0) = locks.keptOn stackSmallId := by
  unfold confidentialComputeMiddleware
  cases hprepared : prepareConfidentialRequest calls answers headers body endpoint with
  | error e => exact (Int.add_zero _).trans (Int.zero_add _)
  | ok p =>
    obtain ⟨request, metadata⟩ := p
    obtain ⟨_, _, _, hstack, _, _, _, _⟩ := prepareConfidentialRequest_ok hprepared
    have hfound := @keptOn_findStacks locks stackSmallId request.stackSmallId.toInt64 now
      (request.computeUnits endpoint) pick
    dsimp only at hfound ⊢
    split
    · next lock hremoved =>
      rw [hremoved, Option.map_some, Option.getD_some] at hfound
      dsimp only
      rw [hstack]
      simp only [Option.some.injEq]
      exact hfound
    · next hremoved =>
      rw [hremoved] at hfound
      dsimp only [Option.map, Option.getD] at hfound
      rw [ite_self] at hfound
      exact hfound

namespace StackTables

variable {s s' : StackTables} {stackSmallId id : Int64}

theorem lockedOn_of_rows (h : s'.rows = s.rows) : s'.lockedOn stackSmallId = s.lockedOn stackSmallId := by
  rw [lockedOn, h]
  rfl

theorem lockedOn_update {row : Stack} (h : s'.rows = Function.update s.rows id (.some row)) :
    s'.lockedOn stackSmallId =
      if stackSmallId = id then row.lockedComputeUnits.toInt else s.lockedOn stackSmallId := by
  rw [lockedOn, h, Function.update_apply]
  split <;> rfl

theorem lockedOn_some {row : Stack} (h : s.rows id = .some row) : s.lockedOn id = row.lockedComputeUnits.toInt := by
  rw [lockedOn, h]
  rfl

theorem lockedOn_addLocked {units : Int64} {row row' : Stack} (hrow : s.rows id = .some row)
    (hadd : row.addLocked units = .ok row') (h : s'.rows = Function.update s.rows id (.some row')) :
    s'.lockedOn stackSmallId = s.lockedOn stackSmallId + if id = stackSmallId then units.toInt else 0 := by
  rw [lockedOn_update h]
  by_cases hid : stackSmallId = id
  · subst hid
    obtain ⟨locked, hlocked, rfl, _⟩ := Stack.of_addLocked hadd
    rw [if_pos rfl, if_pos rfl, lockedOn_some hrow, hlocked]
  · rw [if_neg hid, if_neg (Ne.symm hid), Int.add_zero]

/-- A stack is stored with units locked, where nothing was. -/
theorem lockedOn_stackCreated {event : StackCreatedEvent} {units userId : Int64}
    (h : handleStackCreatedEvent s event units userId = .ok s') :
    s'.lockedOn stackSmallId =
      s.lockedOn stackSmallId + if event.stackSmallId.toInt64 = stackSmallId then units.toInt else 0 := by
  obtain ⟨hnone, _, hrows⟩ := handleStackCreatedEvent_ok h
  rw [lockedOn_update hrows]
  by_cases hid : stackSmallId = event.stackSmallId.toInt64
  · subst hid
    rw [if_pos rfl, if_pos rfl, lockedOn, hnone]
    exact (Int.zero_add _).symm
  · rw [if_neg hid, if_neg (Ne.symm hid), Int.add_zero]

theorem lockedOn_settle {estimate total : Int64} (h : updateStackNumTokens s id estimate total = .ok s') :
    s'.lockedOn stackSmallId + (if id = stackSmallId then estimate.toInt else 0) = s.lockedOn stackSmallId := by
  obtain ⟨row, row', hrow, hsettle, rfl⟩ := updateStackNumTokens_ok.1 h
  rw [lockedOn_update rfl]
  by_cases hid : stackSmallId = id
  · subst hid
    rw [if_pos rfl, if_pos rfl, lockedOn_some hrow, (Stack.of_settle hsettle).2]
    omega
  · rw [if_neg hid, if_neg (Ne.symm hid), Int.add_zero]

theorem lockedOn_flags (claim : Bool) :
    lockedOn { s with rows := s.rows.after id (Stack.setFlags claim) } stackSmallId = s.lockedOn stackSmallId := by
  unfold lockedOn
  dsimp only
  rw [Table.after_apply]
  split
  · next hid =>
    subst hid
    cases hrow : s.rows stackSmallId with
    | none => rfl
    | some row =>
      obtain ⟨_, _, hflags⟩ := row.rowAfter_setFlags claim
      dsimp only [Option.map, Option.getD]
      rw [hflags]
  · rfl

end StackTables

/-! ## What keeps the ledgers together -/

/-- The stack is used for confidential requests only: no other statement reserves or settles on it, and one that did
not come from such a request starts with nothing locked. -/
def StackEvent.Spares (stackSmallId : Int64) (s : StackTables) : StackEvent → Prop
  | .reserve request units => ∀ row' s', s.reserve units.toInt64 request ≠ .ok (.some (stackSmallId, row'), s')
  | .newStackAcquired event units _ => event.stackSmallId.toInt64 = stackSmallId → units = 0
  | .updateStackNumTokens id _ _ => id ≠ stackSmallId
  | _ => True

/-- Another statement leaves a stack's column that it spares. -/
theorem StackTables.lockedOn_step {s : StackTables} {stackSmallId : Int64} {ev : StackEvent}
    (hspares : ev.Spares stackSmallId s) : (s.step ev).lockedOn stackSmallId = s.lockedOn stackSmallId := by
  unfold StackTables.step
  cases ev with
  | reserve request units =>
    simp only [stackStep]
    split
    · next id row' tables hres =>
      obtain ⟨row, hrow, hadd, rfl⟩ := StackTables.reserve_some hres
      rw [StackTables.lockedOn_addLocked hrow hadd rfl]
      refine (congrArg _ (if_neg fun hid => ?_)).trans (Int.add_zero _)
      subst hid
      exact hspares _ _ hres
    · next tables hres => rw [StackTables.reserve_none hres]
    · rfl
  | newStackAcquired event units userId =>
    simp only [stackStep]
    split
    · next tables hins =>
      rw [StackTables.lockedOn_stackCreated hins]
      refine (congrArg _ ?_).trans (Int.add_zero _)
      split
      · next hid =>
        rw [hspares hid]
        rfl
      · rfl
    · rfl
  | updateStackNumTokens id units total =>
    simp only [stackStep]
    split
    · next tables hsettle =>
      have hlocked := @StackTables.lockedOn_settle _ _ stackSmallId _ _ _ hsettle
      rwa [if_neg hspares, Int.add_zero] at hlocked
    · rfl
  | lockStack id => exact StackTables.lockedOn_flags false
  | updateStackClaimed id => exact StackTables.lockedOn_flags true
  | catalogChange catalog => exact StackTables.lockedOn_of_rows rfl

def ConfidentialEvent.Spares (stackSmallId : Int64) (s : ConfidentialState) : ConfidentialEvent → Prop
  | .other ev => ev.Spares stackSmallId s.tables
  | _ => True

/-- Neither ledger of the stack is forgotten: a stack bought for a request has a key and is locked as it was bought,
the time of a lock fits the clock, a request releases what its lock holds, and its settlement fits the row. -/
def ConfidentialEvent.KeepsLedger (calls : ConfidentialCalls) (stackSmallId : Int64) (s : ConfidentialState) :
    ConfidentialEvent → Prop
  | .answered call (.selectNodePublicKeyForEncryptionForNode node pick fails) =>
    node.stackSmallId = .some stackSmallId → call.request.units = maxNumTokensForConfidentialCompute ∧ fails = false ∧
      (selectNodePublicKeyForEncryptionForNode s.tables.catalog pick node.selectedNodeId).isSome = true
  | .locked call id now => id = stackSmallId → call.request.units = 0 ∨
      (newLock call.request.lockTimeout call.request.units now).isSome = true
  | .served i answer => ∀ r, s.requests[i]? = .some r → r.metadata.selectedStackSmallId = .some stackSmallId →
      r.lock.maxNumTokens =
        if releasesUnits calls.toServerCalls r.headers r.body answer r.metadata.endpoint = true then
          r.metadata.outputTokens
        else 0
  | .applied (.updateStackNumTokens id estimated total) => id = stackSmallId → estimated = 0 ∨
      ∃ row, s.tables.rows id = .some row ∧ row.SettlementFits estimated total
  | _ => True

/-- A request that was taken in was prepared. -/
def TakenRequest.Prepared (calls : ConfidentialCalls) (r : TakenRequest) : Prop :=
  ∃ answers endpoint request, prepareConfidentialRequest calls answers r.headers r.body endpoint =
    .ok (request, r.metadata)

/-- The invariant: the two ledgers of the stack differ by what is on its way between them. -/
structure ConfidentialState.Balanced (calls : ConfidentialCalls) (stackSmallId : Int64) (s : ConfidentialState) :
    Prop where
  owned : s.Owned
  prepared : ∀ r ∈ s.requests, r.Prepared calls
  units : s.tables.lockedOn stackSmallId = s.locks.keptOn stackSmallId + s.inFlight stackSmallId +
    s.midway stackSmallId + s.toRelease stackSmallId

/-! ### Calls -/

/-- What a call goes on with has reserved. -/
def CreateLockContinued.reservedOn (stackSmallId : Int64) (request : NodesCreateLockRequest) :
    CreateLockContinued → Int
  | .waits phase => LockPhase.reservedOn stackSmallId request (.waits phase)
  | .locks id _ => LockPhase.reservedOn stackSmallId request (.locks id)
  | .ended _ => 0

/-- Inside of `acquire_new_stack` nothing is reserved. -/
theorem reservedOn_afterAcquire {stackSmallId : Int64} {request : NodesCreateLockRequest} {p : Purchase}
    {c : Continued} (h : ∀ node, c ≠ .ended (.ok node)) :
    (NodesCreateLockRequest.afterAcquire p c).reservedOn stackSmallId request = 0 := by
  cases c with
  | waits phase => rfl
  | ended result =>
    cases result with
    | ok node => exact absurd rfl (h node)
    | error e => rfl

/-- Nor on a stack that the node has not. -/
theorem reservedOn_afterSelectForNode {stackSmallId : Int64} {request : NodesCreateLockRequest}
    {node : SelectedNodeMetadata} (hnode : node.stackSmallId ≠ .some stackSmallId)
    (reply : Option (Option SelectedKey)) :
    (NodesCreateLockRequest.afterSelectForNode node reply).reservedOn stackSmallId request = 0 := by
  unfold NodesCreateLockRequest.afterSelectForNode
  split
  · rfl
  · rfl
  · split
    · next id hid =>
      refine if_neg fun heq => hnode ?_
      rw [hid, heq]
    · rfl

/-- **An answer reserves on the stacks what the call goes on with has reserved.** -/
theorem LockAnswer.handled_reservedOn {calls : ConfidentialCalls} {stackSmallId : Int64} {s : ConfidentialState}
    {call : LockCall} {answer : LockAnswer} (howned : answer.waitedFor.OwnedBy s.tables call.userId)
    (hkeeps : ConfidentialEvent.KeepsLedger calls stackSmallId s (.answered call answer)) :
    (answer.handled s.tables call).1.lockedOn stackSmallId +
        LockPhase.reservedOn stackSmallId call.request (.waits answer.waitedFor) =
      s.tables.lockedOn stackSmallId + (answer.handled s.tables call).2.reservedOn stackSmallId call.request := by
  cases answer with
  | selectNodePublicKeyForEncryption pick pickKey =>
    simp only [handled]
    split
    · next key s' hsel =>
      cases key with
      | none =>
        rw [selectKeyAndStack_none hsel]
        rfl
      | some key =>
        obtain ⟨id, row, row', hid, hrow, _, hadd, rfl⟩ := selectKeyAndStack_some hsel
        rw [StackTables.lockedOn_addLocked hrow hadd rfl]
        unfold NodesCreateLockRequest.afterSelect
        dsimp only
        rw [hid]
        exact Int.add_zero _
    · rfl
  | getCheapestNodeForModel reply lockIsFree =>
    simp only [handled, NodesCreateLockRequest.afterCheapestNode]
    split
    · rfl
    · rfl
    · split <;> rfl
  | deductFromUsdc p reply =>
    simp only [handled]
    rw [reservedOn_afterAcquire Purchase.afterDeduct_ne_ended]
    rfl
  | acquireNewStackEntry p answers =>
    simp only [handled]
    rw [reservedOn_afterAcquire Purchase.afterEntry_ne_ended]
    rfl
  | newStackAcquired p event fails =>
    simp only [handled]
    split
    · next s' hins =>
      split at hins
      · cases hins
      · dsimp only
        rw [StackTables.lockedOn_stackCreated hins, Int.add_assoc]
        congr 1
        refine (Int.add_zero _).trans ?_
        have hunits : p.totalTokens.toInt64 = maxNumTokensForConfidentialCompute :=
          congrArg (fun p => p.totalTokens.toInt64) howned
        rw [hunits]
        show _ = if (.some event.stackSmallId.toInt64 : Option Int64) = .some stackSmallId then _ else 0
        simp only [Option.some.injEq]
    · next e hins =>
      dsimp only
      rw [reservedOn_afterAcquire Purchase.afterNewStackAcquired_ne_ended]
      rfl
  | refundUsdc p error =>
    simp only [handled]
    rw [reservedOn_afterAcquire Purchase.afterRefund_ne_ended]
    rfl
  | selectNodePublicKeyForEncryptionForNode node pick fails =>
    simp only [handled]
    congr 1
    by_cases hnode : node.stackSmallId = .some stackSmallId
    · obtain ⟨hunits, rfl, hkey⟩ := hkeeps hnode
      obtain ⟨key, hkey⟩ := Option.isSome_iff_exists.1 hkey
      rw [hkey, if_neg Bool.false_ne_true, Option.map_some]
      unfold NodesCreateLockRequest.afterSelectForNode
      dsimp only
      rw [hnode]
      unfold CreateLockContinued.reservedOn LockPhase.reservedOn LockAnswer.waitedFor
      dsimp only
      rw [if_pos hnode, if_pos rfl, hunits]
    · have hwaited : LockPhase.reservedOn stackSmallId call.request
          (.waits (.selectNodePublicKeyForEncryptionForNode node)) = 0 := if_neg hnode
      exact hwaited.trans (reservedOn_afterSelectForNode hnode _).symm

/-! ### Requests -/

/-- A request's end releases what its lock holds, where its condition is met. -/
theorem TakenRequest.released_served {calls : ConfidentialCalls} {stackSmallId : Int64} {r : TakenRequest}
    {answer : NodeAnswer} (hprepared : r.Prepared calls)
    (hkeeps : r.metadata.selectedStackSmallId = .some stackSmallId → r.lock.maxNumTokens =
      if releasesUnits calls.toServerCalls r.headers r.body answer r.metadata.endpoint = true then
        r.metadata.outputTokens
      else 0) :
    released stackSmallId (handleLockedConfidentialStack calls.toServerCalls answer r.headers r.body r.metadata).sent =
      r.takenOf stackSmallId := by
  obtain ⟨answers, endpoint, request, hprepared⟩ := hprepared
  obtain ⟨hauthorized, _, _, _, _, hinput, _, hsize⟩ := prepareConfidentialRequest_ok hprepared
  rw [released_handleLocked hauthorized hsize, takenOf]
  by_cases hstack : r.metadata.selectedStackSmallId = .some stackSmallId
  · rw [if_pos hstack, released_confidentialHandler hstack hinput, LockedDetails.units, hkeeps hstack]
    show _ = Int64.toInt (if releasesUnits calls.toServerCalls { r.headers with authorization := .none } r.body answer
      r.metadata.endpoint = true then r.metadata.outputTokens else 0)
    split <;> rfl
  · rw [if_neg hstack]
    exact released_of_handlerEvent hstack (sends_confidentialHandler _ _ _)

/-! ### Runs -/

/-- One request's part of a sum over the requests. -/
theorem sum_map_eraseIdx {α : Type} {i : Nat} {a : α} {requests : List α} (h : requests[i]? = .some a) (f : α → Int) :
    ((requests.eraseIdx i).map f).sum + f a = (requests.map f).sum := by
  obtain ⟨hi, rfl⟩ := List.getElem?_eq_some_iff.1 h
  rw [← ((List.getElem_cons_eraseIdx_perm hi).map f).sum_eq, List.map_cons, List.sum_cons, Int.add_comm]

theorem sum_map_set {α : Type} {i : Nat} {a : α} (b : α) {requests : List α} (h : requests[i]? = .some a)
    (f : α → Int) : ((requests.set i b).map f).sum + f a = (requests.map f).sum + f b := by
  obtain ⟨hi, rfl⟩ := List.getElem?_eq_some_iff.1 h
  have hi' : i < (requests.map f).length := by rwa [List.length_map]
  rw [List.map_set, List.sum_set', dif_pos hi', List.getElem_map]
  omega

namespace ConfidentialState

variable {calls : ConfidentialCalls} {stackSmallId : Int64} {s : ConfidentialState}

theorem midway_leave {t : LockTask} (h : t ∈ s.tasks) :
    (s.leave t).midway stackSmallId + t.reservedOn stackSmallId = s.midway stackSmallId := by
  unfold midway leave
  dsimp only
  rw [← Multiset.cons_erase h, Multiset.map_cons, Multiset.sum_cons, Multiset.erase_cons_head, Int.add_comm]

theorem midway_cons (t : LockTask) : ConfidentialState.midway { s with tasks := t ::ₘ s.tasks } stackSmallId =
    t.reservedOn stackSmallId + s.midway stackSmallId := by
  unfold midway
  dsimp only
  rw [Multiset.map_cons, Multiset.sum_cons]

theorem midway_goOn (call : LockCall) (c : CreateLockContinued) :
    (s.goOn call c).midway stackSmallId = s.midway stackSmallId + c.reservedOn stackSmallId call.request := by
  cases c with
  | ended error => exact (Int.add_zero _).symm
  | waits phase | locks id response => exact (midway_cons _).trans (Int.add_comm _ _)

theorem toRelease_add (sent : List StateManagerEvent) :
    ConfidentialState.toRelease { s with pending := s.pending + ↑sent } stackSmallId =
      s.toRelease stackSmallId + released stackSmallId sent := by
  unfold toRelease released
  dsimp only
  rw [Multiset.map_add, Multiset.sum_add]
  rfl

/-- A lock is kept with the units that were reserved for it. -/
theorem keptOn_lockInMemory {call : LockCall} {id : Int64} {now : Instant}
    (hkeeps : id = stackSmallId → call.request.units = 0 ∨
      (newLock call.request.lockTimeout call.request.units now).isSome = true) :
    (s.lockInMemory call id now).locks.keptOn stackSmallId =
      s.locks.keptOn stackSmallId + LockPhase.reservedOn stackSmallId call.request (.locks id) := by
  unfold lockInMemory lockComputeUnitsInMemory LockPhase.reservedOn
  dsimp only
  cases hnew : newLock call.request.lockTimeout call.request.units now with
  | none =>
    refine (Int.add_zero _).symm.trans (congrArg _ ?_)
    split
    · next hid =>
      rcases hkeeps hid with hzero | hsome
      · rw [hzero]
        rfl
      · rw [hnew] at hsome
        cases hsome
    · rfl
  | some lock =>
    obtain ⟨expiresAt, _, rfl⟩ := Option.map_eq_some_iff.1 hnew
    dsimp only [Option.map, Option.getD]
    rw [Locks.keptOn_update]
    by_cases hid : stackSmallId = id
    · subst hid
      rw [if_pos rfl, if_pos rfl, PriorityQueue.total_push, Int.add_comm]
      rfl
    · rw [if_neg hid, if_neg (Ne.symm hid), Int.add_zero]

/-- The middleware releases what it drops, and hands the lock it takes to its request. -/
theorem units_takeIn (answers : ConfidentialAnswers) (headers : Headers) (body : Value) (endpoint : String)
    (now : Instant) (pick : Nat) :
    let t := confidentialComputeMiddleware calls answers headers body endpoint s.locks now pick
    (s.takeIn headers body now t).locks.keptOn stackSmallId + (s.takeIn headers body now t).inFlight stackSmallId +
        (s.takeIn headers body now t).toRelease stackSmallId =
      s.locks.keptOn stackSmallId + s.inFlight stackSmallId + s.toRelease stackSmallId := by
  have hkept := @keptOn_takenIn calls answers headers body endpoint s.locks now pick stackSmallId
  have hrelease := @toRelease_add stackSmallId s
    (confidentialComputeMiddleware calls answers headers body endpoint s.locks now pick).sent
  unfold toRelease at hrelease
  dsimp only at hkept hrelease ⊢
  unfold takeIn
  cases hresult : (confidentialComputeMiddleware calls answers headers body endpoint s.locks now pick).result with
  | ok p =>
    obtain ⟨metadata, lock⟩ := p
    rw [hresult] at hkept
    unfold inFlight toRelease
    dsimp only at hkept ⊢
    rw [hrelease, List.map_cons, List.sum_cons]
    show _ + ((if metadata.selectedStackSmallId = .some stackSmallId then lock.units else 0) + _) + _ = _
    omega
  | error e =>
    rw [hresult] at hkept
    unfold inFlight toRelease
    dsimp only at hkept ⊢
    rw [hrelease]
    omega

/-- One event of the state manager takes off the column what it was to release. -/
theorem lockedOn_apply {e : StateManagerEvent} (hkeeps : ConfidentialEvent.KeepsLedger calls stackSmallId s (.applied e)) :
    (s.tables.apply e).lockedOn stackSmallId + e.releases stackSmallId = s.tables.lockedOn stackSmallId := by
  cases e with
  | updateStackNumTokens id estimated total =>
    simp only [StackTables.apply]
    split
    · next s₁ hsettle => exact StackTables.lockedOn_settle hsettle
    · next e hfails =>
      refine (congrArg _ ?_).trans (Int.add_zero _)
      show (if id = stackSmallId then estimated.toInt else 0) = 0
      split
      · next hid =>
        rcases hkeeps hid with hzero | ⟨row, hrow, hfits⟩
        · rw [hzero]
          rfl
        · obtain ⟨row', hsettle⟩ := hfits.settle
          rw [updateStackNumTokens_ok.2 ⟨row, row', hrow, hsettle, rfl⟩] at hfails
          cases hfails
      · rfl
  | lockStack id =>
    refine (Int.add_zero _).trans ?_
    exact StackTables.lockedOn_flags false
  | lockUserFiatBalance | updateStackNumTokensFiat | updateNodeThroughputPerformance => exact Int.add_zero _

theorem toRelease_erase {e : StateManagerEvent} (h : e ∈ s.pending) :
    ConfidentialState.toRelease { s with pending := s.pending.erase e } stackSmallId + e.releases stackSmallId =
      s.toRelease stackSmallId := by
  unfold toRelease
  dsimp only
  rw [← Multiset.cons_erase h, Multiset.map_cons, Multiset.sum_cons, Multiset.erase_cons_head, Int.add_comm]

theorem inFlight_eraseIdx {i : Nat} {r : TakenRequest} (h : s.requests[i]? = .some r) :
    ConfidentialState.inFlight { s with requests := s.requests.eraseIdx i } stackSmallId + r.takenOf stackSmallId =
      s.inFlight stackSmallId :=
  sum_map_eraseIdx h (TakenRequest.takenOf stackSmallId)

/-- What a request does not touch. -/
theorem takeIn_rest (s : ConfidentialState) (headers : Headers) (body : Value) (now : Instant) (t : TakenIn) :
    (s.takeIn headers body now t).tables = s.tables ∧ (s.takeIn headers body now t).tasks = s.tasks := by
  unfold takeIn
  split <;> exact ⟨rfl, rfl⟩

theorem prepared_step {s' : ConfidentialState} {ev : ConfidentialEvent} (h : ∀ r ∈ s.requests, r.Prepared calls)
    (hstep : (confidentialMachine calls).step s ev = .some s') : ∀ r ∈ s'.requests, r.Prepared calls := by
  change confidentialStep calls s ev = .some s' at hstep
  cases ev with
  | requested answers headers body endpoint now pick =>
    cases hstep
    unfold takeIn
    split
    · next metadata lock hresult =>
      obtain ⟨request, hprepared, _⟩ := confidentialComputeMiddleware_ok hresult
      intro r hr
      rcases List.mem_cons.1 hr with rfl | hr
      · exact ⟨answers, endpoint, request, hprepared⟩
      · exact h r hr
    · exact h
  | served i answer =>
    obtain ⟨_, _, rfl⟩ := step_served.1 hstep
    exact fun r hr => h r (List.mem_of_mem_eraseIdx hr)
  | answered call answer =>
    obtain ⟨_, rfl⟩ := step_answered.1 hstep
    rw [goOn_requests]
    exact h
  | locked call id now =>
    obtain ⟨_, rfl⟩ := step_locked.1 hstep
    exact h
  | applied e =>
    obtain ⟨_, rfl⟩ := step_applied.1 hstep
    exact h
  | createLock | pruned | other =>
    cases hstep
    exact h

/-- **One step keeps the ledgers together**, where it keeps the stack's. -/
theorem Balanced.step {s' : ConfidentialState} {ev : ConfidentialEvent} (h : s.Balanced calls stackSmallId)
    (hspares : ev.Spares stackSmallId s) (hkeeps : ev.KeepsLedger calls stackSmallId s)
    (hstep : (confidentialMachine calls).step s ev = .some s') : s'.Balanced calls stackSmallId := by
  refine ⟨h.owned.step hstep, prepared_step h.prepared hstep, ?_⟩
  have hunits := h.units
  change confidentialStep calls s ev = .some s' at hstep
  cases ev with
  | createLock call =>
    cases hstep
    have hmidway := @midway_cons stackSmallId s ⟨call, .waits .selectNodePublicKeyForEncryption⟩
    rw [show LockTask.reservedOn stackSmallId ⟨call, .waits .selectNodePublicKeyForEncryption⟩ = 0 from rfl,
      Int.zero_add] at hmidway
    dsimp only at hmidway ⊢
    rw [hmidway]
    exact hunits
  | answered call answer =>
    obtain ⟨ht, rfl⟩ := step_answered.1 hstep
    have hmidway := @midway_leave stackSmallId s _ ht
    have hhandled := @LockAnswer.handled_reservedOn calls stackSmallId s call answer (h.owned.tasks ht) hkeeps
    have hgoOn := @midway_goOn stackSmallId
      ({ s with tables := (answer.handled s.tables call).1 }.leave ⟨call, .waits answer.waitedFor⟩) call
      (answer.handled s.tables call).2
    rw [hgoOn, goOn_tables, goOn_locks]
    unfold inFlight toRelease at hunits ⊢
    rw [goOn_requests, goOn_pending]
    show (answer.handled s.tables call).1.lockedOn stackSmallId = s.locks.keptOn stackSmallId +
      (s.requests.map _).sum + ((s.leave ⟨call, .waits answer.waitedFor⟩).midway stackSmallId + _) +
      (s.pending.map _).sum
    rw [← hmidway] at hunits
    unfold LockTask.reservedOn at hunits
    dsimp only at hunits
    omega
  | locked call id now =>
    obtain ⟨ht, rfl⟩ := step_locked.1 hstep
    have hmidway := @midway_leave stackSmallId s _ ht
    have hkept := @keptOn_lockInMemory stackSmallId (s.leave ⟨call, .locks id⟩) call id now hkeeps
    show s.tables.lockedOn stackSmallId = _ + s.inFlight stackSmallId +
      (s.leave ⟨call, .locks id⟩).midway stackSmallId + s.toRelease stackSmallId
    rw [hkept, hunits, ← hmidway]
    show s.locks.keptOn stackSmallId + _ + (_ + LockPhase.reservedOn stackSmallId call.request (.locks id)) + _ =
      s.locks.keptOn stackSmallId + _ + _ + _ + _
    omega
  | pruned id now =>
    cases hstep
    have hrelease := @toRelease_add stackSmallId s (pruneStack s.locks id now).1
    have hkept := @keptOn_pruneStack s.locks stackSmallId id now
    show s.tables.lockedOn stackSmallId = Locks.keptOn (pruneStack s.locks id now).2 stackSmallId +
      s.inFlight stackSmallId + s.midway stackSmallId + _
    unfold toRelease at hrelease hunits ⊢
    dsimp only at hrelease ⊢
    omega
  | requested answers headers body endpoint now pick =>
    cases hstep
    have htaken := @units_takeIn calls stackSmallId s answers headers body endpoint now pick
    have hrest := takeIn_rest s headers body now
      (confidentialComputeMiddleware calls answers headers body endpoint s.locks now pick)
    dsimp only at htaken
    unfold midway at hunits ⊢
    rw [hrest.1, hrest.2]
    omega
  | served i answer =>
    obtain ⟨r, hr, rfl⟩ := step_served.1 hstep
    have hreleased := TakenRequest.released_served (h.prepared r (List.mem_of_getElem? hr)) (hkeeps r hr)
    have hrelease := @toRelease_add stackSmallId s
      (handleLockedConfidentialStack calls.toServerCalls answer r.headers r.body r.metadata).sent
    have hinFlight := @inFlight_eraseIdx stackSmallId s i r hr
    unfold toRelease at hrelease hunits ⊢
    unfold inFlight at hinFlight hunits ⊢
    dsimp only at hrelease hinFlight ⊢
    show s.tables.lockedOn stackSmallId = s.locks.keptOn stackSmallId + _ + s.midway stackSmallId + _
    omega
  | applied e =>
    obtain ⟨he, rfl⟩ := step_applied.1 hstep
    have happly := @lockedOn_apply calls stackSmallId s e hkeeps
    have hrelease := @toRelease_erase stackSmallId s e he
    unfold toRelease at hrelease hunits ⊢
    dsimp only at hrelease ⊢
    show _ = s.locks.keptOn stackSmallId + s.inFlight stackSmallId + s.midway stackSmallId + _
    omega
  | other ev =>
    cases hstep
    exact (StackTables.lockedOn_step hspares).trans hunits

end ConfidentialState

theorem ConfidentialState.balanced_empty (calls : ConfidentialCalls) (stackSmallId : Int64) (c : Catalog) :
    (ConfidentialState.empty c).Balanced calls stackSmallId where
  owned := .empty c
  prepared := fun _ hr => (nomatch hr)
  units := rfl

/-- **Main result.** In every run whose steps keep the stack's ledgers, its column is what the locks in memory and the
requests in flight hold, with what is on its way; once every settlement that was sent is applied, and no call is
between its reservation and its lock, it is what they hold, and 0 where there are none. -/
theorem locked_units_conserved {calls : ConfidentialCalls} {c : Catalog} {evs : List ConfidentialEvent}
    {s : ConfidentialState} {stackSmallId : Int64} {row : Stack}
    (hg : (confidentialMachine calls).Guarded
      (fun s ev => ev.Spares stackSmallId s ∧ ev.KeepsLedger calls stackSmallId s) (.empty c) evs)
    (hrun : (confidentialMachine calls).run (.empty c) evs = .some s)
    (hrow : s.tables.rows stackSmallId = .some row) :
    row.lockedComputeUnits.toInt = s.locks.keptOn stackSmallId + s.inFlight stackSmallId + s.midway stackSmallId +
        s.toRelease stackSmallId ∧
      ((∀ t ∈ s.tasks, t.reservedOn stackSmallId = 0) → (∀ e ∈ s.pending, e.releases stackSmallId = 0) →
        row.lockedComputeUnits.toInt = s.locks.keptOn stackSmallId + s.inFlight stackSmallId ∧
          ((s.locks stackSmallId).items = [] →
            (∀ r ∈ s.requests, r.metadata.selectedStackSmallId ≠ .some stackSmallId) →
              row.lockedComputeUnits = 0)) := by
  have hbalanced : s.Balanced calls stackSmallId :=
    Machine.run_invariant (fun h hev hstep => h.step hev.1 hev.2 hstep)
      (ConfidentialState.balanced_empty calls stackSmallId c) hg hrun
  have hunits := hbalanced.units
  rw [StackTables.lockedOn_some hrow] at hunits
  refine ⟨hunits, fun htasks hpending => ?_⟩
  have hmidway : s.midway stackSmallId = 0 := Multiset.sum_eq_zero fun n hn => by
    obtain ⟨t, ht, rfl⟩ := Multiset.mem_map.1 hn
    exact htasks t ht
  have hrelease : s.toRelease stackSmallId = 0 := Multiset.sum_eq_zero fun n hn => by
    obtain ⟨e, he, rfl⟩ := Multiset.mem_map.1 hn
    exact hpending e he
  rw [hmidway, hrelease, Int.add_zero, Int.add_zero] at hunits
  refine ⟨hunits, fun hlocks hrequests => ?_⟩
  have hkept : s.locks.keptOn stackSmallId = 0 := by
    rw [Locks.keptOn, PriorityQueue.total, hlocks]
    rfl
  have hinFlight : s.inFlight stackSmallId = 0 := List.sum_eq_zero fun n hn => by
    obtain ⟨r, hr, rfl⟩ := List.mem_map.1 hn
    exact if_neg (hrequests r hr)
  rw [hkept, hinFlight] at hunits
  exact Int64.toInt_inj.1 hunits

/-- User 9 buys stack 1, locks units of it, and asks for 100 of a node that is down. -/
def ledgerExampleRun (units : UInt64) : List ConfidentialEvent :=
  let call : LockCall := ⟨9, ⟨"model", .some units, .none⟩⟩
  [.other (.newStackAcquired stackCreatedExample 0 9),
    .createLock call,
    .answered call (.selectNodePublicKeyForEncryption (.some 1) 0),
    .locked call 1 0,
    .requested ⟨.ok 9, .ok (.some "http://node", 7)⟩ headersExample confidentialBodyExample
      confidentialChatCompletionsPath 1000 0,
    .served 0 (.unreachable "connection refused"),
    .applied (.updateStackNumTokens 1 100 0)]

def ledgerExampleRow (locked : Int64) : Stack := { stackCreatedExample.toStack 9 with lockedComputeUnits := locked }

theorem locked_units_conserved_example : ∃ s,
    (confidentialMachine confidentialCallsExample).run (.empty catalogExample) (ledgerExampleRun 100) = .some s ∧
      s.history.length = 2 ∧ s.tables.rows 1 = .some (ledgerExampleRow 0) ∧
        (ledgerExampleRow 0).lockedComputeUnits.toInt = s.locks.keptOn 1 + s.inFlight 1 + s.midway 1 + s.toRelease 1 := by
  have hrow : ((confidentialMachine confidentialCallsExample).run (.empty catalogExample) (ledgerExampleRun 100)).map
      (fun s => (s.history.length, s.tables.rows 1)) = .some (2, .some (ledgerExampleRow 0)) := by decide
  obtain ⟨s, hrun, hs⟩ := Option.map_eq_some_iff.1 hrow
  obtain ⟨hlength, hrow⟩ := Prod.mk.inj hs
  refine ⟨s, hrun, hlength, hrow, (locked_units_conserved ?_ hrun hrow).1⟩
  refine (Machine.guarded_cons rfl).2 ⟨⟨fun _ => rfl, trivial⟩, ?_⟩
  refine (Machine.guarded_cons rfl).2 ⟨⟨trivial, trivial⟩, (Machine.guarded_cons rfl).2 ⟨⟨trivial, trivial⟩, ?_⟩⟩
  refine (Machine.guarded_cons rfl).2 ⟨⟨trivial, fun _ => .inr rfl⟩, ?_⟩
  refine (Machine.guarded_cons rfl).2 ⟨⟨trivial, trivial⟩, ?_⟩
  refine (Machine.guarded_cons rfl).2 ⟨⟨trivial, fun r hr _ => ?_⟩, ?_⟩
  · cases hr
    decide
  · refine (Machine.guarded_cons rfl).2 ⟨⟨trivial, fun _ => .inr ⟨ledgerExampleRow 100, ?_, ?_⟩⟩, trivial⟩
    · decide
    · constructor <;> decide

/-- A lock of 300 units, of which 200 stay locked. -/
theorem locked_units_conserved_fails : ¬ ∀ (calls : ConfidentialCalls) (c : Catalog) (evs : List ConfidentialEvent)
    (s : ConfidentialState) (stackSmallId : Int64) (row : Stack),
    (confidentialMachine calls).Guarded (fun s ev => ev.Spares stackSmallId s) (.empty c) evs →
    (confidentialMachine calls).run (.empty c) evs = .some s → s.tables.rows stackSmallId = .some row →
    s.tasks = 0 → s.pending = 0 →
      row.lockedComputeUnits.toInt = s.locks.keptOn stackSmallId + s.inFlight stackSmallId := by
  intro h
  have hend : ((confidentialMachine confidentialCallsExample).run (.empty catalogExample) (ledgerExampleRun 300)).map
      (fun s => (s.tables.rows 1, s.tasks, s.pending, s.locks.keptOn 1, s.inFlight 1)) =
        .some (.some (ledgerExampleRow 200), 0, 0, 0, 0) := by decide
  obtain ⟨s, hrun, hs⟩ := Option.map_eq_some_iff.1 hend
  simp only [Prod.mk.injEq] at hs
  obtain ⟨hrow, htasks, hpending, hkept, hinFlight⟩ := hs
  have hunits := h confidentialCallsExample catalogExample (ledgerExampleRun 300) s 1 _ ?_ hrun hrow htasks hpending
  · rw [hkept, hinFlight] at hunits
    exact absurd hunits (by decide)
  · refine (Machine.guarded_cons rfl).2 ⟨fun _ => rfl, (Machine.guarded_cons rfl).2 ⟨trivial, ?_⟩⟩
    refine (Machine.guarded_cons rfl).2 ⟨trivial, (Machine.guarded_cons rfl).2 ⟨trivial, ?_⟩⟩
    refine (Machine.guarded_cons rfl).2 ⟨trivial, (Machine.guarded_cons rfl).2 ⟨trivial, ?_⟩⟩
    exact (Machine.guarded_cons rfl).2 ⟨trivial, trivial⟩

end AtomaProxy
