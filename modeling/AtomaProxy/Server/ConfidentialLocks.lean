/-
The confidential side of the proxy as a machine: calls of `nodes_create_lock`,
prunes, confidential requests and their handlers, the state manager that
applies what they send, and everything else that touches the stacks, in any
order.

Each label is a stretch that nothing else comes between. A call is one label
for each answer it waits for, and one for its lock in memory; a prune of the
whole map is one for each of its entries; a request is one for the middleware
that takes it in, and one for all that its handler sends. The history is not
the program's: it is which locks were created, and which were taken.
-/
import AtomaProxy.Server.CreateLock
import AtomaProxy.State.StackAccounting

namespace AtomaProxy

open Base

/-- What a call goes on with: it waits for an answer, or locks the units that were reserved. -/
inductive LockPhase where
  | waits (phase : CreatingLock)
  | locks (stackSmallId : Int64)
  deriving DecidableEq, Repr

structure LockTask where
  call : LockCall
  phase : LockPhase
  deriving DecidableEq, Repr

/-- A request that was taken in, and the lock that was taken for it. -/
structure TakenRequest where
  headers : Headers
  body : Value
  metadata : RequestMetadataExtension
  lock : LockedDetails

/-- A lock was created by a user on a stack, or taken for a request at some time. -/
inductive LockRecord where
  | created (userId stackSmallId : Int64) (lock : LockedDetails)
  | taken (metadata : RequestMetadataExtension) (now : Instant) (lock : LockedDetails)
  deriving DecidableEq, Repr

/-- The stacks, the locks in memory, the calls and the requests that have not ended, the events that were sent and
not applied, and the history, latest first. -/
structure ConfidentialState where
  tables : StackTables
  locks : Locks
  tasks : Multiset LockTask
  requests : List TakenRequest
  pending : Multiset StateManagerEvent
  history : List LockRecord

/-- Nothing happened yet. -/
def ConfidentialState.empty (c : Catalog) : ConfidentialState where
  tables := { rows := fun _ => .none, stackIds := [], catalog := c }
  locks := Locks.empty
  tasks := 0
  requests := []
  pending := 0
  history := []

inductive ConfidentialEvent where
  /-- a call is authenticated -/
  | createLock (call : LockCall)
  | answered (call : LockCall) (answer : LockAnswer)
  | locked (call : LockCall) (stackSmallId : Int64) (now : Instant)
  /-- `prune_compute_units_in_memory` comes to a stack's entry -/
  | pruned (stackSmallId : Int64) (now : Instant)
  | requested (answers : ConfidentialAnswers) (headers : Headers) (body : Value) (endpoint : String) (now : Instant)
      (pick : Nat)
  /-- the node answers a request, whose handler comes to its end -/
  | served (i : Nat) (answer : NodeAnswer)
  /-- the state manager applies an event -/
  | applied (e : StateManagerEvent)
  /-- a statement on the stacks that is none of the above -/
  | other (ev : StackEvent)

/-- A statement on the stacks, without what `StackState` remembers. -/
def StackTables.step (s : StackTables) (ev : StackEvent) : StackTables :=
  (stackStep ⟨s, fun _ => 0, fun _ => []⟩ ev).tables

/-- What the state manager does with an event, as far as the stacks are concerned: one that fails is logged. -/
def StackTables.apply (s : StackTables) : StateManagerEvent → StackTables
  | .updateStackNumTokens id estimatedTotalTokens totalTokens =>
    match updateStackNumTokens s id estimatedTotalTokens totalTokens with
    | .ok s' => s'
    | .error _ => s
  | .lockStack id => lockStack s id
  | _ => s

namespace ConfidentialState

def leave (s : ConfidentialState) (t : LockTask) : ConfidentialState := { s with tasks := s.tasks.erase t }

/-- The call goes on, or has ended. -/
def goOn (s : ConfidentialState) (call : LockCall) : CreateLockContinued → ConfidentialState
  | .waits phase => { s with tasks := ⟨call, .waits phase⟩ ::ₘ s.tasks }
  | .locks stackSmallId _ => { s with tasks := ⟨call, .locks stackSmallId⟩ ::ₘ s.tasks }
  | .ended _ => s

section GoOn

variable (s : ConfidentialState) (call : LockCall) (c : CreateLockContinued)

@[simp] theorem goOn_tables : (s.goOn call c).tables = s.tables := by cases c <;> rfl
@[simp] theorem goOn_locks : (s.goOn call c).locks = s.locks := by cases c <;> rfl
@[simp] theorem goOn_requests : (s.goOn call c).requests = s.requests := by cases c <;> rfl
@[simp] theorem goOn_pending : (s.goOn call c).pending = s.pending := by cases c <;> rfl
@[simp] theorem goOn_history : (s.goOn call c).history = s.history := by cases c <;> rfl

end GoOn

/-- The lock is kept, or the task panics. -/
def lockInMemory (s : ConfidentialState) (call : LockCall) (stackSmallId : Int64) (now : Instant) :
    ConfidentialState :=
  { s with
    locks := (lockComputeUnitsInMemory s.locks stackSmallId call.request.lockTimeout call.request.units now).getD
      s.locks
    history := (newLock call.request.lockTimeout call.request.units now).toList.map
      (.created call.userId stackSmallId) ++ s.history }

/-- What the middleware did, and the request if it was taken in. -/
def takeIn (s : ConfidentialState) (headers : Headers) (body : Value) (now : Instant) (t : TakenIn) :
    ConfidentialState :=
  let s' := { s with locks := t.locks, pending := s.pending + ↑t.sent }
  match t.result with
  | .ok (metadata, lock) =>
    { s' with
      requests := ⟨headers, body, metadata, lock⟩ :: s.requests
      history := .taken metadata now lock :: s.history }
  | .error _ => s'

end ConfidentialState

def confidentialStep (calls : ConfidentialCalls) (s : ConfidentialState) :
    ConfidentialEvent → Option ConfidentialState
  | .createLock call => .some { s with tasks := ⟨call, .waits .selectNodePublicKeyForEncryption⟩ ::ₘ s.tasks }
  | .answered call answer =>
    let t : LockTask := ⟨call, .waits answer.waitedFor⟩
    if t ∈ s.tasks then
      let handled := answer.handled s.tables call
      .some (({ s with tables := handled.1 }.leave t).goOn call handled.2)
    else .none
  | .locked call stackSmallId now =>
    let t : LockTask := ⟨call, .locks stackSmallId⟩
    if t ∈ s.tasks then .some ((s.leave t).lockInMemory call stackSmallId now) else .none
  | .pruned stackSmallId now =>
    let pruned := pruneStack s.locks stackSmallId now
    .some { s with locks := pruned.2, pending := s.pending + ↑pruned.1 }
  | .requested answers headers body endpoint now pick =>
    .some (s.takeIn headers body now
      (confidentialComputeMiddleware calls answers headers body endpoint s.locks now pick))
  | .served i answer =>
    match s.requests[i]? with
    | .some r =>
      .some { s with
        requests := s.requests.eraseIdx i
        pending := s.pending +
          ↑(handleLockedConfidentialStack calls.toServerCalls answer r.headers r.body r.metadata).sent }
    | .none => .none
  | .applied e =>
    if e ∈ s.pending then .some { s with tables := s.tables.apply e, pending := s.pending.erase e } else .none
  | .other ev => .some { s with tables := s.tables.step ev }

def confidentialMachine (calls : ConfidentialCalls) : Machine ConfidentialState ConfidentialEvent :=
  ⟨confidentialStep calls⟩

/-! ## The steps that not every state can take -/

section Steps

variable {calls : ConfidentialCalls} {s s' : ConfidentialState}

theorem step_answered {call : LockCall} {answer : LockAnswer} :
    confidentialStep calls s (.answered call answer) = .some s' ↔ ⟨call, .waits answer.waitedFor⟩ ∈ s.tasks ∧
      ({ s with tables := (answer.handled s.tables call).1 }.leave ⟨call, .waits answer.waitedFor⟩).goOn call
        (answer.handled s.tables call).2 = s' := by
  simp only [confidentialStep, Option.ite_none_right_eq_some, Option.some.injEq]

theorem step_locked {call : LockCall} {stackSmallId : Int64} {now : Instant} :
    confidentialStep calls s (.locked call stackSmallId now) = .some s' ↔ ⟨call, .locks stackSmallId⟩ ∈ s.tasks ∧
      (s.leave ⟨call, .locks stackSmallId⟩).lockInMemory call stackSmallId now = s' := by
  simp only [confidentialStep, Option.ite_none_right_eq_some, Option.some.injEq]

theorem step_served {i : Nat} {answer : NodeAnswer} :
    confidentialStep calls s (.served i answer) = .some s' ↔ ∃ r, s.requests[i]? = .some r ∧
      { s with
        requests := s.requests.eraseIdx i
        pending := s.pending +
          ↑(handleLockedConfidentialStack calls.toServerCalls answer r.headers r.body r.metadata).sent } = s' := by
  simp only [confidentialStep]
  cases s.requests[i]? with
  | none => simp
  | some r => simp

theorem step_applied {e : StateManagerEvent} : confidentialStep calls s (.applied e) = .some s' ↔
    e ∈ s.pending ∧ { s with tables := s.tables.apply e, pending := s.pending.erase e } = s' := by
  simp only [confidentialStep, Option.ite_none_right_eq_some, Option.some.injEq]

end Steps

end AtomaProxy
