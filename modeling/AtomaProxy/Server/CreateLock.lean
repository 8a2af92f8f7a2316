/-
`nodes_create_lock`: units are reserved on one of the user's stacks for a
confidential request, or a stack is bought for it, and the lock is kept in
memory.

It runs in a task of its own and waits for the state manager in several
places, so it is given by what each answer leads to. A stack that is bought
reserves the default number of units, whatever the lock that is kept for it
says; and where the node that the chain chose has no key, or the lock's time
does not fit a clock, what was reserved stays. Keys stand before base64.
-/
import AtomaProxy.Server.AcquireStack
import AtomaProxy.Server.ConfidentialCompute
import AtomaProxy.State.NodeKeys
import AtomaProxy.State.StackLifecycle

namespace AtomaProxy

open Base

def nodesCreateLockPath : String := "/v1/nodes/lock"

/-- `MAX_TIMEOUT_FOR_CONFIDENTIAL_COMPUTE`. -/
def maxTimeoutForConfidentialCompute : UInt64 := 5

structure NodesCreateLockRequest where
  model : String
  maxNumTokens : Option UInt64
  timeout : Option UInt64
  deriving DecidableEq, Repr

/-- A key as the two statements that select one answer it: only the first reserves on a stack. -/
structure SelectedKey where
  publicKey : List UInt8
  nodeSmallId : Int64
  stackSmallId : Option Int64
  deriving DecidableEq, Repr

structure NodesCreateLockResponse where
  publicKey : List UInt8
  nodeSmallId : UInt64
  stackSmallId : UInt64
  deriving DecidableEq, Repr

/-- What the task waits for. -/
inductive CreatingLock where
  | selectNodePublicKeyForEncryption
  | getCheapestNodeForModel
  | deductFromUsdc (p : Purchase)
  | acquireNewStack (p : Purchase) (phase : Acquiring)
  | selectNodePublicKeyForEncryptionForNode (node : SelectedNodeMetadata)
  deriving DecidableEq, Repr

/-- What an answer leads to. -/
inductive CreateLockContinued where
  | waits (phase : CreatingLock)
  /-- `lock_compute_units_in_memory`, and then the response -/
  | locks (stackSmallId : Int64) (response : NodesCreateLockResponse)
  | ended (error : AtomaProxyError)
  deriving DecidableEq, Repr

namespace NodesCreateLockRequest

variable (request : NodesCreateLockRequest)

/-- `max_num_tokens`, a cast of what the request names. -/
def units : Int64 := (request.maxNumTokens.map UInt64.toInt64).getD maxNumTokensForConfidentialCompute

def lockTimeout : UInt64 := request.timeout.getD maxTimeoutForConfidentialCompute

/-- What `acquire_new_stack` is called with. -/
def purchase (userId : Int64) (node : CheapestNode) : Purchase where
  userId
  node
  totalTokens := maxNumTokensForConfidentialCompute.toUInt64
  endpoint := nodesCreateLockPath

def stackNotFoundError : AtomaProxyError :=
  .internalError "Stack small id not found for node public key" .none nodesCreateLockPath

/-- The key found, or none, or no answer as the statement failed. -/
def afterSelect (reply : Option (Option SelectedKey)) : CreateLockContinued :=
  match reply with
  | .none => .ended (.internalError "Failed to receive node public key: channel closed" .none nodesCreateLockPath)
  | .some .none => .waits .getCheapestNodeForModel
  | .some (.some key) =>
    match key.stackSmallId with
    | .some stackSmallId =>
      .locks stackSmallId ⟨key.publicKey, key.nodeSmallId.toUInt64, stackSmallId.toUInt64⟩
    | .none => .ended stackNotFoundError

/-- The cheapest node, and whether the user is not buying a stack of its task already; a second one would wait for
the first, but only on other endpoints. -/
def afterCheapestNode (userId : Int64) (reply : Except AtomaStateManagerError (Option CheapestNode))
    (lockIsFree : Bool) : CreateLockContinued :=
  match reply with
  | .error _ => .ended (.internalError "Failed to get GetCheapestNodeForModel result" .none nodesCreateLockPath)
  | .ok .none =>
    .ended (.serviceUnavailable
      ("No node found for model " ++ request.model ++ " with confidential compute enabled") nodesCreateLockPath)
  | .ok (.some node) =>
    if lockIsFree then .waits (.deductFromUsdc (purchase userId node))
    else .ended (.requestError ("Unsupported endpoint: " ++ nodesCreateLockPath) nodesCreateLockPath)

/-- Inside of `acquire_new_stack`, and after it. -/
def afterAcquire (p : Purchase) : Continued → CreateLockContinued
  | .waits phase => .waits (.acquireNewStack p phase)
  | .ended (.ok node) => .waits (.selectNodePublicKeyForEncryptionForNode node)
  | .ended (.error e) => .ended e

/-- The key of the node that the stack was bought from. -/
def afterSelectForNode (node : SelectedNodeMetadata) (reply : Option (Option SelectedKey)) : CreateLockContinued :=
  match reply with
  | .none =>
    .ended (.internalError "Failed to receive GetNodePublicKeyForEncryption result: channel closed" .none
      nodesCreateLockPath)
  | .some .none =>
    .ended (.internalError ("No node public key found for node " ++ toString node.selectedNodeId)
      (.some "Node public key not found") nodesCreateLockPath)
  | .some (.some key) =>
    match node.stackSmallId with
    | .some stackSmallId =>
      .locks stackSmallId ⟨key.publicKey, key.nodeSmallId.toUInt64, stackSmallId.toUInt64⟩
    | .none => .ended stackNotFoundError

end NodesCreateLockRequest

/-! ## What the state manager answers -/

/-- `select_node_public_key_for_encryption`, with the key and the stack it returns. -/
def selectKeyAndStack (s : StackTables) (pick : Option Int64) (pickKey : Nat) (model : String)
    (maxNumTokens userId : Int64) : Except AtomaStateManagerError (Option SelectedKey × StackTables) := do
  let (reserved, s') ← selectNodePublicKeyForEncryption s pick model maxNumTokens userId
  let key := reserved.bind fun row =>
    (fetchOptional (s.catalog.validNodes.filter fun v => v.1 = row.2.selectedNodeId) pickKey).map fun v =>
      SelectedKey.mk v.2 v.1 (.some row.1)
  .ok (key, s')

/-- It is what `selectNodeAndKeyForEncryption` answers, with the stack. -/
theorem selectKeyAndStack_key (s : StackTables) (pick : Option Int64) (pickKey : Nat) (model : String)
    (maxNumTokens userId : Int64) :
    (selectKeyAndStack s pick pickKey model maxNumTokens userId).map
        (fun r => (r.1.map fun key => (key.nodeSmallId, key.publicKey), r.2)) =
      selectNodeAndKeyForEncryption s pick pickKey model maxNumTokens userId := by
  unfold selectKeyAndStack selectNodeAndKeyForEncryption
  cases selectNodePublicKeyForEncryption s pick model maxNumTokens userId with
  | error e => rfl
  | ok r =>
    obtain ⟨reserved, s'⟩ := r
    cases reserved with
    | none => rfl
    | some row =>
      dsimp only [bind, Except.bind, Option.bind, Except.map]
      rw [Option.map_map]
      congr 2
      exact Option.map_id'

/-- The row that the statement reserves on is one of the user's, whose node has a key. -/
theorem selectNodePublicKeyForEncryption_some {s s' : StackTables} {pick : Option Int64} {model : String}
    {maxNumTokens userId id : Int64} {row' : Stack}
    (h : selectNodePublicKeyForEncryption s pick model maxNumTokens userId = .ok (.some (id, row'), s')) :
    ∃ row, s.rows id = .some row ∧ row.userId = userId ∧ s.catalog.offersKeyOf row'.selectedNodeId = true ∧
      row.addLocked maxNumTokens = .ok row' ∧ s' = { s with rows := Function.update s.rows id (.some row') } := by
  obtain ⟨row, hrow, hadd, hs⟩ := StackTables.reservePicked_some h
  obtain ⟨_, row₁, hrow₁, hclauses, _⟩ := StackTables.reservePicked_some_iff.1 ⟨row', s', h⟩
  rw [hrow] at hrow₁
  cases hrow₁
  obtain ⟨locked, _, hlocked, _⟩ := Stack.of_addLocked hadd
  simp only [Stack.forEncryption, ok_bind_iff, Except.ok.injEq, Bool.and_eq_true, decide_eq_true_iff] at hclauses
  obtain ⟨free, _, ⟨⟨⟨⟨hkey, _⟩, _⟩, _⟩, _⟩, huser⟩ := hclauses
  exact ⟨row, hrow, huser, hlocked ▸ hkey, hadd, hs⟩

/-- A key that is found is one of a stack of the user, on which the units were reserved. -/
theorem selectKeyAndStack_some {s s' : StackTables} {pick : Option Int64} {pickKey : Nat} {model : String}
    {maxNumTokens userId : Int64} {key : SelectedKey}
    (h : selectKeyAndStack s pick pickKey model maxNumTokens userId = .ok (.some key, s')) :
    ∃ id row row', key.stackSmallId = .some id ∧ s.rows id = .some row ∧ row.userId = userId ∧
      row.addLocked maxNumTokens = .ok row' ∧ s' = { s with rows := Function.update s.rows id (.some row') } := by
  obtain ⟨⟨reserved, s₁⟩, hsel, h⟩ := ok_bind_iff.1 h
  simp only [Except.ok.injEq, Prod.mk.injEq, Option.bind_eq_some_iff, Option.map_eq_some_iff] at h
  obtain ⟨⟨⟨id, row'⟩, rfl, _, _, rfl⟩, rfl⟩ := h
  obtain ⟨row, hrow, huser, _, hadd, hs⟩ := selectNodePublicKeyForEncryption_some hsel
  exact ⟨id, row, row', rfl, hrow, huser, hadd, hs⟩

/-- Where no key is found nothing was reserved. -/
theorem selectKeyAndStack_none {s s' : StackTables} {pick : Option Int64} {pickKey : Nat} {model : String}
    {maxNumTokens userId : Int64} (h : selectKeyAndStack s pick pickKey model maxNumTokens userId = .ok (.none, s')) :
    s' = s := by
  obtain ⟨⟨reserved, s₁⟩, hsel, h⟩ := ok_bind_iff.1 h
  simp only [Except.ok.injEq, Prod.mk.injEq] at h
  obtain ⟨hkey, rfl⟩ := h
  cases reserved with
  | none => exact StackTables.reservePicked_none hsel
  | some r =>
    obtain ⟨_, _, _, hoffers, _⟩ := selectNodePublicKeyForEncryption_some hsel
    obtain ⟨v, hv, hnode⟩ := List.any_eq_true.1 hoffers
    have hmem : v ∈ s.catalog.validNodes.filter fun v => v.1 = r.2.selectedNodeId := List.mem_filter.2 ⟨hv, hnode⟩
    have hsome := (@fetchOptional_isSome _ _ pickKey).2 ⟨v, hmem⟩
    rw [Option.bind_some, Option.map_eq_none_iff] at hkey
    rw [hkey] at hsome
    cases hsome

/-- A call past its authentication. -/
structure LockCall where
  userId : Int64
  request : NodesCreateLockRequest
  deriving DecidableEq, Repr

/-- What a call is answered while it waits; the state manager answers from the stacks' tables, and a statement that
the database does not answer `fails`. -/
inductive LockAnswer where
  | selectNodePublicKeyForEncryption (pick : Option Int64) (pickKey : Nat)
  | getCheapestNodeForModel (reply : Except AtomaStateManagerError (Option CheapestNode)) (lockIsFree : Bool)
  | deductFromUsdc (p : Purchase) (reply : Except AtomaStateManagerError Unit)
  | acquireNewStackEntry (p : Purchase) (answers : EntryAnswers)
  | newStackAcquired (p : Purchase) (event : StackCreatedEvent) (fails : Bool)
  | refundUsdc (p : Purchase) (error : AtomaProxyError)
  | selectNodePublicKeyForEncryptionForNode (node : SelectedNodeMetadata) (pick : Nat) (fails : Bool)

/-- What it is an answer to. -/
def LockAnswer.waitedFor : LockAnswer → CreatingLock
  | .selectNodePublicKeyForEncryption .. => .selectNodePublicKeyForEncryption
  | .getCheapestNodeForModel .. => .getCheapestNodeForModel
  | .deductFromUsdc p _ => .deductFromUsdc p
  | .acquireNewStackEntry p _ => .acquireNewStack p .entry
  | .newStackAcquired p event _ => .acquireNewStack p (.newStackAcquired event)
  | .refundUsdc p error => .acquireNewStack p (.refund error)
  | .selectNodePublicKeyForEncryptionForNode node .. => .selectNodePublicKeyForEncryptionForNode node

/-- What is done to the stacks, and what the call goes on with. -/
def LockAnswer.handled (s : StackTables) (call : LockCall) : LockAnswer → StackTables × CreateLockContinued
  | .selectNodePublicKeyForEncryption pick pickKey =>
    match selectKeyAndStack s pick pickKey call.request.model call.request.units call.userId with
    | .ok (key, s') => (s', NodesCreateLockRequest.afterSelect (.some key))
    | .error _ => (s, NodesCreateLockRequest.afterSelect .none)
  | .getCheapestNodeForModel reply lockIsFree =>
    (s, call.request.afterCheapestNode call.userId reply lockIsFree)
  | .deductFromUsdc p reply => (s, NodesCreateLockRequest.afterAcquire p (p.afterDeduct reply))
  | .acquireNewStackEntry p answers =>
    (s, NodesCreateLockRequest.afterAcquire p (p.afterEntry (AtomaProxy.acquireNewStackEntry answers)))
  | .newStackAcquired p event fails =>
    match (if fails then query (.error .unavailable)
      else handleStackCreatedEvent s event p.totalTokens.toInt64 p.userId) with
    | .ok s' => (s', NodesCreateLockRequest.afterAcquire p (p.afterNewStackAcquired event (.ok ())))
    | .error e => (s, NodesCreateLockRequest.afterAcquire p (p.afterNewStackAcquired event (.error e)))
  | .refundUsdc p error => (s, NodesCreateLockRequest.afterAcquire p (Purchase.afterRefund error))
  | .selectNodePublicKeyForEncryptionForNode node pick fails =>
    (s, NodesCreateLockRequest.afterSelectForNode node <|
      if fails then .none
      else .some ((AtomaProxy.selectNodePublicKeyForEncryptionForNode s.catalog pick node.selectedNodeId).map
        fun v => ⟨v.2, v.1, .none⟩))

end AtomaProxy
