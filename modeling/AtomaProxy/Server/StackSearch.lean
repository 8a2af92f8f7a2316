/-
How a request that its node answered 425 looks for a stack to be sent again on.

It asks the state manager for one of the user's stacks of its model, and
without one it buys one from the cheapest node. While another request of the
user buys a stack of that task, it waits for that one instead, and asks for a
stack of the task a number of times. Wherever it finds a stack, the statement
that finds it reserves the request's units on it, or the stack is inserted with
them.

The request runs in the task that its authentication spawned, so it does not
end with its client. What the map of the purchases says is given: it is
`LockGuard`'s.
-/
import AtomaProxy.Server.ConfidentialLocks
import AtomaProxy.Server.LockStackTarget

namespace AtomaProxy

open Base

/-- `MAX_STACK_WAIT_ATTEMPTS`. -/
def maxStackWaitAttempts : Nat := 10

/-- What the search waits for. -/
inductive StackSearch where
  | getStacksForModel
  | getCheapestNodeForModel
  /-- and how many more times it asks -/
  | getStacksForTask (taskSmallId : Int64) (left : Nat)
  | deductFromUsdc (node : CheapestNode)
  | acquireNewStack (node : CheapestNode) (phase : Acquiring)
  deriving DecidableEq, Repr

/-- What an answer leads to. -/
inductive SearchContinued where
  | waits (phase : StackSearch)
  | ended (result : Except AtomaProxyError SelectedNodeMetadata)

/-- A stack that a statement returned, as the metadata of a node. -/
def Stack.nodeMetadata (stackSmallId : Int64) (row : Stack) : SelectedNodeMetadata where
  stackSmallId := .some stackSmallId
  selectedNodeId := row.selectedNodeId
  pricePerOneMillionInputComputeUnits := row.pricePerOneMillionComputeUnits
  pricePerOneMillionOutputComputeUnits := row.pricePerOneMillionComputeUnits

def manyConcurrentRequests (endpoint : String) : AtomaProxyError :=
  .requestError ("Many concurrent requests, a stack is being bought, but its internal state is not yet updated. " ++
    "Please retry.") endpoint

namespace RequestMetadataExtension

variable (metadata : RequestMetadataExtension)

/-- What `acquire_new_stack` is called with. -/
def purchase (node : CheapestNode) : Purchase where
  userId := metadata.userId
  node
  totalTokens := metadata.numInputTokens.getD 0 + metadata.maxOutputTokens
  endpoint := metadata.endpoint

/-- `get_node_metadata_from_state_manager`, and what follows where it found nothing. -/
def afterStacksForModel (reply : Except AtomaStateManagerError (Option (Int64 × Stack))) : SearchContinued :=
  match stateManagerReply "GetStacksForModel" metadata.endpoint reply with
  | .error e => .ended (.error e)
  | .ok (.some (id, row)) => .ended (.ok (row.nodeMetadata id))
  | .ok .none => .waits .getCheapestNodeForModel

/-- `get_stack_if_locked`, up to its first question. -/
def getStackIfLocked (taskSmallId : Int64) (stackIsLocked : Bool) : SearchContinued :=
  if metadata.endpoint ∈ [chatCompletionsPath, completionsPath, embeddingsPath, imageGenerationsPath] then
    if stackIsLocked then .waits (.getStacksForTask taskSmallId (maxStackWaitAttempts - 1))
    else .ended (.error (manyConcurrentRequests metadata.endpoint))
  else .ended (.error (.requestError ("Unsupported endpoint: " ++ metadata.endpoint) metadata.endpoint))

/-- `get_cheapest_node_and_acquire_new_stack`, from its first answer on: whether the key of the purchase is free, and
where it is not whether it still is taken when the map is read again. -/
def afterCheapestNode (reply : Except AtomaStateManagerError (Option CheapestNode)) (lockIsFree stackIsLocked : Bool) :
    SearchContinued :=
  match stateManagerReply "GetCheapestNodeForModel" metadata.endpoint reply with
  | .error e => .ended (.error e)
  | .ok .none => .ended (.error (.requestError ("No node found for model " ++ metadata.modelName) metadata.endpoint))
  | .ok (.some node) =>
    if lockIsFree then .waits (.deductFromUsdc node) else metadata.getStackIfLocked node.taskSmallId stackIsLocked

/-- `try_get_stack_for_user_id`, in the loop of `get_stack_if_locked_with_request_model`. -/
def afterStacksForTask (taskSmallId : Int64) (left : Nat)
    (reply : Except AtomaStateManagerError (Option (Int64 × Stack))) : SearchContinued :=
  match stateManagerReply "GetStacksForTask" metadata.endpoint reply with
  | .error e => .ended (.error e)
  | .ok (.some (id, row)) => .ended (.ok (row.nodeMetadata id))
  | .ok .none =>
    match left with
    | 0 => .ended (.error (manyConcurrentRequests metadata.endpoint))
    | n + 1 => .waits (.getStacksForTask taskSmallId n)

/-- Inside of `acquire_new_stack`. -/
def inAcquire (node : CheapestNode) : Continued → SearchContinued
  | .waits phase => .waits (.acquireNewStack node phase)
  | .ended result => .ended result

end RequestMetadataExtension

/-- What a search is answered; a statement that the database does not answer `fails`. -/
inductive SearchAnswer where
  | stacks (pick : Option Int64) (fails : Bool)
  | cheapestNode (reply : Except AtomaStateManagerError (Option CheapestNode)) (lockIsFree stackIsLocked : Bool)
  | deducted (reply : Except AtomaStateManagerError Unit)
  | entry (answers : EntryAnswers)
  | inserted (fails : Bool)
  | refunded

/-- A statement that may fail: the stacks after it, and its reply. -/
def StackTables.replied {α} (s : StackTables) (result : Except AtomaStateManagerError (α × StackTables)) :
    StackTables × Except AtomaStateManagerError α :=
  match result with
  | .ok (a, s') => (s', .ok a)
  | .error e => (s, .error e)

/-- What is done to the stacks, and what the search goes on with, where it waits for such an answer. -/
def SearchAnswer.handled (s : StackTables) (metadata : RequestMetadataExtension) :
    StackSearch → SearchAnswer → Option (StackTables × SearchContinued)
  | .getStacksForModel, .stacks pick fails =>
    let (s', reply) := s.replied (if fails then query (.error .unavailable)
      else getStacksForModel s pick metadata.modelName metadata.totalTokens metadata.userId false)
    .some (s', metadata.afterStacksForModel reply)
  | .getCheapestNodeForModel, .cheapestNode reply lockIsFree stackIsLocked =>
    .some (s, metadata.afterCheapestNode reply lockIsFree stackIsLocked)
  | .getStacksForTask taskSmallId left, .stacks pick fails =>
    let (s', reply) := s.replied (if fails then query (.error .unavailable)
      else getStacksForTask s pick taskSmallId metadata.totalTokens metadata.userId)
    .some (s', metadata.afterStacksForTask taskSmallId left reply)
  | .deductFromUsdc node, .deducted reply =>
    .some (s, RequestMetadataExtension.inAcquire node ((metadata.purchase node).afterDeduct reply))
  | .acquireNewStack node .entry, .entry answers =>
    .some (s, RequestMetadataExtension.inAcquire node
      ((metadata.purchase node).afterEntry (acquireNewStackEntry answers)))
  | .acquireNewStack node (.newStackAcquired event), .inserted fails =>
    let p := metadata.purchase node
    let (s', reply) := s.replied ((if fails then query (.error .unavailable)
      else handleStackCreatedEvent s event p.totalTokens.toInt64 p.userId).map fun s' => ((), s'))
    .some (s', RequestMetadataExtension.inAcquire node (p.afterNewStackAcquired event reply))
  | .acquireNewStack node (.refund error), .refunded =>
    .some (s, RequestMetadataExtension.inAcquire node (Purchase.afterRefund error))
  | _, _ => .none

/-- Where a request that is to be sent again is. -/
inductive RetryPhase where
  | searching (phase : StackSearch)
  | found (node : SelectedNodeMetadata)
  deriving DecidableEq, Repr

structure RetriedRequest where
  headers : Headers
  body : Value
  metadata : RequestMetadataExtension
  phase : RetryPhase

/-- The stacks, the requests that are to be sent again, and the events that were sent and not applied. -/
structure RetryState where
  tables : StackTables
  requests : List RetriedRequest
  pending : Multiset StateManagerEvent

/-- Nothing happened yet. -/
def RetryState.empty (c : Catalog) : RetryState where
  tables := { rows := fun _ => .none, stackIds := [], catalog := c }
  requests := []
  pending := 0

inductive RetryEvent where
  /-- a request is authenticated, and its node answers 425: what this attempt sends settles its balance -/
  | tooEarly (p : PassAnswers) (headers : Headers) (body : Value) (endpoint : String) (firstNode : NodeAnswer)
  | answered (i : Nat) (answer : SearchAnswer)
  /-- a request that found its stack is sent again, and comes to its end -/
  | served (i : Nat) (answers : RequestAnswers)
  /-- the state manager applies an event -/
  | applied (e : StateManagerEvent)
  /-- a statement on the stacks that is none of the above -/
  | other (ev : StackEvent)

/-- The request comes to its handler, and the handler's response to the node's first answer is a 425. -/
def respondsTooEarly (calls : ServerCalls) (headers : Headers) (body : Value) (metadata : RequestMetadataExtension)
    (firstNode : NodeAnswer) : Bool :=
  headers.authorization.isSome && !decide (calls.serializedLength body > maxBodySize) &&
    match (regularHandler calls { headers with authorization := .none } body firstNode metadata).ending with
    | .ok response => response.status = 425
    | _ => false

/-- The request goes on, or has ended. -/
def RetryState.goOn (s : RetryState) (i : Nat) (r : RetriedRequest) : SearchContinued → RetryState
  | .waits phase => { s with requests := s.requests.set i { r with phase := .searching phase } }
  | .ended (.ok node) => { s with requests := s.requests.set i { r with phase := .found node } }
  | .ended (.error _) => { s with requests := s.requests.eraseIdx i }

def retryStep (calls : ServerCalls) (s : RetryState) : RetryEvent → Option RetryState
  | .tooEarly p headers body endpoint firstNode => do
    let body := withDefaultMaxTokens body
    let metadata ← p.admitted headers body endpoint
    if respondsTooEarly calls headers body metadata firstNode then
      .some { s with requests := s.requests ++ [⟨headers, body, metadata, .searching .getStacksForModel⟩] }
    else .none
  | .answered i answer => do
    let r ← s.requests[i]?
    match r.phase with
    | .searching phase =>
      let (tables, continued) ← answer.handled s.tables r.metadata phase
      .some ({ s with tables }.goOn i r continued)
    | .found _ => .none
  | .served i answers => do
    let r ← s.requests[i]?
    match r.phase with
    | .searching _ => .none
    | .found node =>
      .some { s with
        requests := s.requests.eraseIdx i
        pending := s.pending +
          ↑(retryOnStack calls { answers with retryStack := .ok node } r.headers r.body r.metadata).sent }
  | .applied e =>
    if e ∈ s.pending then .some { s with tables := s.tables.apply e, pending := s.pending.erase e } else .none
  | .other ev => .some { s with tables := s.tables.step ev }

def retryMachine (calls : ServerCalls) : Machine RetryState RetryEvent := ⟨retryStep calls⟩

end AtomaProxy
