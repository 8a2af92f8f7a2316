/-
`acquire_new_stack`: a user's USDC are deducted, a stack is bought on chain,
its event is parsed and stored, and where any of the last three is an error
the USDC are refunded.

It runs in a task of its own and waits in four places, so it is given by what
each answer leads to. A transaction that is not executed does not come back as
an error: `execute_transaction_must_succeed` panics, and a panic ends the task
without the refund. The times it records are left out.
-/
import AtomaProxy.Server.LockAmount
import AtomaProxy.State.Stacks

namespace AtomaProxy

open Base

/-- `STACK_SIZE_TO_BUY as u64`. -/
def stackSizeToBuy : UInt64 := 1000000

/-- `(price_per_one_million_compute_units * stack_size_to_buy / ONE_MILLION) as i64`, the product wrapping: the
amount deducted and the amount refunded. -/
def usdcAmount (pricePerOneMillionComputeUnits stackSizeToBuy : UInt64) : Int64 :=
  (pricePerOneMillionComputeUnits * stackSizeToBuy / 1000000).toInt64

/-- How the execution of the transaction ends. -/
inductive Execution where
  | succeeded (events : Option (List Value))
  /-- a panic: the transaction failed, or its success was not heard of -/
  | panicked (executed : Bool)

/-- What `acquire_new_stack_entry` is answered: up to the execution, by it, and by the parser of the event. -/
structure EntryAnswers where
  prepared : Ending String Unit
  execution : Execution
  parse : Value → Except String StackCreatedEvent

/-- `acquire_new_stack_entry`: the event it returns is the first of the transaction's. -/
def acquireNewStackEntry (a : EntryAnswers) : Ending String StackCreatedEvent := do
  a.prepared
  match a.execution with
  | .panicked _ => .panic
  | .succeeded events =>
    match events.bind List.head? with
    | .none => .err "No stack created event"
    | .some json => .ofExcept (a.parse json)

/-- The transaction was executed: a stack was bought. -/
def EntryAnswers.bought (a : EntryAnswers) : Bool :=
  match a.prepared with
  | .ok () =>
    match a.execution with
    | .panicked executed => executed
    | .succeeded _ => true
  | _ => false

/-- What `acquire_new_stack` is called with. -/
structure Purchase where
  userId : Int64
  node : CheapestNode
  totalTokens : UInt64
  endpoint : String
  deriving DecidableEq, Repr

def Purchase.amount (p : Purchase) : Int64 :=
  usdcAmount p.node.pricePerOneMillionComputeUnits.toUInt64 stackSizeToBuy

structure SelectedNodeMetadata where
  stackSmallId : Option Int64
  selectedNodeId : Int64
  pricePerOneMillionInputComputeUnits : Int64
  pricePerOneMillionOutputComputeUnits : Int64
  deriving DecidableEq, Repr

/-- Where the task waits once the deduction is made. -/
inductive Acquiring where
  /-- for `acquire_new_stack_entry` -/
  | entry
  /-- for `NewStackAcquired` -/
  | newStackAcquired (event : StackCreatedEvent)
  /-- for `RefundUsdc` -/
  | refund (error : AtomaProxyError)
  deriving DecidableEq, Repr

/-- What an answer leads to. -/
inductive Continued where
  | waits (phase : Acquiring)
  | ended (result : Except AtomaProxyError SelectedNodeMetadata)

namespace Purchase

variable (p : Purchase)

/-- `deduct_usdc(…).await?`. -/
def afterDeduct (reply : Except AtomaStateManagerError Unit) : Continued :=
  match stateManagerReply "DeductFromUsdc" p.endpoint reply with
  | .ok () => .waits .entry
  | .error e => .ended (.error e)

/-- `acquire_new_stack_entry(…).await.map_err(…)?`, in the wrapper; a panic is the task's `JoinError`. -/
def afterEntry (entry : Ending String StackCreatedEvent) : Continued :=
  match entry with
  | .ok event => .waits (.newStackAcquired event)
  | .err e => .waits (.refund (.internalError ("Failed to acquire new stack entry: " ++ e) .none p.endpoint))
  | .panic => .ended (.error (.internalError "Failed to acquire new stack: task panicked"
      (.some "Failed to acquire new stack: task panicked") p.endpoint))

def metadata (event : StackCreatedEvent) : SelectedNodeMetadata where
  stackSmallId := .some event.stackSmallId.toInt64
  selectedNodeId := event.selectedNodeId.toInt64
  pricePerOneMillionInputComputeUnits := p.node.pricePerOneMillionComputeUnits
  pricePerOneMillionOutputComputeUnits := p.node.pricePerOneMillionComputeUnits

def afterNewStackAcquired (event : StackCreatedEvent) (reply : Except AtomaStateManagerError Unit) : Continued :=
  match stateManagerReply "NewStackAcquired" p.endpoint reply with
  | .ok () => .ended (.ok (p.metadata event))
  | .error e => .waits (.refund e)

/-- The wrapper after the refund: whether it failed is only logged. -/
def afterRefund (error : AtomaProxyError) : Continued := .ended (.error error)

end Purchase

/-! ## What the functions compute -/

namespace Purchase

variable {p : Purchase}

/-- A purchase has its node with the reply to `NewStackAcquired`, and not before. -/
theorem afterDeduct_ne_ended {reply : Except AtomaStateManagerError Unit} (node : SelectedNodeMetadata) :
    p.afterDeduct reply ≠ .ended (.ok node) := by
  unfold afterDeduct
  split <;> rintro ⟨⟩

theorem afterEntry_ne_ended {entry : Ending String StackCreatedEvent} (node : SelectedNodeMetadata) :
    p.afterEntry entry ≠ .ended (.ok node) := by
  unfold afterEntry
  split <;> rintro ⟨⟩

theorem afterNewStackAcquired_ne_ended {event : StackCreatedEvent} {e : AtomaStateManagerError}
    (node : SelectedNodeMetadata) : p.afterNewStackAcquired event (.error e) ≠ .ended (.ok node) := by
  unfold afterNewStackAcquired
  split
  · next hreply => cases e <;> cases hreply
  · rintro ⟨⟩

theorem afterRefund_ne_ended {error : AtomaProxyError} (node : SelectedNodeMetadata) :
    afterRefund error ≠ .ended (.ok node) := by
  rintro ⟨⟩

end Purchase

/-- What a stack costs, as a natural number. -/
def Purchase.cost (p : Purchase) : Int :=
  stackSizeToBuy.toNat * p.node.pricePerOneMillionComputeUnits.toInt / 1000000

/-- The price is not negative and the product does not wrap. -/
def Purchase.PriceFits (p : Purchase) : Prop :=
  0 ≤ p.node.pricePerOneMillionComputeUnits.toInt ∧
    stackSizeToBuy.toNat * p.node.pricePerOneMillionComputeUnits.toInt < 2 ^ 64

/-- Below 2^64 the amount deducted and refunded is the cost. -/
theorem Purchase.amount_toInt {p : Purchase} (h : p.PriceFits) : p.amount.toInt = p.cost := by
  obtain ⟨h0, hlt⟩ := h
  have hprice := toNat_toUInt64 h0
  have hsize : (stackSizeToBuy.toNat : Int) = 1000000 := rfl
  rw [hsize] at hlt
  rw [Purchase.cost, Purchase.amount, usdcAmount, hsize]
  have hnat : (p.node.pricePerOneMillionComputeUnits.toUInt64 * stackSizeToBuy / 1000000).toNat =
      p.node.pricePerOneMillionComputeUnits.toUInt64.toNat := by
    rw [UInt64.toNat_div, UInt64.toNat_mul]
    show p.node.pricePerOneMillionComputeUnits.toUInt64.toNat * 1000000 % 2 ^ 64 / 1000000 = _
    omega
  have hbig : p.node.pricePerOneMillionComputeUnits.toUInt64.toNat < 2 ^ 63 := by omega
  rw [toInt_toInt64 (by rw [hnat]; exact hbig), hnat]
  omega

theorem insertNewStack_of_new {s : StackTables} {id : Int64} {stack : Stack} (hid : stack.stackId ∉ s.stackIds)
    (hrow : s.rows id = .none) (hcheck : stack.check = .ok stack) : ∃ s', insertNewStack s id stack = .ok s' := by
  have hins := Table.insertRow_ok.2 ⟨_, hcheck, hrow, rfl⟩
  unfold insertNewStack
  rw [if_neg hid]
  exact ⟨_, ok_bind_iff.2 ⟨_, query_eq_ok.2 hins, rfl⟩⟩

/-- A stack whose ids are new, with room for the units it is bought for, is stored. -/
theorem handleStackCreatedEvent_of_new {s : StackTables} {event : StackCreatedEvent} {units userId : Int64}
    (hid : event.stackId ∉ s.stackIds) (hrow : s.rows event.stackSmallId.toInt64 = .none)
    (hu : units.toInt ≤ event.numComputeUnits.toInt64.toInt) :
    ∃ s', handleStackCreatedEvent s event units userId = .ok s' := by
  rw [← Int64.le_iff_toInt_le] at hu
  exact insertNewStack_of_new hid hrow (ok_bind_iff.2 ⟨units, bigintAdd_zero units, if_pos hu⟩)

end AtomaProxy
