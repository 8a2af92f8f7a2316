/-
Settlement tickets: the buffers of proofs and leaves that a
`StackTrySettleEvent` makes, and the slots that the attestation nodes fill.

A slot is 32 bytes. The first is the original solver's, and the one after it
is that of the first requested node, so a ticket of `n` nodes needs `n + 1`
slots; its buffers are made with `n`. The last requested node has no slot, and
its attestation is refused. What an attestation brings is cut to 32 bytes: too
many are cut off, and with too few the cut panics.
-/
import AtomaProxy.Base.Effect
import AtomaProxy.Base.Slots
import AtomaProxy.State.Errors

namespace AtomaProxy

open Base

/-- A row of `stack_settlement_tickets`, under its `stack_small_id`. The two lists of nodes are stored as JSON
texts; what is requested is written as `u64` numbers. -/
structure StackSettlementTicket where
  selectedNodeId : Int64
  numClaimedComputeUnits : Int64
  requestedAttestationNodes : List UInt64
  committedStackProofs : List UInt8
  stackMerkleLeaves : List UInt8
  disputeSettledAtEpoch : Option Int64
  alreadyAttestedNodes : List Int64
  isInDispute : Bool
  userRefundAmount : Int64
  isClaimed : Bool
  deriving DecidableEq, Repr

structure StackTrySettleEvent where
  stackSmallId : UInt64
  selectedNodeId : UInt64
  numClaimedComputeUnits : UInt64
  requestedAttestationNodes : List UInt64
  committedStackProof : List UInt8
  stackMerkleLeaf : List UInt8
  deriving DecidableEq, Repr

/-- `StackSettlementTicket::try_from(event)`. -/
def StackTrySettleEvent.toTicket (event : StackTrySettleEvent) : StackSettlementTicket :=
  let expandedSize := 32 * event.requestedAttestationNodes.length
  { selectedNodeId := event.selectedNodeId.toInt64
    numClaimedComputeUnits := event.numClaimedComputeUnits.toInt64
    requestedAttestationNodes := event.requestedAttestationNodes
    committedStackProofs := resize expandedSize 0 event.committedStackProof
    stackMerkleLeaves := resize expandedSize 0 event.stackMerkleLeaf
    disputeSettledAtEpoch := .none
    alreadyAttestedNodes := []
    isInDispute := false
    userRefundAmount := 0
    isClaimed := false }

abbrev Tickets := Table Int64 StackSettlementTicket

/-- The columns of the type `integer`. -/
def StackSettlementTicket.columns (ticket : StackSettlementTicket) : Except SqlError StackSettlementTicket := do
  let selectedNodeId ← int4 ticket.selectedNodeId
  let numClaimedComputeUnits ← int4 ticket.numClaimedComputeUnits
  let userRefundAmount ← int4 ticket.userRefundAmount
  .ok { ticket with selectedNodeId, numClaimedComputeUnits, userRefundAmount }

theorem StackSettlementTicket.columns_ok {ticket ticket' : StackSettlementTicket} : ticket.columns = .ok ticket' ↔
    (-2147483648 ≤ ticket.selectedNodeId.toInt ∧ ticket.selectedNodeId.toInt < 2147483648) ∧
      (-2147483648 ≤ ticket.numClaimedComputeUnits.toInt ∧ ticket.numClaimedComputeUnits.toInt < 2147483648) ∧
      (-2147483648 ≤ ticket.userRefundAmount.toInt ∧ ticket.userRefundAmount.toInt < 2147483648) ∧
      ticket' = ticket := by
  simp only [columns, ok_bind_iff, int4_eq_ok, Except.ok.injEq]
  constructor
  · rintro ⟨_, ⟨h, rfl⟩, _, ⟨h', rfl⟩, _, ⟨h'', rfl⟩, rfl⟩
    exact ⟨h, h', h'', rfl⟩
  · rintro ⟨h, h', h'', rfl⟩
    exact ⟨_, ⟨h, rfl⟩, _, ⟨h', rfl⟩, _, ⟨h'', rfl⟩, rfl⟩

/-- `insert_new_stack_settlement_ticket`, its first statement: no epoch is settled yet. -/
def Tickets.insertNewStackSettlementTicket (t : Tickets) (stackSmallId : Int64) (ticket : StackSettlementTicket) :
    Except AtomaStateManagerError Tickets := query (Table.insertRow t stackSmallId ticket.columns)

/-- `serde_json` of the requested nodes, as `i64` numbers. -/
def parseRequestedNodes (requested : List UInt64) : Except AtomaStateManagerError (List Int64) :=
  requested.mapM fun n =>
    if n.toNat < 2 ^ 63 then .ok n.toInt64 else .error (.jsonParseError "invalid value: integer, expected i64")

/-- `&bytes[..32]`. -/
def firstSlot (bytes : List UInt8) : Ending AtomaStateManagerError (List UInt8) :=
  if bytes.length < 32 then .panic else .ok (bytes.take 32)

/-- What the commitments of the node with that index do to a ticket. -/
def StackSettlementTicket.commit (ticket : StackSettlementTicket) (index : Nat) (attestationNodeId : Int64)
    (committedStackProof stackMerkleLeaf : List UInt8) : Ending AtomaStateManagerError StackSettlementTicket :=
  let stop := (index + 1) * 32 + 32
  if stop > ticket.stackMerkleLeaves.length then .err .invalidMerkleLeafLength
  else if stop > ticket.committedStackProofs.length then .err .invalidCommittedStackProofLength
  else do
    let leaf ← firstSlot stackMerkleLeaf
    let proof ← firstSlot committedStackProof
    .ok { ticket with
      committedStackProofs := setSlot 32 (index + 1) proof ticket.committedStackProofs
      stackMerkleLeaves := setSlot 32 (index + 1) leaf ticket.stackMerkleLeaves
      alreadyAttestedNodes := ticket.alreadyAttestedNodes ++ [attestationNodeId] }

/-- `update_stack_settlement_ticket_with_attestation_commitments`. -/
def Tickets.updateWithAttestationCommitments (t : Tickets) (stackSmallId : Int64)
    (committedStackProof stackMerkleLeaf : List UInt8) (attestationNodeId : Int64) :
    Ending AtomaStateManagerError Tickets :=
  match t stackSmallId with
  | .none => .err (.databaseConnectionError .rowNotFound)
  | .some ticket => do
    let requestedNodes ← .ofExcept (parseRequestedNodes ticket.requestedAttestationNodes)
    match requestedNodes.idxOf? attestationNodeId with
    | .none => .err (.attestationNodeNotFound attestationNodeId)
    | .some index => do
      let ticket' ← ticket.commit index attestationNodeId committedStackProof stackMerkleLeaf
      .ok (Function.update t stackSmallId (.some ticket'))

structure NewStackSettlementAttestationEvent where
  stackSmallId : UInt64
  attestationNodeId : UInt64
  committedStackProof : List UInt8
  stackMerkleLeaf : List UInt8
  deriving DecidableEq, Repr

/-- `handle_new_stack_settlement_attestation_event`. -/
def Tickets.handleNewStackSettlementAttestationEvent (t : Tickets) (event : NewStackSettlementAttestationEvent) :
    Ending AtomaStateManagerError Tickets :=
  t.updateWithAttestationCommitments event.stackSmallId.toInt64 event.committedStackProof event.stackMerkleLeaf
    event.attestationNodeId.toInt64

/-- The tickets after it: an error or a panic leaves them as they were. -/
def Tickets.afterAttestation (t : Tickets) (event : NewStackSettlementAttestationEvent) : Tickets :=
  match t.handleNewStackSettlementAttestationEvent event with
  | .ok t' => t'
  | _ => t

end AtomaProxy
