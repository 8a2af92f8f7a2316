/-
The records of settlements: the tickets, what is settled and claimed of them,
and the disputes about the stacks.

A ticket stays as its event made it, but for its attestations, the epoch it was
settled at last and the amount that was claimed of it last. What comes before
the ticket, or for a stack without one, is lost without an error; a dispute is
recorded beside the ticket, which never says that it is in one. Of the
statements that reserve units of a stack only the one that looks for a model
looks at the ticket, and it passes over one that was claimed.
-/
import AtomaProxy.Base.Log
import AtomaProxy.Base.Rows
import AtomaProxy.State.StackLifecycle
import AtomaProxy.State.StackStats

namespace AtomaProxy

open Base

/-! ## The statements -/

/-- A row of `stack_attestation_disputes`. -/
structure StackAttestationDispute where
  stackSmallId : Int64
  attestationCommitment : List UInt8
  attestationNodeId : Int64
  originalNodeId : Int64
  originalCommitment : List UInt8
  deriving DecidableEq, Repr

structure StackAttestationDisputeEvent where
  stackSmallId : UInt64
  attestationCommitment : List UInt8
  attestationNodeId : UInt64
  originalNodeId : UInt64
  originalCommitment : List UInt8
  deriving DecidableEq, Repr

/-- `From<StackAttestationDisputeEvent> for StackAttestationDispute`. -/
def StackAttestationDisputeEvent.toDispute (event : StackAttestationDisputeEvent) : StackAttestationDispute where
  stackSmallId := event.stackSmallId.toInt64
  attestationCommitment := event.attestationCommitment
  attestationNodeId := event.attestationNodeId.toInt64
  originalNodeId := event.originalNodeId.toInt64
  originalCommitment := event.originalCommitment

/-- The PRIMARY KEY. -/
def StackAttestationDispute.key (dispute : StackAttestationDispute) : Int64 × Int64 :=
  (dispute.stackSmallId, dispute.attestationNodeId)

/-- The columns of the type `integer`. -/
def StackAttestationDispute.columns (dispute : StackAttestationDispute) : Except SqlError StackAttestationDispute := do
  let attestationNodeId ← int4 dispute.attestationNodeId
  let originalNodeId ← int4 dispute.originalNodeId
  .ok { dispute with attestationNodeId, originalNodeId }

/-- `insert_stack_attestation_dispute`. -/
def insertStackAttestationDispute (disputes : List StackAttestationDispute) (dispute : StackAttestationDispute) :
    Except AtomaStateManagerError (List StackAttestationDispute) :=
  query do
    let row ← dispute.columns
    insertNew (fun r => r.key = row.key) row disputes

/-- `UPDATE stack_settlement_tickets … WHERE stack_small_id = id`: without a ticket nothing is done. -/
def Tickets.updateTicket (t : Tickets) (stackSmallId : Int64) (f : StackSettlementTicket → StackSettlementTicket) :
    Tickets := Function.update t stackSmallId ((t stackSmallId).map f)

/-- `settle_stack_settlement_ticket`. -/
def Tickets.settleStackSettlementTicket (t : Tickets) (stackSmallId disputeSettledAtEpoch : Int64) :
    Except AtomaStateManagerError Tickets := do
  let epoch ← query (int4 disputeSettledAtEpoch)
  .ok (t.updateTicket stackSmallId fun ticket => { ticket with disputeSettledAtEpoch := .some epoch })

/-- `update_stack_settlement_ticket_with_claim`. -/
def Tickets.updateWithClaim (t : Tickets) (stackSmallId userRefundAmount : Int64) :
    Except AtomaStateManagerError Tickets := do
  let userRefundAmount ← query (int4 userRefundAmount)
  .ok (t.updateTicket stackSmallId fun ticket => { ticket with userRefundAmount, isClaimed := true })

/-! ## The events -/

inductive SettlementEvent where
  | stackTrySettle (event : StackTrySettleEvent)
  | newStackSettlementAttestation (event : NewStackSettlementAttestationEvent)
  | stackSettlementTicket (stackSmallId disputeSettledAtEpoch : UInt64)
  | stackSettlementTicketClaimed (stackSmallId userRefundAmount : UInt64)
  | stackAttestationDispute (event : StackAttestationDisputeEvent)
  deriving DecidableEq, Repr

structure SettlementTables where
  stats : StatsTables
  disputes : List StackAttestationDispute

/-- `handle_stack_try_settle_event` to `handle_stack_attestation_dispute_event`, as `handle_atoma_event` calls them. -/
def SettlementTables.handleEvent (s : SettlementTables) (now : Nat) :
    SettlementEvent → Ending AtomaStateManagerError SettlementTables
  | .stackTrySettle event => do
    let stats ← .ofExcept (s.stats.handleStackTrySettleEvent now event)
    .ok { s with stats }
  | .newStackSettlementAttestation event => do
    let tickets ← s.stats.tickets.handleNewStackSettlementAttestationEvent event
    .ok { s with stats.tickets := tickets }
  | .stackSettlementTicket stackSmallId disputeSettledAtEpoch => do
    let tickets ← .ofExcept
      (s.stats.tickets.settleStackSettlementTicket stackSmallId.toInt64 disputeSettledAtEpoch.toInt64)
    .ok { s with stats.tickets := tickets }
  | .stackSettlementTicketClaimed stackSmallId userRefundAmount => do
    let tickets ← .ofExcept (s.stats.tickets.updateWithClaim stackSmallId.toInt64 userRefundAmount.toInt64)
    .ok { s with stats.tickets := tickets }
  | .stackAttestationDispute event => do
    let disputes ← .ofExcept (insertStackAttestationDispute s.disputes event.toDispute)
    .ok { s with disputes }

/-! ## The run -/

/-- What came of an event, or which stack a request reserved on. -/
inductive SettlementEntry where
  | accepted (event : SettlementEvent)
  | refused (event : SettlementEvent) (error : AtomaStateManagerError)
  | reserved (request : StackRequest) (stackSmallId : Int64)

structure SettlementServer where
  tables : SettlementTables
  ledger : StackState
  handled : List SettlementEntry

def SettlementServer.empty (c : Catalog) : SettlementServer :=
  ⟨⟨⟨fun _ => .none, fun _ => .none⟩, []⟩, StackState.empty c, []⟩

/-- An event of the chain, at a time of the clock and whether the database fails it, or one of the stacks. -/
inductive SettlementStep where
  | chain (now : Nat) (event : SettlementEvent) (fails : Bool)
  | stack (ev : StackEvent)

/-- The stacks, whose statements read the tickets there are. -/
def SettlementServer.stacks (s : SettlementServer) : StackState :=
  { s.ledger with tables.catalog.ticketIsClaimed := fun id => (s.tables.stats.tickets id).map (·.isClaimed) }

/-- What is noted of an event of the stacks. -/
def SettlementServer.reservation (s : SettlementServer) : StackEvent → Option SettlementEntry
  | .reserve request units => (s.stacks.tables.reservedBy units.toInt64 request).map (.reserved request)
  | _ => .none

/-- A handler that panics ends the run. -/
def settlementMachine : Machine SettlementServer SettlementStep where
  step s
    | .chain now event fails =>
      match if fails then .err (.databaseConnectionError .unavailable) else s.tables.handleEvent now event with
      | .ok tables => .some { s with tables, handled := s.handled ++ [.accepted event] }
      | .err error => .some { s with handled := s.handled ++ [.refused event error] }
      | .panic => .none
    | .stack ev =>
      .some { s with ledger := stackStep s.stacks ev, handled := s.handled ++ (s.reservation ev).toList }

/-! ## What is recorded of the events -/

namespace SettlementEvent

/-- The event makes the ticket of the stack. -/
def opens (id : Int64) : SettlementEvent → Option StackTrySettleEvent
  | stackTrySettle event => if event.stackSmallId.toInt64 = id then .some event else .none
  | _ => .none

/-- The epoch that the event settles the stack's ticket at. -/
def settledAt (id : Int64) : SettlementEvent → Option Int64
  | stackSettlementTicket stackSmallId epoch => if stackSmallId.toInt64 = id then .some epoch.toInt64 else .none
  | _ => .none

/-- The refund of a claim of the stack's ticket. -/
def refund (id : Int64) : SettlementEvent → Option Int64
  | stackSettlementTicketClaimed stackSmallId amount => if stackSmallId.toInt64 = id then .some amount.toInt64 else .none
  | _ => .none

def dispute : SettlementEvent → Option StackAttestationDispute
  | stackAttestationDispute event => .some event.toDispute
  | _ => .none

end SettlementEvent

/-- The events that were accepted, in order. -/
def accepted (handled : List SettlementEntry) : List SettlementEvent :=
  handled.filterMap fun
    | .accepted event => .some event
    | _ => .none

/-- The event that made the stack's ticket, and those after it. -/
def opened (id : Int64) : List SettlementEvent → Option (StackTrySettleEvent × List SettlementEvent)
  | [] => .none
  | e :: es =>
    match e.opens id with
    | .some event => .some (event, es)
    | .none => opened id es

/-- The ticket that an event made, after others. -/
structure StackSettlementTicket.IsOf (id : Int64) (event : StackTrySettleEvent) (after : List SettlementEvent)
    (ticket : StackSettlementTicket) : Prop where
  selectedNodeId : ticket.selectedNodeId = event.selectedNodeId.toInt64
  numClaimedComputeUnits : ticket.numClaimedComputeUnits = event.numClaimedComputeUnits.toInt64
  requestedAttestationNodes : ticket.requestedAttestationNodes = event.requestedAttestationNodes
  isInDispute : ticket.isInDispute = false
  disputeSettledAtEpoch : ticket.disputeSettledAtEpoch = (after.filterMap (·.settledAt id)).getLast?
  userRefundAmount : ticket.userRefundAmount = (after.filterMap (·.refund id)).getLast?.getD 0
  isClaimed : ticket.isClaimed = (after.filterMap (·.refund id)).getLast?.isSome

/-- A stack has a ticket if one was made, and it is of the events. -/
def TicketOf (id : Int64) (events : List SettlementEvent) (row : Option StackSettlementTicket) : Prop :=
  match opened id events, row with
  | .none, .none => True
  | .some (event, after), .some ticket => ticket.IsOf id event after
  | _, _ => False

/-- The ticket of the stack was claimed. -/
def TicketClaimed (id : Int64) (events : List SettlementEvent) : Prop :=
  ∃ event after, opened id events = .some (event, after) ∧ ∃ e ∈ after, (e.refund id).isSome = true

def IsInt4 (a : Int64) : Prop := -2147483648 ≤ a.toInt ∧ a.toInt < 2147483648

/-- Of the events accepted before it, an event that is accepted. -/
def SettlementEvent.AcceptedAfter (before : List SettlementEvent) : SettlementEvent → Prop
  | stackTrySettle event => opened event.stackSmallId.toInt64 before = .none ∧
    IsInt4 event.selectedNodeId.toInt64 ∧ IsInt4 event.numClaimedComputeUnits.toInt64
  | newStackSettlementAttestation event => (opened event.stackSmallId.toInt64 before).isSome = true
  | stackSettlementTicket _ epoch => IsInt4 epoch.toInt64
  | stackSettlementTicketClaimed _ amount => IsInt4 amount.toInt64
  | stackAttestationDispute event => IsInt4 event.attestationNodeId.toInt64 ∧ IsInt4 event.originalNodeId.toInt64 ∧
    ∀ d ∈ before.filterMap SettlementEvent.dispute, d.key ≠ event.toDispute.key

/-- An event that is refused, and how. -/
def SettlementEvent.RefusedAfter (before : List SettlementEvent) (error : AtomaStateManagerError) :
    SettlementEvent → Prop
  | stackTrySettle event => error = .databaseConnectionError .outOfRange ∨
    error = .databaseConnectionError .uniqueViolation ∧ (opened event.stackSmallId.toInt64 before).isSome = true
  | newStackSettlementAttestation event => error = .databaseConnectionError .rowNotFound ∨
    (opened event.stackSmallId.toInt64 before).isSome = true
  | stackSettlementTicket _ epoch => error = .databaseConnectionError .outOfRange ∧ ¬ IsInt4 epoch.toInt64
  | stackSettlementTicketClaimed _ amount => error = .databaseConnectionError .outOfRange ∧ ¬ IsInt4 amount.toInt64
  | stackAttestationDispute event =>
    error = .databaseConnectionError .outOfRange ∧
      ¬ (IsInt4 event.attestationNodeId.toInt64 ∧ IsInt4 event.originalNodeId.toInt64) ∨
    error = .databaseConnectionError .uniqueViolation ∧
      ∃ d ∈ before.filterMap SettlementEvent.dispute, d.key = event.toDispute.key

def SettlementEntry.AccountedFor (before : List SettlementEntry) : SettlementEntry → Prop
  | .accepted event => event.AcceptedAfter (AtomaProxy.accepted before)
  | .refused event error => error = .databaseConnectionError .unavailable ∨
    event.RefusedAfter (AtomaProxy.accepted before) error
  | .reserved (.getStacksForModel ..) id => ¬ TicketClaimed id (AtomaProxy.accepted before)
  | .reserved _ _ => True

/-! ## A ticket, one event more -/

section

variable {id : Int64} {events after : List SettlementEvent} {e : SettlementEvent} {event : StackTrySettleEvent}
  {ticket : StackSettlementTicket} {row : Option StackSettlementTicket}

theorem opened_concat (id : Int64) (e : SettlementEvent) : ∀ events : List SettlementEvent,
    opened id (events ++ [e]) = match opened id events with
      | .some (event, after) => .some (event, after ++ [e])
      | .none => (e.opens id).map (·, [])
  | [] => by
    show (match e.opens id with
      | .some event => Option.some (event, [])
      | .none => .none) = (e.opens id).map (·, [])
    cases e.opens id <;> rfl
  | first :: events => by
    rw [List.cons_append, opened, opened]
    cases first.opens id with
    | some event => rfl
    | none => exact opened_concat id e events

theorem TicketOf.isSome_eq (h : TicketOf id events row) : (opened id events).isSome = row.isSome := by
  unfold TicketOf at h
  split at h
  · next hopened =>
    rw [hopened]
    rfl
  · next hopened =>
    rw [hopened]
    rfl
  · cases h

/-- An event that is neither a settlement nor a claim of the ticket. -/
theorem StackSettlementTicket.IsOf.other (h : ticket.IsOf id event after) (hsettled : e.settledAt id = .none)
    (hrefund : e.refund id = .none) : ticket.IsOf id event (after ++ [e]) := by
  have hnil : ∀ f : SettlementEvent → Option Int64, f e = .none → (after ++ [e]).filterMap f = after.filterMap f := by
    intro f hf
    rw [List.filterMap_append, List.filterMap_cons_none hf, List.filterMap_nil, List.append_nil]
  refine ⟨h.selectedNodeId, h.numClaimedComputeUnits, h.requestedAttestationNodes, h.isInDispute, ?_, ?_, ?_⟩
  · rw [h.disputeSettledAtEpoch, hnil _ hsettled]
  · rw [h.userRefundAmount, hnil _ hrefund]
  · rw [h.isClaimed, hnil _ hrefund]

theorem StackSettlementTicket.IsOf.settle (h : ticket.IsOf id event after) {epoch : Int64}
    (hsettled : e.settledAt id = .some epoch) (hrefund : e.refund id = .none) :
    { ticket with disputeSettledAtEpoch := .some epoch }.IsOf id event (after ++ [e]) := by
  have hnil : (after ++ [e]).filterMap (·.refund id) = after.filterMap (·.refund id) := by
    rw [List.filterMap_append, List.filterMap_cons_none hrefund, List.filterMap_nil, List.append_nil]
  refine ⟨h.selectedNodeId, h.numClaimedComputeUnits, h.requestedAttestationNodes, h.isInDispute, ?_, ?_, ?_⟩
  · rw [List.filterMap_append, List.filterMap_cons_some hsettled, List.filterMap_nil, List.getLast?_concat]
  · rw [hnil]
    exact h.userRefundAmount
  · rw [hnil]
    exact h.isClaimed

theorem StackSettlementTicket.IsOf.claim (h : ticket.IsOf id event after) {amount : Int64}
    (hsettled : e.settledAt id = .none) (hrefund : e.refund id = .some amount) :
    { ticket with userRefundAmount := amount, isClaimed := true }.IsOf id event (after ++ [e]) := by
  have hlast : ((after ++ [e]).filterMap (·.refund id)).getLast? = .some amount := by
    rw [List.filterMap_append, List.filterMap_cons_some hrefund, List.filterMap_nil, List.getLast?_concat]
  refine ⟨h.selectedNodeId, h.numClaimedComputeUnits, h.requestedAttestationNodes, h.isInDispute, ?_, ?_, ?_⟩
  · rw [List.filterMap_append, List.filterMap_cons_none hsettled, List.filterMap_nil, List.append_nil]
    exact h.disputeSettledAtEpoch
  · rw [hlast]
    rfl
  · rw [hlast]
    rfl

/-- The row after an event that makes no ticket. -/
theorem TicketOf.concat (h : TicketOf id events row) (hopens : e.opens id = .none)
    {f : StackSettlementTicket → StackSettlementTicket}
    (hf : ∀ {event after ticket}, ticket.IsOf id event after → (f ticket).IsOf id event (after ++ [e])) :
    TicketOf id (events ++ [e]) (row.map f) := by
  unfold TicketOf at h ⊢
  rw [opened_concat, hopens]
  cases hopened : opened id events with
  | none =>
    rw [hopened] at h
    cases row with
    | none => trivial
    | some ticket => cases h
  | some o =>
    rw [hopened] at h
    cases row with
    | none => cases h
    | some ticket => exact hf h

/-- The row after an event of another. -/
theorem TicketOf.other (h : TicketOf id events row)
    (hother : e.opens id = .none ∧ e.settledAt id = .none ∧ e.refund id = .none) : TicketOf id (events ++ [e]) row := by
  obtain ⟨hopens, hsettled, hrefund⟩ := hother
  have hconcat := h.concat (f := fun ticket => ticket) hopens fun h => h.other hsettled hrefund
  rw [Option.map_id_fun'] at hconcat
  exact hconcat

/-- A ticket that is made. -/
theorem TicketOf.open (h : TicketOf id events .none) (hopens : e.opens id = .some event) :
    TicketOf id (events ++ [e]) (.some event.toTicket) := by
  have hnone := h.isSome_eq
  rw [Option.isSome_none, Option.isSome_eq_false_iff, Option.isNone_iff_eq_none] at hnone
  unfold TicketOf
  rw [opened_concat, hnone, hopens]
  exact ⟨rfl, rfl, rfl, rfl, rfl, rfl, rfl⟩

/-- A stack's ticket is claimed if its row says so. -/
theorem TicketOf.claimed (h : TicketOf id events row) (hclaimed : TicketClaimed id events) :
    ∃ ticket, row = .some ticket ∧ ticket.isClaimed = true := by
  obtain ⟨event, after, hopened, e, hmem, he⟩ := hclaimed
  unfold TicketOf at h
  rw [hopened] at h
  cases row with
  | none => cases h
  | some ticket =>
    refine ⟨ticket, rfl, ?_⟩
    obtain ⟨amount, hamount⟩ := Option.isSome_iff_exists.1 he
    have hne : after.filterMap (·.refund id) ≠ [] :=
      List.ne_nil_of_mem (List.mem_filterMap.2 ⟨e, hmem, hamount⟩)
    rw [StackSettlementTicket.IsOf.isClaimed h, List.getLast?_isSome]
    exact hne

end

/-! ## The tables, one event more -/

/-- The tables are what the events made of them. -/
structure SettlementTables.RecordOf (events : List SettlementEvent) (s : SettlementTables) : Prop where
  tickets : ∀ id, TicketOf id events (s.stats.tickets id)
  disputes : s.disputes = events.filterMap SettlementEvent.dispute

section

variable {s s' : SettlementTables} {events : List SettlementEvent} {e : SettlementEvent} {t : Tickets}

/-- An event of one stack's ticket, which is there already. -/
theorem ticketOf_updateTicket (h : ∀ id, TicketOf id events (t id)) (stackSmallId : Int64)
    {f : StackSettlementTicket → StackSettlementTicket} (hopens : ∀ id, e.opens id = .none)
    (hother : ∀ id, id ≠ stackSmallId → e.settledAt id = .none ∧ e.refund id = .none)
    (hf : ∀ {event after ticket}, StackSettlementTicket.IsOf stackSmallId event after ticket →
      (f ticket).IsOf stackSmallId event (after ++ [e])) (id : Int64) :
    TicketOf id (events ++ [e]) (t.updateTicket stackSmallId f id) := by
  rw [Tickets.updateTicket]
  by_cases hid : id = stackSmallId
  · subst hid
    rw [Function.update_self]
    exact (h id).concat (hopens id) hf
  · rw [Function.update_of_ne hid]
    exact (h id).other ⟨hopens id, hother id hid⟩

/-- What an attestation leaves of its ticket. -/
theorem handleNewStackSettlementAttestationEvent_ok {event : NewStackSettlementAttestationEvent} {t' : Tickets}
    (h : t.handleNewStackSettlementAttestationEvent event = .ok t') :
    (t event.stackSmallId.toInt64).isSome = true ∧ ∃ proofs leaves nodes, t' = t.updateTicket event.stackSmallId.toInt64
      fun ticket => { ticket with
        committedStackProofs := proofs, stackMerkleLeaves := leaves, alreadyAttestedNodes := nodes } := by
  unfold Tickets.handleNewStackSettlementAttestationEvent Tickets.updateWithAttestationCommitments at h
  split at h
  · cases h
  · next ticket hticket =>
    obtain ⟨requested, _, h⟩ := Ending.bind_eq_ok.1 h
    split at h
    · cases h
    · next index _ =>
      obtain ⟨ticket', hcommit, h⟩ := Ending.bind_eq_ok.1 h
      cases h
      refine ⟨by rw [hticket, Option.isSome_some], ?_⟩
      unfold StackSettlementTicket.commit at hcommit
      dsimp only at hcommit
      split at hcommit
      · cases hcommit
      · split at hcommit
        · cases hcommit
        · obtain ⟨leaf, _, hcommit⟩ := Ending.bind_eq_ok.1 hcommit
          obtain ⟨proof, _, hcommit⟩ := Ending.bind_eq_ok.1 hcommit
          cases hcommit
          refine ⟨setSlot 32 (index + 1) proof ticket.committedStackProofs,
            setSlot 32 (index + 1) leaf ticket.stackMerkleLeaves,
            ticket.alreadyAttestedNodes ++ [event.attestationNodeId.toInt64], ?_⟩
          rw [Tickets.updateTicket, hticket, Option.map_some]

theorem StackAttestationDispute.columns_ok {d d' : StackAttestationDispute} : d.columns = .ok d' ↔
    IsInt4 d.attestationNodeId ∧ IsInt4 d.originalNodeId ∧ d' = d := by
  simp only [columns, ok_bind_iff, int4_eq_ok, Except.ok.injEq, IsInt4]
  constructor
  · rintro ⟨_, ⟨h, rfl⟩, _, ⟨h', rfl⟩, rfl⟩
    exact ⟨h, h', rfl⟩
  · rintro ⟨h, h', rfl⟩
    exact ⟨_, ⟨h, rfl⟩, _, ⟨h', rfl⟩, rfl⟩

theorem insertStackAttestationDispute_ok {disputes disputes' : List StackAttestationDispute}
    {d : StackAttestationDispute} (h : insertStackAttestationDispute disputes d = .ok disputes') :
    IsInt4 d.attestationNodeId ∧ IsInt4 d.originalNodeId ∧ (∀ r ∈ disputes, r.key ≠ d.key) ∧
      disputes' = disputes ++ [d] := by
  obtain ⟨row, hcolumns, hinsert⟩ := ok_bind_iff.1 (query_eq_ok.1 h)
  obtain ⟨hnode, horiginal, rfl⟩ := StackAttestationDispute.columns_ok.1 hcolumns
  obtain ⟨hclash, hdisputes⟩ := insertNew_ok.1 hinsert
  exact ⟨hnode, horiginal, fun r hr => of_decide_eq_false (hclash r hr), hdisputes⟩

/-- **What an event that is accepted makes of the tables.** -/
theorem SettlementTables.RecordOf.of_accepted (h : s.RecordOf events) {now : Nat}
    (hok : s.handleEvent now e = .ok s') : s'.RecordOf (events ++ [e]) ∧ e.AcceptedAfter events := by
  have hsame : e.dispute = .none → s.disputes = (events ++ [e]).filterMap SettlementEvent.dispute := by
    intro hnone
    rw [List.filterMap_append, List.filterMap_cons_none hnone, List.filterMap_nil, List.append_nil]
    exact h.disputes
  cases e with
  | stackTrySettle event =>
    obtain ⟨stats, hstats, hok⟩ := Ending.bind_eq_ok.1 hok
    cases hok
    obtain ⟨tickets, htickets, hstats⟩ := ok_bind_iff.1 (Ending.ofExcept_eq_ok.1 hstats)
    obtain ⟨stats', _, hstats⟩ := ok_bind_iff.1 hstats
    cases hstats
    obtain ⟨ticket, hcolumns, hnone, rfl⟩ := Table.insertRow_ok.1 (query_eq_ok.1 htickets)
    obtain ⟨hnode, hclaimed, _, rfl⟩ := StackSettlementTicket.columns_ok.1 hcolumns
    have hopened := (h.tickets event.stackSmallId.toInt64).isSome_eq
    rw [hnone, Option.isSome_none, Option.isSome_eq_false_iff, Option.isNone_iff_eq_none] at hopened
    refine ⟨⟨fun id => ?_, hsame rfl⟩, hopened, hnode, hclaimed⟩
    dsimp only
    by_cases hid : id = event.stackSmallId.toInt64
    · subst hid
      rw [Function.update_self]
      have hticket := h.tickets event.stackSmallId.toInt64
      rw [hnone] at hticket
      exact hticket.open (if_pos rfl)
    · rw [Function.update_of_ne hid]
      exact (h.tickets id).other ⟨if_neg fun heq => hid heq.symm, rfl, rfl⟩
  | newStackSettlementAttestation event =>
    obtain ⟨tickets, htickets, hok⟩ := Ending.bind_eq_ok.1 hok
    cases hok
    obtain ⟨hsome, proofs, leaves, nodes, rfl⟩ := handleNewStackSettlementAttestationEvent_ok htickets
    refine ⟨⟨?_, hsame rfl⟩, ?_⟩
    · refine ticketOf_updateTicket h.tickets _ (fun _ => rfl) (fun _ _ => ⟨rfl, rfl⟩) fun h => ?_
      obtain ⟨h1, h2, h3, h4, h5, h6, h7⟩ := h.other (e := .newStackSettlementAttestation event) rfl rfl
      exact ⟨h1, h2, h3, h4, h5, h6, h7⟩
    · exact (h.tickets _).isSome_eq.trans hsome
  | stackSettlementTicket stackSmallId epoch =>
    obtain ⟨tickets, htickets, hok⟩ := Ending.bind_eq_ok.1 hok
    cases hok
    obtain ⟨epoch', hepoch, htickets⟩ := ok_bind_iff.1 (Ending.ofExcept_eq_ok.1 htickets)
    obtain ⟨hint, rfl⟩ := int4_eq_ok.1 (query_eq_ok.1 hepoch)
    cases htickets
    refine ⟨⟨?_, hsame rfl⟩, hint⟩
    refine ticketOf_updateTicket h.tickets _ (fun _ => rfl) (fun id hid => ⟨if_neg fun heq => hid heq.symm, rfl⟩) fun h => ?_
    exact h.settle (if_pos rfl) rfl
  | stackSettlementTicketClaimed stackSmallId amount =>
    obtain ⟨tickets, htickets, hok⟩ := Ending.bind_eq_ok.1 hok
    cases hok
    obtain ⟨amount', hamount, htickets⟩ := ok_bind_iff.1 (Ending.ofExcept_eq_ok.1 htickets)
    obtain ⟨hint, rfl⟩ := int4_eq_ok.1 (query_eq_ok.1 hamount)
    cases htickets
    refine ⟨⟨?_, hsame rfl⟩, hint⟩
    refine ticketOf_updateTicket h.tickets _ (fun _ => rfl) (fun id hid => ⟨rfl, if_neg fun heq => hid heq.symm⟩) fun h => ?_
    exact h.claim rfl (if_pos rfl)
  | stackAttestationDispute event =>
    obtain ⟨disputes, hdisputes, hok⟩ := Ending.bind_eq_ok.1 hok
    cases hok
    obtain ⟨hnode, horiginal, hnew, rfl⟩ := insertStackAttestationDispute_ok (Ending.ofExcept_eq_ok.1 hdisputes)
    refine ⟨⟨fun id => (h.tickets id).other ⟨rfl, rfl, rfl⟩, ?_⟩, hnode, horiginal, ?_⟩
    · dsimp only
      rw [List.filterMap_append, h.disputes]
      rfl
    · rw [← h.disputes]
      exact hnew

/-! ## Refusals -/

theorem errorsAre_query {α : Type _} {P : AtomaStateManagerError → Prop} {x : Except SqlError α}
    (h : ErrorsAre (fun err => P (.databaseConnectionError err)) x) : ErrorsAre P (query x) := by
  cases x with
  | ok a => exact errorsAre_ok a
  | error err => exact errorsAre_error (h err rfl)

theorem errorsAre_int4 (a : Int64) : ErrorsAre (fun err => err = .outOfRange ∧ ¬ IsInt4 a) (int4 a) := by
  unfold int4
  split
  · exact errorsAre_ok a
  · next hint => exact errorsAre_error ⟨rfl, hint⟩

theorem errorsAre_bigintAdd (a b : Int64) : ErrorsAre (· = .outOfRange) (bigintAdd a b) := by
  unfold bigintAdd bigint
  split
  · exact errorsAre_ok _
  · exact errorsAre_error rfl

/-- The hour's row of the statistics can only be too small. -/
theorem errorsAre_add (t : StatsStacks) (now : Nat) (units : StatsStack) :
    ErrorsAre (· = .outOfRange) (t.add (hourOf now * microsPerHour) units) := by
  unfold StatsStacks.add
  rw [checkWholeHour_ok.2 ⟨hourOf now, rfl⟩]
  show ErrorsAre (· = .outOfRange) (t.upsertRow _ _ _)
  unfold Table.upsertRow
  split
  · exact errorsAre_ok _
  · exact (((errorsAre_bigintAdd _ _).bind fun _ _ => (errorsAre_bigintAdd _ _).bind fun _ _ => errorsAre_ok _)).bind
      fun _ _ => errorsAre_ok _

/-- An attestation without a ticket finds no row. -/
theorem handleNewStackSettlementAttestationEvent_err {event : NewStackSettlementAttestationEvent}
    {error : AtomaStateManagerError} (h : t.handleNewStackSettlementAttestationEvent event = .err error) :
    error = .databaseConnectionError .rowNotFound ∨ (t event.stackSmallId.toInt64).isSome = true := by
  unfold Tickets.handleNewStackSettlementAttestationEvent Tickets.updateWithAttestationCommitments at h
  split at h
  · cases h
    exact .inl rfl
  · next ticket hticket => exact .inr (by rw [hticket, Option.isSome_some])

/-- The error of a handler is that of its statements. -/
theorem err_of_bind_ok {ε α β : Type _} {x : Ending ε α} {f : α → β} {error : ε}
    (h : (x >>= fun a => Ending.ok (f a)) = .err error) : x = .err error := by
  cases x with
  | ok a => cases h
  | err e =>
    cases h
    rfl
  | panic => cases h

theorem error_of_bind_ok {ε α β : Type _} {x : Except ε α} {f : α → β} {error : ε}
    (h : (Ending.ofExcept x >>= fun a => Ending.ok (f a)) = .err error) : x = .error error := by
  cases x with
  | ok a => cases h
  | error e =>
    cases h
    rfl

/-- **How an event is refused.** -/
theorem SettlementTables.RecordOf.of_refused (h : s.RecordOf events) {now : Nat} {error : AtomaStateManagerError}
    (herr : s.handleEvent now e = .err error) : e.RefusedAfter events error := by
  cases e with
  | stackTrySettle event =>
    suffices herrors : ErrorsAre (fun error => SettlementEvent.RefusedAfter events error (.stackTrySettle event))
        (s.stats.handleStackTrySettleEvent now event) from herrors error (error_of_bind_ok herr)
    refine ErrorsAre.bind (errorsAre_query ?_) fun tickets _ => ?_
    · refine ErrorsAre.bind ?_ fun row _ => ?_
      · have hint : ∀ a, ErrorsAre (fun err => SettlementEvent.RefusedAfter events (.databaseConnectionError err)
            (.stackTrySettle event)) (int4 a) := fun a err herr => .inl (congrArg _ (errorsAre_int4 a err herr).1)
        exact (hint _).bind fun _ _ => (hint _).bind fun _ _ => (hint _).bind fun _ _ => errorsAre_ok _
      · split
        · exact errorsAre_ok _
        · next ticket hticket =>
          refine errorsAre_error (.inr ⟨rfl, ?_⟩)
          rw [(h.tickets _).isSome_eq, hticket, Option.isSome_some]
    · refine ErrorsAre.bind (errorsAre_query ?_) fun _ _ => errorsAre_ok _
      rw [timestamptz_truncated]
      exact fun err herr => .inl (congrArg _ (errorsAre_add _ _ _ err herr))
  | newStackSettlementAttestation event =>
    show _ ∨ (opened event.stackSmallId.toInt64 events).isSome = true
    rw [(h.tickets _).isSome_eq]
    exact handleNewStackSettlementAttestationEvent_err (err_of_bind_ok herr)
  | stackSettlementTicket stackSmallId epoch =>
    suffices herrors : ErrorsAre (fun error => SettlementEvent.RefusedAfter events error
        (.stackSettlementTicket stackSmallId epoch)) _ from herrors error (error_of_bind_ok herr)
    refine ErrorsAre.bind (errorsAre_query ?_) fun _ _ => errorsAre_ok _
    exact fun err herr => (errorsAre_int4 _ err herr).imp_left (congrArg _)
  | stackSettlementTicketClaimed stackSmallId amount =>
    suffices herrors : ErrorsAre (fun error => SettlementEvent.RefusedAfter events error
        (.stackSettlementTicketClaimed stackSmallId amount)) _ from herrors error (error_of_bind_ok herr)
    refine ErrorsAre.bind (errorsAre_query ?_) fun _ _ => errorsAre_ok _
    exact fun err herr => (errorsAre_int4 _ err herr).imp_left (congrArg _)
  | stackAttestationDispute event =>
    suffices herrors : ErrorsAre (fun error => SettlementEvent.RefusedAfter events error
        (.stackAttestationDispute event)) (insertStackAttestationDispute s.disputes event.toDispute) from
      herrors error (error_of_bind_ok herr)
    refine errorsAre_query (ErrorsAre.bind ?_ fun row hrow => ?_)
    · refine ErrorsAre.bind (fun err herr => ?_) fun _ _ => ErrorsAre.bind (fun err herr => ?_) fun _ _ => errorsAre_ok _
      · obtain ⟨rfl, hint⟩ := errorsAre_int4 _ err herr
        exact .inl ⟨rfl, fun hboth => hint hboth.1⟩
      · obtain ⟨rfl, hint⟩ := errorsAre_int4 _ err herr
        exact .inl ⟨rfl, fun hboth => hint hboth.2⟩
    · obtain ⟨_, _, rfl⟩ := StackAttestationDispute.columns_ok.1 hrow
      intro err herr
      obtain ⟨d, hd, hkey⟩ := insertNew_error herr
      rw [h.disputes] at hd
      refine .inr ⟨?_, d, hd, of_decide_eq_true hkey⟩
      unfold insertNew at herr
      split at herr
      · cases herr
        rfl
      · cases herr

end

/-! ## Runs -/

/-- A stack that is reserved on for its model has no ticket that says it is claimed. -/
theorem ticketIsClaimed_of_reservedBy {s : StackTables} {units id userId : Int64} {pick : Option Int64} {model : String}
    {isConfidential : Bool}
    (h : s.reservedBy units (.getStacksForModel pick model userId isConfidential) = .some id) :
    s.catalog.ticketIsClaimed id ≠ .some true := by
  unfold StackTables.reservedBy at h
  split at h
  · next found row s' hreserve =>
    cases h
    obtain ⟨_, stack, _, hclauses, _⟩ := StackTables.reserve_some_iff.1 ⟨row, s', hreserve⟩
    unfold StackRequest.clauses at hclauses
    dsimp only at hclauses
    split at hclauses
    · cases hclauses
    · obtain ⟨free, _, hclauses⟩ := ok_bind_iff.1 hclauses
      have hall := Except.ok.inj hclauses
      simp only [Bool.and_eq_true, bne_iff_ne] at hall
      exact hall.2
  · cases h

/-- The tables are what the events made of them, and every entry is accounted for. -/
structure SettlementServer.Recorded (s : SettlementServer) : Prop where
  tables : s.tables.RecordOf (accepted s.handled)
  accounted : Justified SettlementEntry.AccountedFor s.handled

theorem accepted_append (handled entries : List SettlementEntry) :
    accepted (handled ++ entries) = accepted handled ++ accepted entries := List.filterMap_append

theorem SettlementServer.recorded_empty (c : Catalog) : (SettlementServer.empty c).Recorded :=
  ⟨⟨fun _ => trivial, rfl⟩, justified_nil⟩

/-- A reservation is accounted for, and nothing is accepted with it. -/
theorem SettlementServer.Recorded.reservation {s : SettlementServer} (h : s.Recorded) {ev : StackEvent}
    {entry : SettlementEntry} (hentry : s.reservation ev = .some entry) :
    entry.AccountedFor s.handled ∧ accepted [entry] = [] := by
  cases ev with
  | reserve request units =>
    obtain ⟨id, hid, rfl⟩ := Option.map_eq_some_iff.1 hentry
    refine ⟨?_, rfl⟩
    cases request with
    | getStacksForModel pick model userId isConfidential =>
      intro hclaimed
      obtain ⟨ticket, hticket, hisClaimed⟩ := (h.tables.tickets id).claimed hclaimed
      refine ticketIsClaimed_of_reservedBy hid ?_
      show (s.tables.stats.tickets id).map (·.isClaimed) = .some true
      rw [hticket, Option.map_some, hisClaimed]
    | getStacksForTask pick taskSmallId userId => trivial
    | selectNodePublicKeyForEncryption pick model userId => trivial
    | getAvailableStackWithComputeUnits stackSmallId publicKey => trivial
    | lockComputeUnits stackSmallId => trivial
  | newStackAcquired event units userId => cases hentry
  | updateStackNumTokens id units totalTokens => cases hentry
  | lockStack id => cases hentry
  | updateStackClaimed id => cases hentry
  | catalogChange catalog => cases hentry

/-- An entry of nothing that was accepted. -/
theorem SettlementTables.RecordOf.note {tables : SettlementTables} {handled : List SettlementEntry}
    (h : tables.RecordOf (accepted handled)) {entry : SettlementEntry} (hentry : accepted [entry] = []) :
    tables.RecordOf (accepted (handled ++ [entry])) := by
  rw [accepted_append, hentry, List.append_nil]
  exact h

theorem SettlementServer.Recorded.step {s s' : SettlementServer} {step : SettlementStep} (h : s.Recorded)
    (hstep : settlementMachine.step s step = .some s') : s'.Recorded := by
  cases step with
  | chain now event fails =>
    dsimp only [settlementMachine] at hstep
    cases fails with
    | true =>
      cases hstep
      exact ⟨h.tables.note rfl, h.accounted.concat (.inl rfl)⟩
    | false =>
      rw [if_neg Bool.false_ne_true] at hstep
      cases hevent : s.tables.handleEvent now event with
      | ok tables =>
        rw [hevent] at hstep
        cases hstep
        obtain ⟨htables, haccepted⟩ := h.tables.of_accepted hevent
        refine ⟨?_, h.accounted.concat haccepted⟩
        rw [accepted_append]
        exact htables
      | err error =>
        rw [hevent] at hstep
        cases hstep
        exact ⟨h.tables.note rfl, h.accounted.concat (.inr (h.tables.of_refused hevent))⟩
      | panic =>
        rw [hevent] at hstep
        cases hstep
  | stack ev =>
    cases hstep
    cases hentry : s.reservation ev with
    | none =>
      refine ⟨?_, ?_⟩ <;> rw [Option.toList_none, List.append_nil]
      · exact h.tables
      · exact h.accounted
    | some entry =>
      obtain ⟨haccounted, hnothing⟩ := h.reservation hentry
      exact ⟨h.tables.note hnothing, h.accounted.concat haccounted⟩

/-- A stack whose ticket is claimed after a dispute, and that is asked for by its model before and after. -/
def settlementExample : List SettlementStep :=
  [.stack (.newStackAcquired stackCreatedExample 200 9),
    .chain 0 (.stackTrySettle ⟨1, 3, 150, [5], [], []⟩) false,
    .stack (.reserve (.getStacksForModel (.some 1) "model" 9 false) 100),
    .chain 0 (.stackAttestationDispute ⟨1, [7], 5, 3, [8]⟩) false,
    .chain 0 (.stackSettlementTicketClaimed 1 50) false,
    .stack (.reserve (.getStacksForModel (.some 1) "model" 9 false) 100)]

end AtomaProxy
