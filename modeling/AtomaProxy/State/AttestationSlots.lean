/-
What the attestations of a settlement ticket write, and in what order they
come does not matter.

Every node but the last requested one has a slot of its own, and a well-sized
attestation writes that slot and no other. So each slot holds what its node
committed last, and the first one the original solver's bytes.
-/
import AtomaProxy.Base.Machine
import AtomaProxy.State.SettlementTickets
import Mathlib.Data.List.Nodup

namespace AtomaProxy

open Base

/-- The bytes are those of one slot. -/
def NewStackSettlementAttestationEvent.WellSized (ev : NewStackSettlementAttestationEvent) : Prop :=
  ev.stackMerkleLeaf.length = 32 ∧ ev.committedStackProof.length = 32

instance (ev : NewStackSettlementAttestationEvent) : Decidable ev.WellSized := inferInstanceAs (Decidable (_ ∧ _))

/-- The ids survive the way from `u64` to `i64`. -/
def AllFit (requested : List UInt64) : Prop := ∀ n ∈ requested, n.toNat < 2 ^ 63

/-- A node that was requested brings bytes of one slot exactly if it has a slot: it is not the last one, and all the
ids are read. -/
def Attestable (requested : List UInt64) (ev : NewStackSettlementAttestationEvent) : Prop :=
  ev.attestationNodeId ∈ requested →
    (ev.WellSized ↔ AllFit requested ∧ requested.getLast? ≠ .some ev.attestationNodeId)

/-- The ticket with the bytes in the slot `i`, and nothing else changed but the list of those who attested. -/
structure StackSettlementTicket.Wrote (ticket ticket' : StackSettlementTicket) (i : Nat)
    (ev : NewStackSettlementAttestationEvent) : Prop where
  proof : slot 32 i ticket'.committedStackProofs = ev.committedStackProof
  leaf : slot 32 i ticket'.stackMerkleLeaves = ev.stackMerkleLeaf
  others : ∀ j, j ≠ i → slot 32 j ticket'.committedStackProofs = slot 32 j ticket.committedStackProofs ∧
    slot 32 j ticket'.stackMerkleLeaves = slot 32 j ticket.stackMerkleLeaves
  proofLength : ticket'.committedStackProofs.length = ticket.committedStackProofs.length
  leafLength : ticket'.stackMerkleLeaves.length = ticket.stackMerkleLeaves.length
  rest : ticket' = { ticket with
    committedStackProofs := ticket'.committedStackProofs
    stackMerkleLeaves := ticket'.stackMerkleLeaves
    alreadyAttestedNodes := ticket.alreadyAttestedNodes ++ [ev.attestationNodeId.toInt64] }

/-- A requested node's well-sized attestation writes its own slot; every other one is an error. -/
def Tickets.AttestsAsClaimed (t : Tickets) (ticket : StackSettlementTicket)
    (ev : NewStackSettlementAttestationEvent) : Prop :=
  if ev.attestationNodeId ∈ ticket.requestedAttestationNodes ∧ ev.WellSized then
    ∃ ticket', t.handleNewStackSettlementAttestationEvent ev =
        .ok (Function.update t ev.stackSmallId.toInt64 (.some ticket')) ∧
      ticket.Wrote ticket' (ticket.requestedAttestationNodes.idxOf ev.attestationNodeId + 1) ev
  else ∃ e, t.handleNewStackSettlementAttestationEvent ev = .err e

/-- The buffers have a slot for every node that was requested. -/
structure StackSettlementTicket.Expanded (ticket : StackSettlementTicket) (requested : List UInt64) : Prop where
  nodes : ticket.requestedAttestationNodes = requested
  proofs : ticket.committedStackProofs.length = requested.length * 32
  leaves : ticket.stackMerkleLeaves.length = requested.length * 32

theorem StackTrySettleEvent.expanded (event : StackTrySettleEvent) :
    event.toTicket.Expanded event.requestedAttestationNodes where
  nodes := rfl
  proofs := by rw [toTicket, length_resize, Nat.mul_comm]
  leaves := by rw [toTicket, length_resize, Nat.mul_comm]

/-! ## One attestation -/

theorem parseRequestedNodes_of_fit : ∀ {requested : List UInt64}, AllFit requested →
    parseRequestedNodes requested = .ok (requested.map UInt64.toInt64)
  | [], _ => rfl
  | n :: requested, h => by
    have hn : n.toNat < 2 ^ 63 := h n List.mem_cons_self
    have ih := parseRequestedNodes_of_fit fun m hm => h m (List.mem_cons_of_mem _ hm)
    unfold parseRequestedNodes at ih ⊢
    rw [List.mapM_cons, if_pos hn, ih]
    rfl

theorem parseRequestedNodes_of_not_fit : ∀ {requested : List UInt64}, ¬ AllFit requested →
    ∃ e, parseRequestedNodes requested = .error e
  | [], h => absurd (fun _ h => (nomatch h)) h
  | n :: requested, h => by
    unfold parseRequestedNodes
    rw [List.mapM_cons]
    by_cases hn : n.toNat < 2 ^ 63
    · have hrest : ¬ AllFit requested := fun hall => h fun m hm => by
        rcases List.mem_cons.1 hm with rfl | hm
        · exact hn
        · exact hall m hm
      obtain ⟨e, he⟩ := parseRequestedNodes_of_not_fit hrest
      unfold parseRequestedNodes at he
      rw [if_pos hn, he]
      exact ⟨e, rfl⟩
    · rw [if_neg hn]
      exact ⟨_, rfl⟩

/-- The node's index among the numbers is its index among the ids. -/
theorem idxOf?_toInt64 (requested : List UInt64) (n : UInt64) :
    (requested.map UInt64.toInt64).idxOf? n.toInt64 = requested.idxOf? n := by
  have hbeq : ((· == n.toInt64) ∘ UInt64.toInt64) = (· == n) := by
    funext m
    show (m.toInt64 == n.toInt64) = (m == n)
    rw [Bool.eq_iff_iff, beq_iff_eq, beq_iff_eq]
    exact ⟨toInt64_injective, fun h => h ▸ rfl⟩
  rw [List.idxOf?, List.findIdx?_map, hbeq]
  rfl

section Attestation

variable {t : Tickets} {ticket : StackSettlementTicket} {requested : List UInt64}
  {ev : NewStackSettlementAttestationEvent}

/-- A node that was not requested, or ids that are not read: an error. -/
theorem handle_of_unknown (ht : t ev.stackSmallId.toInt64 = .some ticket) (hexp : ticket.Expanded requested)
    (h : ¬ AllFit requested ∨ ev.attestationNodeId ∉ requested) :
    ∃ e, t.handleNewStackSettlementAttestationEvent ev = .err e := by
  unfold Tickets.handleNewStackSettlementAttestationEvent Tickets.updateWithAttestationCommitments
  simp only [ht, hexp.nodes]
  by_cases hfit : AllFit requested
  · rw [parseRequestedNodes_of_fit hfit]
    simp only [Ending.ofExcept_ok, Ending.ok_bind, idxOf?_toInt64,
      List.idxOf?_eq_none_iff.2 (h.resolve_left (not_not_intro hfit))]
    exact ⟨_, rfl⟩
  · obtain ⟨e, he⟩ := parseRequestedNodes_of_not_fit hfit
    rw [he]
    exact ⟨e, rfl⟩

/-- Otherwise its index decides. -/
theorem handle_of_known (ht : t ev.stackSmallId.toInt64 = .some ticket) (hexp : ticket.Expanded requested)
    (hfit : AllFit requested) {i : Nat} (hi : requested.idxOf? ev.attestationNodeId = .some i) :
    t.handleNewStackSettlementAttestationEvent ev =
      (ticket.commit i ev.attestationNodeId.toInt64 ev.committedStackProof ev.stackMerkleLeaf >>= fun ticket' =>
        .ok (Function.update t ev.stackSmallId.toInt64 (.some ticket'))) := by
  unfold Tickets.handleNewStackSettlementAttestationEvent Tickets.updateWithAttestationCommitments
  simp only [ht, hexp.nodes, parseRequestedNodes_of_fit hfit, Ending.ofExcept_ok, Ending.ok_bind, idxOf?_toInt64,
    hi]

/-- The last node has no slot. -/
theorem commit_of_last (hexp : ticket.Expanded requested) {i : Nat} (hi : requested.length ≤ i + 1) (n : Int64) :
    ticket.commit i n ev.committedStackProof ev.stackMerkleLeaf = .err .invalidMerkleLeafLength := by
  have hlen := hexp.leaves
  exact if_pos (by omega)

/-- The others have one: it is written if the bytes suffice. -/
theorem commit_of_not_last (hexp : ticket.Expanded requested) {i : Nat} (hi : i + 1 < requested.length) (n : Int64) :
    ticket.commit i n ev.committedStackProof ev.stackMerkleLeaf =
      (firstSlot ev.stackMerkleLeaf >>= fun leaf => firstSlot ev.committedStackProof >>= fun proof =>
        .ok { ticket with
          committedStackProofs := setSlot 32 (i + 1) proof ticket.committedStackProofs
          stackMerkleLeaves := setSlot 32 (i + 1) leaf ticket.stackMerkleLeaves
          alreadyAttestedNodes := ticket.alreadyAttestedNodes ++ [n] }) := by
  have hl := hexp.leaves
  have hp := hexp.proofs
  unfold StackSettlementTicket.commit
  simp only
  rw [if_neg (by omega), if_neg (by omega)]

theorem firstSlot_of_length {bytes : List UInt8} (h : bytes.length = 32) : firstSlot bytes = .ok bytes := by
  rw [firstSlot, if_neg (by omega), List.take_of_length_le (by omega)]

theorem firstSlot_ne_err {bytes : List UInt8} {e : AtomaStateManagerError} : firstSlot bytes ≠ .err e := by
  unfold firstSlot
  split <;> exact (nomatch ·)

theorem wrote_setSlot (hexp : ticket.Expanded requested) {i : Nat} (hi : i + 1 < requested.length)
    (hsized : ev.WellSized) : ticket.Wrote
      { ticket with
        committedStackProofs := setSlot 32 (i + 1) ev.committedStackProof ticket.committedStackProofs
        stackMerkleLeaves := setSlot 32 (i + 1) ev.stackMerkleLeaf ticket.stackMerkleLeaves
        alreadyAttestedNodes := ticket.alreadyAttestedNodes ++ [ev.attestationNodeId.toInt64] } (i + 1) ev := by
  obtain ⟨hleaf, hproof⟩ := hsized
  have hp : (i + 1) * 32 + 32 ≤ ticket.committedStackProofs.length := by
    rw [hexp.proofs]
    omega
  have hl : (i + 1) * 32 + 32 ≤ ticket.stackMerkleLeaves.length := by
    rw [hexp.leaves]
    omega
  exact {
    proof := slot_setSlot_self hproof hp
    leaf := slot_setSlot_self hleaf hl
    others := fun j hj => ⟨slot_setSlot_of_ne hproof hp hj, slot_setSlot_of_ne hleaf hl hj⟩
    proofLength := length_setSlot hproof hp
    leafLength := length_setSlot hleaf hl
    rest := rfl }

theorem getLast?_eq_of_nodup {n : UInt64} {i : Nat} (hn : requested.Nodup)
    (hi : requested.idxOf? n = .some i) : requested.getLast? = .some n ↔ requested.length ≤ i + 1 := by
  obtain ⟨hlt, hget, _⟩ := List.idxOf?_eq_some_iff.1 hi
  rw [List.getLast?_eq_getElem?]
  have hlast : requested.length - 1 < requested.length := by omega
  rw [List.getElem?_eq_getElem hlast, Option.some.injEq]
  constructor
  · intro h
    have heq := hn.getElem_inj_iff.1 (h.trans hget.symm)
    omega
  · intro h
    have heq : requested.length - 1 = i := by omega
    rw [← hget]
    congr 1

/-- **One attestation** does as claimed exactly where it is attestable. -/
theorem attests_iff (hn : requested.Nodup) (ht : t ev.stackSmallId.toInt64 = .some ticket)
    (hexp : ticket.Expanded requested) : t.AttestsAsClaimed ticket ev ↔ Attestable requested ev := by
  unfold Tickets.AttestsAsClaimed Attestable
  rw [hexp.nodes]
  by_cases hmem : ev.attestationNodeId ∈ requested
  swap
  · rw [if_neg fun h => hmem h.1]
    exact iff_of_true (handle_of_unknown ht hexp (.inr hmem)) fun h => absurd h hmem
  simp only [hmem, true_and, forall_const]
  -- an error is what is claimed of bytes of another size only
  have herr : (∃ e, t.handleNewStackSettlementAttestationEvent ev = .err e) →
      ((if ev.WellSized then ∃ ticket', t.handleNewStackSettlementAttestationEvent ev =
          .ok (Function.update t ev.stackSmallId.toInt64 (.some ticket')) ∧
          ticket.Wrote ticket' (requested.idxOf ev.attestationNodeId + 1) ev
        else ∃ e, t.handleNewStackSettlementAttestationEvent ev = .err e) ↔ ¬ ev.WellSized) := by
    intro h
    obtain ⟨e, he⟩ := h
    by_cases hsized : ev.WellSized
    · rw [if_pos hsized, he]
      exact iff_of_false (fun ⟨_, h, _⟩ => (nomatch h)) (not_not_intro hsized)
    · rw [if_neg hsized]
      exact iff_of_true ⟨e, he⟩ hsized
  by_cases hfit : AllFit requested
  swap
  · rw [herr (handle_of_unknown ht hexp (.inl hfit))]
    simp only [hfit, false_and, iff_false]
  cases hi : requested.idxOf? ev.attestationNodeId with
  | none => exact absurd hmem (List.idxOf?_eq_none_iff.1 hi)
  | some i =>
    have hhandle := handle_of_known ht hexp hfit hi
    rw [ne_eq, getLast?_eq_of_nodup hn hi]
    by_cases hlast : requested.length ≤ i + 1
    · rw [commit_of_last hexp hlast] at hhandle
      rw [herr ⟨_, hhandle⟩]
      simp only [hlast, not_true, and_false, iff_false]
    · have hlt : i + 1 < requested.length := by omega
      rw [commit_of_not_last hexp hlt] at hhandle
      simp only [hfit, hlast, not_false_eq_true, and_self, iff_true]
      have hindex : requested.idxOf ev.attestationNodeId = i := by
        rw [List.idxOf_eq_getD_idxOf?, hi]
        rfl
      by_cases hsized : ev.WellSized
      · rw [if_pos hsized, hindex]
        rw [firstSlot_of_length hsized.1, firstSlot_of_length hsized.2] at hhandle
        exact iff_of_true ⟨_, hhandle, wrote_setSlot hexp hlt hsized⟩ hsized
      · -- too few bytes panic, too many are cut: neither is an error
        rw [if_neg hsized]
        refine iff_of_false (fun ⟨e, he⟩ => ?_) hsized
        rw [hhandle] at he
        cases hleaf : firstSlot ev.stackMerkleLeaf with
        | err e' => exact firstSlot_ne_err hleaf
        | panic =>
          rw [hleaf] at he
          cases he
        | ok leaf =>
          rw [hleaf] at he
          cases hproof : firstSlot ev.committedStackProof with
          | err e' => exact firstSlot_ne_err hproof
          | panic =>
            rw [hproof] at he
            cases he
          | ok proof =>
            rw [hproof] at he
            cases he

/-- The ticket of another stack is left alone. -/
theorem afterAttestation_other {id : Int64} (h : ev.stackSmallId.toInt64 ≠ id) : t.afterAttestation ev id = t id := by
  unfold Tickets.afterAttestation
  cases ht' : t.handleNewStackSettlementAttestationEvent ev with
  | err e => rfl
  | panic => rfl
  | ok t' =>
    unfold Tickets.handleNewStackSettlementAttestationEvent Tickets.updateWithAttestationCommitments at ht'
    split at ht'
    · cases ht'
    · obtain ⟨nodes, _, ht'⟩ := Ending.bind_eq_ok.1 ht'
      split at ht'
      · cases ht'
      · obtain ⟨ticket', _, ht'⟩ := Ending.bind_eq_ok.1 ht'
        cases ht'
        exact Function.update_of_ne (Ne.symm h) _ _

end Attestation

/-! ## Runs -/

/-- The tickets, and the attestations handled, latest first. -/
structure AttestationState where
  tickets : Tickets
  handled : List NewStackSettlementAttestationEvent

def attestationMachine : Machine AttestationState NewStackSettlementAttestationEvent where
  step s ev := .some ⟨s.tickets.afterAttestation ev, ev :: s.handled⟩

/-- The last well-sized attestation of a node. -/
def lastAttestation (handled : List NewStackSettlementAttestationEvent) (id : Int64) (n : UInt64) :
    Option NewStackSettlementAttestationEvent :=
  handled.find? fun ev => ev.stackSmallId.toInt64 = id ∧ ev.attestationNodeId = n ∧ ev.WellSized

/-- The first slot is the solver's, and each that a node has holds what the node attested last. -/
structure StackTrySettleEvent.SlotsHold (event : StackTrySettleEvent)
    (handled : List NewStackSettlementAttestationEvent) (ticket : StackSettlementTicket) : Prop where
  solver : event.requestedAttestationNodes ≠ [] →
    slot 32 0 ticket.committedStackProofs = event.committedStackProof ∧
      slot 32 0 ticket.stackMerkleLeaves = event.stackMerkleLeaf
  nodes : ∀ i n, event.requestedAttestationNodes[i]? = .some n → i + 1 < event.requestedAttestationNodes.length →
    let last := lastAttestation handled event.stackSmallId.toInt64 n
    slot 32 (i + 1) ticket.committedStackProofs = (last.map (·.committedStackProof)).getD (List.replicate 32 0) ∧
      slot 32 (i + 1) ticket.stackMerkleLeaves = (last.map (·.stackMerkleLeaf)).getD (List.replicate 32 0)

/-- The invariant of the event's ticket. -/
def AttestationState.Holds (event : StackTrySettleEvent) (s : AttestationState) : Prop :=
  ∃ ticket, s.tickets event.stackSmallId.toInt64 = .some ticket ∧
    ticket.Expanded event.requestedAttestationNodes ∧ event.SlotsHold s.handled ticket

section Runs

variable {event : StackTrySettleEvent}

/-- A ticket as it is made. -/
theorem AttestationState.holds_initial (hproof : event.committedStackProof.length = 32)
    (hleaf : event.stackMerkleLeaf.length = 32) {t : Tickets}
    (ht : t event.stackSmallId.toInt64 = .some event.toTicket) : Holds event ⟨t, []⟩ := by
  refine ⟨event.toTicket, ht, event.expanded, fun hne => ?_, fun i n _ hi => ?_⟩
  · have hn : 32 ≤ 32 * event.requestedAttestationNodes.length := by
      have hpos := List.length_pos_iff.2 hne
      omega
    exact ⟨slot_zero_resize hproof hn, slot_zero_resize hleaf hn⟩
  · have hn : (i + 1) * 32 + 32 ≤ 32 * event.requestedAttestationNodes.length := by omega
    exact ⟨slot_succ_resize hproof hn, slot_succ_resize hleaf hn⟩

theorem lastAttestation_cons_of_not {handled : List NewStackSettlementAttestationEvent}
    {ev : NewStackSettlementAttestationEvent} {id : Int64} {n : UInt64}
    (h : ¬ (ev.stackSmallId.toInt64 = id ∧ ev.attestationNodeId = n ∧ ev.WellSized)) :
    lastAttestation (ev :: handled) id n = lastAttestation handled id n := by
  rw [lastAttestation, List.find?_cons_of_neg (by rwa [decide_eq_true_iff])]
  rfl

theorem lastAttestation_cons_of {handled : List NewStackSettlementAttestationEvent}
    {ev : NewStackSettlementAttestationEvent} {id : Int64} {n : UInt64}
    (h : ev.stackSmallId.toInt64 = id ∧ ev.attestationNodeId = n ∧ ev.WellSized) :
    lastAttestation (ev :: handled) id n = .some ev := by
  rw [lastAttestation, List.find?_cons_of_pos (by rwa [decide_eq_true_iff])]

/-- An attestation that writes no slot of the ticket. -/
theorem StackTrySettleEvent.SlotsHold.skip {handled : List NewStackSettlementAttestationEvent}
    {ticket : StackSettlementTicket} (h : event.SlotsHold handled ticket) {ev : NewStackSettlementAttestationEvent}
    (hskip : ∀ n ∈ event.requestedAttestationNodes, ¬ (ev.stackSmallId.toInt64 = event.stackSmallId.toInt64 ∧
      ev.attestationNodeId = n ∧ ev.WellSized)) : event.SlotsHold (ev :: handled) ticket := by
  refine ⟨h.solver, fun i n hget hi => ?_⟩
  rw [lastAttestation_cons_of_not (hskip n (List.mem_of_getElem? hget))]
  exact h.nodes i n hget hi

/-- **One event keeps it**, where it is attestable. -/
theorem AttestationState.Holds.step (hn : event.requestedAttestationNodes.Nodup) {s s' : AttestationState}
    {ev : NewStackSettlementAttestationEvent} (h : s.Holds event)
    (hc : ev.stackSmallId.toInt64 = event.stackSmallId.toInt64 → Attestable event.requestedAttestationNodes ev)
    (hstep : attestationMachine.step s ev = .some s') : s'.Holds event := by
  simp only [attestationMachine, Option.some.injEq] at hstep
  subst hstep
  obtain ⟨ticket, ht, hexp, hslots⟩ := h
  by_cases hid : ev.stackSmallId.toInt64 = event.stackSmallId.toInt64
  swap
  · exact ⟨ticket, (afterAttestation_other hid).trans ht, hexp, hslots.skip fun _ _ h => hid h.1⟩
  have hattests := (attests_iff hn (hid ▸ ht) hexp).2 (hc hid)
  unfold Tickets.AttestsAsClaimed at hattests
  rw [hexp.nodes] at hattests
  split at hattests
  · next hknown =>
    obtain ⟨ticket', hok, hwrote⟩ := hattests
    refine ⟨ticket', ?_, ⟨?_, ?_, ?_⟩, fun hne => ?_, fun i n hget hi => ?_⟩
    · simp only [Tickets.afterAttestation, hok, hid, Function.update_self]
    · rw [hwrote.rest]
      exact hexp.nodes
    · rw [hwrote.proofLength, hexp.proofs]
    · rw [hwrote.leafLength, hexp.leaves]
    · obtain ⟨hp, hl⟩ := hwrote.others 0 (Nat.succ_ne_zero _).symm
      rw [hp, hl]
      exact hslots.solver hne
    · by_cases hnode : ev.attestationNodeId = n
      · obtain ⟨hlt, hget'⟩ := List.getElem?_eq_some_iff.1 hget
        have hindex : event.requestedAttestationNodes.idxOf ev.attestationNodeId = i := by
          rw [hnode, ← hget']
          exact hn.idxOf_getElem i hlt
        rw [lastAttestation_cons_of ⟨hid, hnode, hknown.2⟩, ← hindex]
        exact ⟨hwrote.proof, hwrote.leaf⟩
      · rw [lastAttestation_cons_of_not fun h => hnode h.2.1]
        have hother : i + 1 ≠ event.requestedAttestationNodes.idxOf ev.attestationNodeId + 1 := by
          intro heq
          obtain ⟨hlt, hget'⟩ := List.getElem?_eq_some_iff.1 hget
          have hlt' := List.idxOf_lt_length_of_mem hknown.1
          have heq' : event.requestedAttestationNodes.idxOf ev.attestationNodeId = i := by omega
          have hself := List.getElem_idxOf hlt'
          simp only [heq', hget'] at hself
          exact hnode hself.symm
        obtain ⟨hp, hl⟩ := hwrote.others (i + 1) hother
        rw [hp, hl]
        exact hslots.nodes i n hget hi
  · next hknown =>
    obtain ⟨e, he⟩ := hattests
    refine ⟨ticket, ?_, hexp, hslots.skip fun n hn' h => hknown ⟨h.2.1 ▸ hn', h.2.2⟩⟩
    simp only [Tickets.afterAttestation, he]
    exact ht

theorem handled_eq : ∀ {evs : List NewStackSettlementAttestationEvent} {s s' : AttestationState},
    attestationMachine.run s evs = .some s' → s'.handled = evs.reverse ++ s.handled
  | [], _, _, h => by
    cases h
    rfl
  | ev :: evs, s, s', h => by
    obtain ⟨s₁, h₁, h₂⟩ := Machine.run_cons.1 h
    cases h₁
    rw [handled_eq h₂, List.reverse_cons, List.append_assoc]
    rfl

/-- Every node attests once: what it attested last does not depend on the order. -/
theorem lastAttestation_perm {evs evs' : List NewStackSettlementAttestationEvent} (hperm : evs.Perm evs')
    (honce : (evs.map fun ev => (ev.stackSmallId, ev.attestationNodeId)).Nodup) (id : Int64) (n : UInt64) :
    lastAttestation evs id n = lastAttestation evs' id n := by
  unfold lastAttestation
  set p : NewStackSettlementAttestationEvent → Bool := fun ev =>
    ev.stackSmallId.toInt64 = id ∧ ev.attestationNodeId = n ∧ ev.WellSized with hp
  have hunique : ∀ a ∈ evs, ∀ b ∈ evs, p a = true → p b = true → a = b := by
    intro a ha b hb hpa hpb
    obtain ⟨hida, hna, _⟩ := of_decide_eq_true hpa
    obtain ⟨hidb, hnb, _⟩ := of_decide_eq_true hpb
    exact List.inj_on_of_nodup_map honce ha hb
      (Prod.ext (toInt64_injective (hida.trans hidb.symm)) (hna.trans hnb.symm))
  cases h : evs'.find? p with
  | none =>
    rw [List.find?_eq_none] at h ⊢
    exact fun ev hev => h ev (hperm.mem_iff.1 hev)
  | some b =>
    have hb := hperm.mem_iff.2 (List.mem_of_find?_eq_some h)
    cases h' : evs.find? p with
    | none => exact absurd (List.find?_some h) (List.find?_eq_none.1 h' b hb)
    | some a =>
      exact congrArg _ (hunique a (List.mem_of_find?_eq_some h') b hb (List.find?_some h') (List.find?_some h))

/-- The slots determine the buffers. -/
theorem StackTrySettleEvent.SlotsHold.buffers_eq {handled handled' : List NewStackSettlementAttestationEvent}
    {ticket ticket' : StackSettlementTicket} (h : event.SlotsHold handled ticket)
    (h' : event.SlotsHold handled' ticket') (hexp : ticket.Expanded event.requestedAttestationNodes)
    (hexp' : ticket'.Expanded event.requestedAttestationNodes)
    (hlast : ∀ n, lastAttestation handled event.stackSmallId.toInt64 n =
      lastAttestation handled' event.stackSmallId.toInt64 n) :
    ticket.committedStackProofs = ticket'.committedStackProofs ∧ ticket.stackMerkleLeaves = ticket'.stackMerkleLeaves := by
  have hslots : ∀ i < event.requestedAttestationNodes.length,
      slot 32 i ticket.committedStackProofs = slot 32 i ticket'.committedStackProofs ∧
        slot 32 i ticket.stackMerkleLeaves = slot 32 i ticket'.stackMerkleLeaves := by
    intro i hi
    cases i with
    | zero =>
      have hne : event.requestedAttestationNodes ≠ [] := List.length_pos_iff.1 hi
      rw [(h.solver hne).1, (h.solver hne).2, (h'.solver hne).1, (h'.solver hne).2]
      exact ⟨rfl, rfl⟩
    | succ i =>
      have hget := List.getElem?_eq_getElem (Nat.lt_of_succ_lt hi)
      obtain ⟨hp, hl⟩ := h.nodes i _ hget hi
      obtain ⟨hp', hl'⟩ := h'.nodes i _ hget hi
      rw [hp, hl, hp', hl', hlast]
      exact ⟨rfl, rfl⟩
  exact ⟨ext_slots hexp.proofs hexp'.proofs fun i hi => (hslots i hi).1,
    ext_slots hexp.leaves hexp'.leaves fun i hi => (hslots i hi).2⟩

/-- **Main result.** In every run of attestable attestations the slots of the event's ticket hold what was attested
last, the first the solver's; where every node attests once, the order makes no difference to the buffers; and in
every state reached an attestation does as claimed exactly if it is attestable. -/
theorem attestation_slots (hproof : event.committedStackProof.length = 32)
    (hleaf : event.stackMerkleLeaf.length = 32) (hn : event.requestedAttestationNodes.Nodup) {t : Tickets}
    (ht : t event.stackSmallId.toInt64 = .some event.toTicket) {evs : List NewStackSettlementAttestationEvent}
    (hc : ∀ ev ∈ evs, ev.stackSmallId.toInt64 = event.stackSmallId.toInt64 →
      Attestable event.requestedAttestationNodes ev)
    {s : AttestationState} (hrun : attestationMachine.run ⟨t, []⟩ evs = .some s) :
    ∃ ticket, s.tickets event.stackSmallId.toInt64 = .some ticket ∧ event.SlotsHold evs.reverse ticket ∧
      (∀ (evs' : List NewStackSettlementAttestationEvent) (s' : AttestationState), evs.Perm evs' →
        (evs.map fun ev => (ev.stackSmallId, ev.attestationNodeId)).Nodup →
        attestationMachine.run ⟨t, []⟩ evs' = .some s' →
        ∃ ticket', s'.tickets event.stackSmallId.toInt64 = .some ticket' ∧
          ticket.committedStackProofs = ticket'.committedStackProofs ∧
          ticket.stackMerkleLeaves = ticket'.stackMerkleLeaves) ∧
      ∀ ev : NewStackSettlementAttestationEvent, ev.stackSmallId = event.stackSmallId →
        (s.tickets.AttestsAsClaimed ticket ev ↔ Attestable event.requestedAttestationNodes ev) := by
  have hinv : ∀ {evs : List NewStackSettlementAttestationEvent} {s : AttestationState},
      (∀ ev ∈ evs, ev.stackSmallId.toInt64 = event.stackSmallId.toInt64 →
        Attestable event.requestedAttestationNodes ev) →
      attestationMachine.run ⟨t, []⟩ evs = .some s → s.Holds event := fun hc hrun =>
    Machine.run_invariant (fun h hc hstep => AttestationState.Holds.step hn h hc hstep)
      (AttestationState.holds_initial hproof hleaf ht) (Machine.guarded_of_mem _ hc) hrun
  have hhandled : ∀ {evs : List NewStackSettlementAttestationEvent} {s : AttestationState},
      attestationMachine.run ⟨t, []⟩ evs = .some s → s.handled = evs.reverse := fun hrun =>
    (handled_eq hrun).trans (List.append_nil _)
  obtain ⟨ticket, hticket, hexp, hslots⟩ := hinv hc hrun
  rw [hhandled hrun] at hslots
  refine ⟨ticket, hticket, hslots, fun evs' s' hperm honce hrun' => ?_, fun ev hid => ?_⟩
  · obtain ⟨ticket', hticket', hexp', hslots'⟩ := hinv (fun ev hev => hc ev (hperm.mem_iff.2 hev)) hrun'
    rw [hhandled hrun'] at hslots'
    refine ⟨ticket', hticket', hslots.buffers_eq hslots' hexp hexp' fun n => ?_⟩
    have honce' : (evs.reverse.map fun ev => (ev.stackSmallId, ev.attestationNodeId)).Nodup := by
      rw [List.map_reverse, List.nodup_reverse]
      exact honce
    exact lastAttestation_perm ((List.reverse_perm evs).trans (hperm.trans (List.reverse_perm evs').symm)) honce' _ n
  · exact attests_iff hn (hid ▸ hticket) hexp

end Runs

/-- A ticket of two nodes, and the attestation of one of them. -/
def trySettleExample : StackTrySettleEvent :=
  ⟨1, 5, 100, [7, 8], List.replicate 32 1, List.replicate 32 2⟩

def attestationExample (node : UInt64) : NewStackSettlementAttestationEvent :=
  ⟨1, node, List.replicate 32 3, List.replicate 32 4⟩

def ticketsExample : Tickets := fun id => if id = 1 then .some trySettleExample.toTicket else .none

theorem attestation_slots_example : ∃ s, attestationMachine.run ⟨ticketsExample, []⟩ [attestationExample 7] = .some s ∧
    ∃ ticket, s.tickets 1 = .some ticket ∧ trySettleExample.SlotsHold [attestationExample 7] ticket ∧
      (∀ (evs' : List NewStackSettlementAttestationEvent) (s' : AttestationState), [attestationExample 7].Perm evs' →
        ([attestationExample 7].map fun ev => (ev.stackSmallId, ev.attestationNodeId)).Nodup →
        attestationMachine.run ⟨ticketsExample, []⟩ evs' = .some s' →
        ∃ ticket', s'.tickets 1 = .some ticket' ∧ ticket.committedStackProofs = ticket'.committedStackProofs ∧
          ticket.stackMerkleLeaves = ticket'.stackMerkleLeaves) ∧
      ∀ ev : NewStackSettlementAttestationEvent, ev.stackSmallId = 1 →
        (s.tickets.AttestsAsClaimed ticket ev ↔ Attestable [7, 8] ev) := by
  refine ⟨_, rfl, @attestation_slots trySettleExample rfl rfl (by decide) ticketsExample rfl [attestationExample 7]
    (fun ev hev _ _ => ?_) _ rfl⟩
  obtain rfl : ev = attestationExample 7 := List.mem_singleton.1 hev
  refine iff_of_true ⟨rfl, rfl⟩ ⟨fun n hn => ?_, by decide⟩
  rcases List.mem_cons.1 hn with rfl | hn
  · decide
  · rw [List.mem_singleton.1 hn]
    decide

/-- The second node's attestation is refused. -/
theorem attestation_slots_fails : ¬ ∀ (event : StackTrySettleEvent) (t : Tickets)
    (ev : NewStackSettlementAttestationEvent), event.committedStackProof.length = 32 →
    event.stackMerkleLeaf.length = 32 → event.requestedAttestationNodes.Nodup →
    t event.stackSmallId.toInt64 = .some event.toTicket → ev.stackSmallId = event.stackSmallId →
    t.AttestsAsClaimed event.toTicket ev := by
  intro h
  have hattests := h trySettleExample ticketsExample (attestationExample 8) rfl rfl (by decide) rfl rfl
  rw [Tickets.AttestsAsClaimed, if_pos (by decide)] at hattests
  obtain ⟨_, hok, _⟩ := hattests
  cases hok

end AtomaProxy
