/-
Who owns a node's small id, over any run of registrations, public addresses
and ownership checks.

The Sui address of a row is written once, by the registration that binds the
small id to it, and no later event touches it; the check compares the public
address instead, which every one of them may. So what a check answers is the
binding exactly where the address asked for is both, or neither.
-/
import AtomaProxy.Base.Machine
import AtomaProxy.State.Nodes

namespace AtomaProxy

open Base

/-- A check that was answered, and the bindings there were then. -/
structure OwnershipAnswer where
  nodeSmallId : UInt64
  suiAddress : String
  answer : Bool
  bound : List (UInt64 × String)

/-- The table, the bindings of the registrations handled, and the checks answered, latest first. -/
structure OwnershipState where
  nodes : Nodes
  bound : List (UInt64 × String)
  verified : List OwnershipAnswer

def OwnershipState.empty : OwnershipState := ⟨fun _ => .none, [], []⟩

/-- The events that write or read the table's addresses. -/
inductive NodeEvent where
  | nodeRegistered (event : NodeRegisteredEvent) (address : String) (fails : Bool)
  | upsertNodePublicAddress (nodeSmallId : Int64) (publicAddress country : String) (fails : Bool)
  /-- an attempt of `register_node_public_url` -/
  | registerNodePublicUrl (nodeSmallId : Int64) (publicUrl : String) (timestamp : Int64) (country : String)
    (fails : Bool)
  | p2p (answers : P2pAnswers) (event : AtomaP2pEvent) (sender : Option OneshotSender)

/-- The check that an event is, with what was sent as its answer. -/
def AtomaP2pEvent.ownershipAnswer (bound : List (UInt64 × String)) : AtomaP2pEvent → Bool → Option OwnershipAnswer
  | .verifyNodeSmallIdOwnership nodeSmallId suiAddress, answer => .some ⟨nodeSmallId, suiAddress, answer, bound⟩
  | .nodeMetricsRegistrationEvent .., _ => .none

def ownershipStep (s : OwnershipState) : NodeEvent → OwnershipState
  | .nodeRegistered event address fails =>
    match answered fails (s.nodes.handleNodeRegistrationEvent event address) with
    | .ok nodes => { s with nodes, bound := (event.nodeSmallId, address) :: s.bound }
    | .error _ => s
  | .upsertNodePublicAddress nodeSmallId publicAddress country fails =>
    match answered fails (s.nodes.updateNodePublicAddress nodeSmallId publicAddress country) with
    | .ok nodes => { s with nodes }
    | .error _ => s
  | .registerNodePublicUrl nodeSmallId publicUrl timestamp country fails =>
    match answered fails (query (s.nodes.updateRow nodeSmallId fun node =>
        .ok (node.registerPublicUrl publicUrl timestamp country))) with
    | .ok (_, nodes) => { s with nodes }
    | .error _ => s
  | .p2p answers event sender =>
    let handled := handleP2pEvent s.nodes answers event sender
    { s with
      nodes := handled.nodes
      verified := (handled.sent.bind (event.ownershipAnswer s.bound)).toList ++ s.verified }

def ownershipMachine : Machine OwnershipState NodeEvent where
  step s ev := .some (ownershipStep s ev)

/-- Every check was answered with who the small id was bound to. -/
def OwnershipState.Right (s : OwnershipState) : Prop :=
  ∀ v ∈ s.verified, v.answer = true ↔ (v.nodeSmallId, v.suiAddress) ∈ v.bound

/-- The condition: a check that is answered, of a node that is registered, is for an address that is the node's
Sui address and its public one, with a statement that does not fail, or that is not its Sui address. -/
def NodeEvent.AsksForBoth (s : OwnershipState) : NodeEvent → Prop
  | .p2p answers (.verifyNodeSmallIdOwnership nodeSmallId suiAddress) (.some .waiting) =>
    ∀ node, s.nodes nodeSmallId.toInt64 = .some node →
      (node.suiAddress = suiAddress ↔ answers.fails = false ∧ node.publicAddress = .some suiAddress)
  | _ => True

/-! ## What an event does -/

/-- The rows are those there were, each with its Sui address. -/
def Nodes.SameOwners (t t' : Nodes) : Prop := ∀ id, (t' id).map Node.suiAddress = (t id).map Node.suiAddress

theorem Nodes.sameOwners_after {f : Node → Option Node} (h : ∀ node, ((f node).getD node).suiAddress = node.suiAddress)
    (t : Nodes) (id : Int64) : Nodes.SameOwners t (t.after id fun node => .ok (f node)) := by
  intro id'
  rw [after_row]
  split
  · next hid =>
    rw [hid]
    cases t id with
    | none => rfl
    | some node => exact congrArg Option.some (h node)
  · rfl

inductive OwnershipState.Does (s s' : OwnershipState) : NodeEvent → Prop where
  | bound {event address} (unbound : s.nodes event.nodeSmallId.toInt64 = .none)
    (nodes : s'.nodes = Function.update s.nodes event.nodeSmallId.toInt64
      (.some ⟨event.badgeId, address, .none, .none, .none⟩))
    (bound : s'.bound = (event.nodeSmallId, address) :: s.bound) (verified : s'.verified = s.verified) :
    Does s s' (.nodeRegistered event address false)
  | kept {ev} (nodes : Nodes.SameOwners s.nodes s'.nodes) (bound : s'.bound = s.bound)
    (verified : s'.verified = s.verified) (asksForBoth : ev.AsksForBoth s) : Does s s' ev
  | verified {answers id suiAddress answer} (nodes : s'.nodes = s.nodes) (bound : s'.bound = s.bound)
    (verified : s'.verified = ⟨id, suiAddress, answer, s.bound⟩ :: s.verified)
    (answer : answer = true ↔ answers.fails = false ∧
      ∃ node, s.nodes id.toInt64 = .some node ∧ node.publicAddress = .some suiAddress) :
    Does s s' (.p2p answers (.verifyNodeSmallIdOwnership id suiAddress) (.some .waiting))

theorem isOk_eq_true {ε : Type} {x : Except ε Unit} : x.isOk = true ↔ x = .ok () := by
  cases x with
  | ok => exact iff_of_true rfl rfl
  | error => exact iff_of_false (fun h => nomatch h) (fun h => nomatch h)

theorem ownershipStep_does (s : OwnershipState) (ev : NodeEvent) : s.Does (ownershipStep s ev) ev := by
  have hnothing : Nodes.SameOwners s.nodes s.nodes := fun _ => rfl
  cases ev with
  | nodeRegistered event address fails =>
    unfold ownershipStep
    dsimp only
    cases hinsert : answered fails (s.nodes.handleNodeRegistrationEvent event address) with
    | error e => exact .kept hnothing rfl rfl trivial
    | ok nodes =>
      obtain ⟨rfl, hinsert⟩ := answered_eq_ok.1 hinsert
      obtain ⟨hnone, rfl⟩ := Nodes.insertNewNode_ok.1 hinsert
      exact .bound hnone rfl rfl rfl
  | upsertNodePublicAddress id address country fails =>
    unfold ownershipStep
    dsimp only
    rw [Nodes.updateNodePublicAddress_eq]
    cases fails with
    | true => exact .kept hnothing rfl rfl trivial
    | false =>
      exact .kept (Nodes.sameOwners_after (Node.suiAddress_updatePublicAddress address country) s.nodes id) rfl rfl
        trivial
  | registerNodePublicUrl id url timestamp country fails =>
    unfold ownershipStep
    dsimp only
    rw [Nodes.updateRow_total]
    cases fails with
    | true => exact .kept hnothing rfl rfl trivial
    | false =>
      exact .kept (Nodes.sameOwners_after (Node.suiAddress_registerPublicUrl url timestamp country) s.nodes id) rfl rfl
        trivial
  | p2p answers event sender =>
    cases event with
    | nodeMetricsRegistrationEvent url id timestamp country =>
      obtain ⟨hsent, _, hnodes⟩ := handleP2pEvent_registration s.nodes answers url id timestamp country sender
      unfold ownershipStep
      dsimp only
      rw [hsent]
      refine .kept ?_ rfl rfl trivial
      dsimp only
      rw [hnodes]
      split
      · exact Nodes.sameOwners_after (Node.suiAddress_updatePublicAddress url country) s.nodes id.toInt64
      · exact hnothing
    | verifyNodeSmallIdOwnership id suiAddress =>
      cases sender with
      | none => exact .kept hnothing rfl rfl trivial
      | some sender =>
        cases sender with
        | dropped => exact .kept hnothing rfl rfl trivial
        | waiting =>
          refine .verified rfl rfl rfl ?_
          rw [isOk_eq_true, Nodes.handleNodeSmallIdOwnershipVerificationEvent, answered_eq_ok,
            Nodes.verifyNodeSmallIdOwnership_ok]

/-! ## The binding -/

/-- The small ids bound are those of the rows, to the Sui addresses of the rows. -/
def OwnershipState.Bound (s : OwnershipState) : Prop :=
  ∀ id address, (id, address) ∈ s.bound ↔ (s.nodes id.toInt64).map Node.suiAddress = .some address

theorem OwnershipState.Bound.step {s s' : OwnershipState} {ev : NodeEvent} (h : s.Bound) (hdoes : s.Does s' ev) :
    s'.Bound := by
  intro id address
  cases hdoes with
  | kept hnodes hbound => rw [hbound, hnodes, h id address]
  | verified hnodes hbound => rw [hbound, hnodes, h id address]
  | @bound event address' hnone hnodes hbound =>
    rw [hbound, hnodes, List.mem_cons, h id address]
    by_cases hid : id = event.nodeSmallId
    · subst hid
      rw [Function.update_self, hnone, Option.map_none, Option.map_some, Option.some.injEq, Prod.mk.injEq]
      constructor
      · rintro (⟨_, heq⟩ | hmem)
        · exact heq.symm
        · cases hmem
      · intro heq
        exact .inl ⟨rfl, heq.symm⟩
    · rw [Function.update_of_ne fun heq => hid (toInt64_injective heq)]
      constructor
      · rintro (heq | hmem)
        · exact absurd (congrArg Prod.fst heq) hid
        · exact hmem
      · exact .inr

/-- **An answer is right exactly where the address asked for is both, or not the Sui address.** -/
theorem OwnershipState.Bound.right_iff {s s' : OwnershipState} {ev : NodeEvent} (h : s.Bound)
    (hdoes : s.Does s' ev) : s'.Right ↔ s.Right ∧ ev.AsksForBoth s := by
  unfold Right
  cases hdoes with
  | bound _ _ _ hverified =>
    rw [hverified, iff_self_and]
    exact fun _ => trivial
  | kept _ _ hverified hasks => rw [hverified, and_iff_left hasks]
  | @verified answers id suiAddress answer _ _ hverified hanswer =>
    rw [hverified, List.forall_mem_cons, and_comm]
    refine and_congr_right fun _ => ?_
    show (answer = true ↔ (id, suiAddress) ∈ s.bound) ↔ ∀ node, s.nodes id.toInt64 = .some node →
      (node.suiAddress = suiAddress ↔ answers.fails = false ∧ node.publicAddress = .some suiAddress)
    rw [hanswer, h id suiAddress]
    cases hnode : s.nodes id.toInt64 with
    | none => simp
    | some node =>
      simp only [Option.some.injEq, exists_eq_left', Option.map_some, forall_eq']
      exact Iff.comm

/-- **Main result.** In a run from an empty table, every check is answered with who the small id was bound to exactly
if each check of a registered node that is answered meets the condition. -/
theorem node_ownership_verified_iff {evs : List NodeEvent} {s : OwnershipState}
    (hrun : ownershipMachine.run .empty evs = .some s) :
    s.Right ↔ ownershipMachine.Guarded (fun s ev => ev.AsksForBoth s) .empty evs := by
  have hbound : OwnershipState.empty.Bound := fun _ _ => iff_of_false List.not_mem_nil (fun h => nomatch h)
  have hright : OwnershipState.empty.Right := fun _ h => absurd h List.not_mem_nil
  have hiff : s.Right ↔ OwnershipState.empty.Right ∧
      ownershipMachine.Guarded (fun s ev => ev.AsksForBoth s) .empty evs := by
    refine Machine.run_iff_guarded ?_ ?_ hbound hrun
    · intro s ev s' hb hstep
      cases hstep
      exact hb.step (ownershipStep_does s ev)
    · intro s ev s' hb hstep
      cases hstep
      exact hb.right_iff (ownershipStep_does s ev)
  rw [hiff, and_iff_right hright]

/-- Node 1, registered with the Sui address "0xa", publishes an address and is asked for. -/
def ownershipExample (publicAddress asked : String) : List NodeEvent :=
  [.nodeRegistered ⟨"badge", 1⟩ "0xa" false,
    .p2p ⟨true, false⟩ (.nodeMetricsRegistrationEvent publicAddress 1 5 "US") .none,
    .p2p ⟨true, false⟩ (.verifyNodeSmallIdOwnership 1 asked) (.some .waiting)]

theorem node_ownership_verified_iff_example : ∃ s, ownershipMachine.run .empty (ownershipExample "https://a" "0xb") =
    .some s ∧ s.Right := by
  obtain ⟨s, hrun⟩ : ∃ s, ownershipMachine.run .empty (ownershipExample "https://a" "0xb") = .some s := ⟨_, rfl⟩
  refine ⟨s, hrun, (node_ownership_verified_iff hrun).2 ?_⟩
  refine (Machine.guarded_cons rfl).2 ⟨trivial, (Machine.guarded_cons rfl).2 ⟨trivial, ?_⟩⟩
  refine (Machine.guarded_cons rfl).2 ⟨fun node hnode => ?_, trivial⟩
  cases hnode
  decide

/-- A node that publishes "0xb" as its address is "owned" by it, and by "0xa" no more. -/
theorem node_ownership_fails : ¬ ∀ (evs : List NodeEvent) (s : OwnershipState),
    ownershipMachine.run .empty evs = .some s → s.Right := by
  intro h
  have hright := h (ownershipExample "0xb" "0xb") _ rfl _ List.mem_cons_self
  exact absurd (hright.1 rfl) (by decide)

end AtomaProxy
