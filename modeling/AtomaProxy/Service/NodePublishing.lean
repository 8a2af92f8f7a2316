/-
The two endpoints by which a node writes about itself: `nodes_create`, for its
public address, and `update_node_attestation`.

Each checks a signature, asks which Sui address the small id is registered
with, compares it with the signature's, and writes in a later step, with any
registration, any other request and any event of the p2p network in between.
What was compared is still so when it is written: a registration binds a small
id once, and none of the other writes touches the binding.
-/
import AtomaProxy.Base.Channel
import AtomaProxy.Base.Effect
import AtomaProxy.Server.Errors
import AtomaProxy.Service.SignedNodeData
import AtomaProxy.State.NodeOwnership

namespace AtomaProxy

open Base

/-- The libraries' functions beside the schemes' own. -/
structure NodesCrypto extends SuiCrypto where
  /-- of 32 bytes -/
  blake2b : List UInt8 → List UInt8
  /-- `SuiAddress::from(&public_key).to_string()` -/
  suiAddressText : SignatureScheme → List UInt8 → String
  /-- `atoma_utils::verify_signature` -/
  verifySignature : String → List UInt8 → Except String Unit
  /-- an error's `Debug` text -/
  debug : AtomaStateManagerError → String

/-! ## `nodes_create` -/

structure NodesCreateRequest where
  data : NodePublicAddressAssignment
  signature : String
  deriving DecidableEq, Repr

def nodesCreatePath : String := "/v1/nodes"

def nodesRequestError (message : String) : AtomaProxyError := .requestError message nodesCreatePath

def nodesInternalError (message : String) : AtomaProxyError := .internalError message .none nodesCreatePath

/-- Up to the question for the node's Sui address: the address of the signature's key. -/
def nodesCreateSigner (c : NodesCrypto) (payload : NodesCreateRequest) : Except AtomaProxyError String := do
  let signature ← (c.signatureFromStr payload.signature).mapError fun e =>
    nodesRequestError ("Failed to parse signature, with error: " ++ e)
  (c.publicKeyFromBytes signature.scheme signature.publicKeyBytes).mapError fun e =>
    nodesRequestError ("Failed to extract public key from bytes, with error: " ++ e)
  (c.verifySignature payload.signature (c.blake2b payload.data.toVec)).mapError fun e =>
    nodesRequestError ("Failed to verify signature, with error: " ++ e)
  .ok (c.suiAddressText signature.scheme signature.publicKeyBytes)

/-- `UpsertNodePublicAddress`. -/
structure UpsertNodePublicAddress where
  nodeSmallId : Int64
  publicAddress : String
  country : String
  deriving DecidableEq, Repr

/-- From the answer on, which is `none` where its sender was dropped: the event sent. -/
def nodesCreateAnswered (c : NodesCrypto) (payload : NodesCreateRequest) (signer : String) :
    Option (Except AtomaStateManagerError (Option String)) → Except AtomaProxyError UpsertNodePublicAddress
  | .none => .error (nodesInternalError "Failed to receive GetNodeSuiAddress result: RecvError(())")
  | .some (.error e) => .error (nodesInternalError ("Failed to get node Sui address: " ++ c.debug e))
  | .some (.ok .none) => .error (.notFound "Node Sui address not found" nodesCreatePath)
  | .some (.ok (.some nodeSuiAddress)) =>
    if nodeSuiAddress ≠ signer then
      .error (nodesRequestError
        "The sui address associated with the node small ID does not match the signature sui address")
    else .ok ⟨payload.data.nodeSmallId.toInt64, payload.data.publicAddress, payload.data.country⟩

/-- `get_node_sui_address`. -/
def Nodes.getNodeSuiAddress (t : Nodes) (smallId : Int64) : Except AtomaStateManagerError (Option String) :=
  .ok ((t smallId).map Node.suiAddress)

/-! ## `update_node_attestation` -/

/-- The table `node_attestations`, its evidence under the node's small id. -/
abbrev NodeAttestations := Table Int64 (List UInt8)

def NodeAttestations.updateNodeAttestation (t : NodeAttestations) (a : NodeAttestation) :
    Except AtomaStateManagerError NodeAttestations :=
  query (t.upsertRow a.nodeSmallId a.compressedEvidence fun _ => .ok a.compressedEvidence)

def NodeAttestations.getNodeAttestation (t : NodeAttestations) (nodeSmallId : Int64) :
    Except AtomaStateManagerError (Option NodeAttestation) :=
  .ok ((t nodeSmallId).map fun evidence => ⟨nodeSmallId, evidence⟩)

/-- An error as a status code. -/
def orStatus {ε α : Type} (status : Nat) (x : Except ε α) : Ending Nat α :=
  match x with
  | .ok a => .ok a
  | .error _ => .err status

/-- `unwrap`. -/
def unwrapped {ε α : Type} (x : Except ε α) : Ending Nat α :=
  match x with
  | .ok a => .ok a
  | .error _ => .panic

/-- An arm of the match on the scheme. -/
def verifyAttestation (c : NodesCrypto) (signature : Signature) (hash : List UInt8) : Ending Nat Unit := do
  unwrapped (c.schemeKeyFromBytes signature.scheme signature.publicKeyBytes)
  unwrapped (c.schemeSignatureFromBytes signature.scheme signature.signatureBytes)
  orStatus 401 (c.verify signature.scheme signature.publicKeyBytes hash signature.signatureBytes)

/-- The match on the scheme. -/
def verifyByScheme (c : NodesCrypto) (signature : Signature) (hash : List UInt8) : Ending Nat Unit :=
  match signature.scheme with
  | .ed25519 => verifyAttestation c signature hash
  | .secp256k1 => verifyAttestation c signature hash
  | .secp256r1 => verifyAttestation c signature hash
  | _ => .err 400

/-- The address of the key whose signature of the attestation is in the header, which is missing, no text, or a text. -/
def attestationSigner (c : NodesCrypto) (header : Option (Option String)) (a : NodeAttestation) : Ending Nat String := do
  let .some header := header | .err 400
  let .some text := header | .err 400
  let signature ← orStatus 400 (c.signatureFromStr text)
  orStatus 400 (c.publicKeyFromBytes signature.scheme signature.publicKeyBytes)
  verifyByScheme c signature (c.blake2b a.hashed)
  .ok (c.suiAddressText signature.scheme signature.publicKeyBytes)

/-- `update_node_attestation`, up to its write. -/
def checkNodeAttestation (c : NodesCrypto) (nodes : Nodes) (fails : Bool) (header : Option (Option String))
    (a : NodeAttestation) : Ending Nat Unit := do
  let suiAddress ← attestationSigner c header a
  let answer ← orStatus 500 (answered fails (nodes.getNodeSuiAddress a.nodeSmallId))
  let .some publicAddress := answer | .err 404
  if publicAddress ≠ suiAddress then .err 401 else .ok ()

/-- The endpoint `get_node_attestation`. -/
def getNodeAttestationEndpoint (t : NodeAttestations) (fails : Bool) (nodeSmallId : Int64) :
    Ending Nat NodeAttestation := do
  let answer ← orStatus 500 (answered fails (t.getNodeAttestation nodeSmallId))
  let .some attestation := answer | .err 404
  .ok attestation

/-! ## Runs -/

/-- The state manager's events of these requests; the first carries the request that waits for its answer. -/
inductive NodesEvent where
  | getNodeSuiAddress (payload : NodesCreateRequest) (signer : String)
  | upsertNodePublicAddress (event : UpsertNodePublicAddress)

/-- A request of `nodes_create` that was answered and did not go on yet. -/
structure AnsweredRequest where
  payload : NodesCreateRequest
  signer : String
  answer : Except AtomaStateManagerError (Option String)

structure PublishingState where
  nodes : Nodes
  attestations : NodeAttestations
  events : Channel NodesEvent
  answeredRequests : List AnsweredRequest
  /-- Attestations checked and not written yet. -/
  checked : List NodeAttestation

def PublishingState.empty : PublishingState := ⟨fun _ => .none, fun _ => .none, .fresh, [], []⟩

inductive PublishingStep where
  | nodesCreate (payload : NodesCreateRequest)
  /-- the state manager receives the next event; its statement may fail -/
  | handleEvent (fails : Bool)
  /-- the `n`th answered request goes on -/
  | goOn (n : Nat)
  | checkAttestation (header : Option (Option String)) (a : NodeAttestation) (fails : Bool)
  /-- the `n`th checked attestation is written -/
  | writeAttestation (n : Nat) (fails : Bool)
  | nodeRegistered (event : NodeRegisteredEvent) (address : String) (fails : Bool)
  | p2p (answers : P2pAnswers) (event : AtomaP2pEvent) (sender : Option OneshotSender)

namespace PublishingState

/-- `handle_state_manager_event` on one of these events. -/
def handleNodesEvent (s : PublishingState) (fails : Bool) : NodesEvent → PublishingState
  | .getNodeSuiAddress payload signer =>
    let answer := answered fails (s.nodes.getNodeSuiAddress payload.data.nodeSmallId.toInt64)
    { s with answeredRequests := s.answeredRequests ++ [⟨payload, signer, answer⟩] }
  | .upsertNodePublicAddress event =>
    match answered fails (s.nodes.updateNodePublicAddress event.nodeSmallId event.publicAddress event.country) with
    | .ok nodes => { s with nodes }
    | .error _ => s

/-- An event is sent, the channel being open. -/
def sendEvent (s : PublishingState) (event : NodesEvent) : PublishingState :=
  { s with events := (s.events.send event).getD s.events }

def step (c : NodesCrypto) (s : PublishingState) : PublishingStep → Option PublishingState
  | .nodesCreate payload =>
    match nodesCreateSigner c payload with
    | .ok signer => .some (s.sendEvent (.getNodeSuiAddress payload signer))
    | .error _ => .some s
  | .handleEvent fails =>
    s.events.recv.map fun (event, events) => { s with events }.handleNodesEvent fails event
  | .goOn n =>
    s.answeredRequests[n]?.map fun r =>
      let s := { s with answeredRequests := s.answeredRequests.eraseIdx n }
      match nodesCreateAnswered c r.payload r.signer (.some r.answer) with
      | .ok event => s.sendEvent (.upsertNodePublicAddress event)
      | .error _ => s
  | .checkAttestation header a fails =>
    match checkNodeAttestation c s.nodes fails header a with
    | .ok () => .some { s with checked := s.checked ++ [a] }
    | _ => .some s
  | .writeAttestation n fails =>
    s.checked[n]?.map fun a =>
      let s := { s with checked := s.checked.eraseIdx n }
      match answered fails (s.attestations.updateNodeAttestation a) with
      | .ok attestations => { s with attestations }
      | .error _ => s
  | .nodeRegistered event address fails =>
    match answered fails (s.nodes.handleNodeRegistrationEvent event address) with
    | .ok nodes => .some { s with nodes }
    | .error _ => .some s
  | .p2p answers event sender => .some { s with nodes := (handleP2pEvent s.nodes answers event sender).nodes }

end PublishingState

def publishingMachine (c : NodesCrypto) : Machine PublishingState PublishingStep := ⟨PublishingState.step c⟩

/-! ## What is signed for -/

/-- The small id is registered with that Sui address. -/
def Nodes.Owned (t : Nodes) (id : Int64) (owner : String) : Prop := (t id).map Node.suiAddress = .some owner

/-- No binding of `t` is lost or changed in `t'`. -/
def Nodes.KeepsOwners (t t' : Nodes) : Prop := ∀ id owner, t.Owned id owner → t'.Owned id owner

/-- A request for this address whose signature verifies over its text, with a key of the address `signer`. -/
structure NodesCreateRequest.SignedBy (c : NodesCrypto) (payload : NodesCreateRequest) (signer : String) : Prop where
  parsed : ∃ signature, c.signatureFromStr payload.signature = .ok signature ∧
    c.suiAddressText signature.scheme signature.publicKeyBytes = signer
  verified : c.verifySignature payload.signature (c.blake2b payload.data.toVec) = .ok ()

/-- The address is signed for by the owner of the small id. -/
def AddressSigned (c : NodesCrypto) (t : Nodes) (event : UpsertNodePublicAddress) : Prop :=
  ∃ (payload : NodesCreateRequest) (owner : String), payload.data.nodeSmallId.toInt64 = event.nodeSmallId ∧
    payload.data.publicAddress = event.publicAddress ∧ payload.data.country = event.country ∧
    payload.SignedBy c owner ∧ t.Owned event.nodeSmallId owner

/-- A signature of the attestation that verifies, with a key of the address `signer`. -/
def NodeAttestation.SignedBy (c : NodesCrypto) (a : NodeAttestation) (signer : String) : Prop :=
  ∃ signature : Signature, c.suiAddressText signature.scheme signature.publicKeyBytes = signer ∧
    c.verify signature.scheme signature.publicKeyBytes (c.blake2b a.hashed) signature.signatureBytes = .ok ()

/-- The attestation is signed for by the owner of the small id. -/
def AttestationSigned (c : NodesCrypto) (t : Nodes) (a : NodeAttestation) : Prop :=
  ∃ owner, a.SignedBy c owner ∧ t.Owned a.nodeSmallId owner

section

variable {c : NodesCrypto} {t t' : Nodes}

theorem AddressSigned.mono {event : UpsertNodePublicAddress} (h : AddressSigned c t event) (hk : t.KeepsOwners t') :
    AddressSigned c t' event := by
  obtain ⟨payload, owner, h1, h2, h3, h4, howned⟩ := h
  exact ⟨payload, owner, h1, h2, h3, h4, hk _ _ howned⟩

theorem AttestationSigned.mono {a : NodeAttestation} (h : AttestationSigned c t a) (hk : t.KeepsOwners t') :
    AttestationSigned c t' a := by
  obtain ⟨owner, hsigned, howned⟩ := h
  exact ⟨owner, hsigned, hk _ _ howned⟩

theorem Nodes.SameOwners.keeps (h : Nodes.SameOwners t t') : t.KeepsOwners t' := by
  intro id owner howned
  rw [Nodes.Owned, h id]
  exact howned

/-- A row under a small id that was not bound. -/
theorem keepsOwners_bound {id' : Int64} {node : Node} (hnone : t id' = .none) :
    t.KeepsOwners (Function.update t id' (.some node)) := by
  intro id owner howned
  unfold Nodes.Owned at howned ⊢
  by_cases hid : id = id'
  · rw [hid, hnone] at howned
    cases howned
  · rw [Function.update_of_ne hid]
    exact howned

theorem sameOwners_upsert {id : Int64} {address country : String}
    (h : t.updateNodePublicAddress id address country = .ok t') : Nodes.SameOwners t t' := by
  rw [Nodes.updateNodePublicAddress_eq] at h
  cases h
  exact Nodes.sameOwners_after (Node.suiAddress_updatePublicAddress address country) t id

theorem sameOwners_p2p (answers : P2pAnswers) (event : AtomaP2pEvent) (sender : Option OneshotSender) :
    Nodes.SameOwners t (handleP2pEvent t answers event sender).nodes := by
  cases event with
  | nodeMetricsRegistrationEvent url id timestamp country =>
    rw [(handleP2pEvent_registration t answers url id timestamp country sender).2.2]
    split
    · exact Nodes.sameOwners_after (Node.suiAddress_updatePublicAddress url country) t id.toInt64
    · exact fun _ => rfl
  | verifyNodeSmallIdOwnership id suiAddress =>
    cases sender with
    | none => exact fun _ => rfl
    | some sender => cases sender <;> exact fun _ => rfl

theorem nodesCreateSigner_ok {payload : NodesCreateRequest} {signer : String}
    (h : nodesCreateSigner c payload = .ok signer) : payload.SignedBy c signer := by
  unfold nodesCreateSigner at h
  obtain ⟨signature, hsignature, h⟩ := ok_bind_iff.1 h
  obtain ⟨_, _, h⟩ := ok_bind_iff.1 h
  obtain ⟨_, hverify, h⟩ := ok_bind_iff.1 h
  cases h
  exact ⟨⟨signature, mapError_eq_ok.1 hsignature, rfl⟩, mapError_eq_ok.1 hverify⟩

theorem nodesCreateAnswered_ok {payload : NodesCreateRequest} {signer : String} {answer} {event}
    (h : nodesCreateAnswered c payload signer (.some answer) = .ok event) : answer = .ok (.some signer) ∧
      event = ⟨payload.data.nodeSmallId.toInt64, payload.data.publicAddress, payload.data.country⟩ := by
  unfold nodesCreateAnswered at h
  split at h
  · cases h
  · cases h
  · cases h
  · next owner heq =>
    cases heq
    split at h
    · cases h
    · next hsame =>
      cases h
      rw [not_not.1 hsame]
      exact ⟨rfl, rfl⟩

theorem orStatus_eq_ok {ε α : Type} {status : Nat} {x : Except ε α} {a : α} :
    orStatus status x = .ok a ↔ x = .ok a := by
  cases x <;> simp [orStatus]

theorem verifyAttestation_ok {signature : Signature} {hash : List UInt8}
    (h : verifyAttestation c signature hash = .ok ()) :
    c.verify signature.scheme signature.publicKeyBytes hash signature.signatureBytes = .ok () := by
  unfold verifyAttestation at h
  obtain ⟨_, _, h⟩ := Ending.bind_eq_ok.1 h
  obtain ⟨_, _, h⟩ := Ending.bind_eq_ok.1 h
  exact orStatus_eq_ok.1 h

theorem attestationSigner_ok {header : Option (Option String)} {a : NodeAttestation} {signer : String}
    (h : attestationSigner c header a = .ok signer) : a.SignedBy c signer := by
  unfold attestationSigner at h
  rcases header with _ | _ | text
  · cases h
  · cases h
  · obtain ⟨signature, _, h⟩ := Ending.bind_eq_ok.1 h
    obtain ⟨_, _, h⟩ := Ending.bind_eq_ok.1 h
    obtain ⟨_, hverify, h⟩ := Ending.bind_eq_ok.1 h
    cases h
    refine ⟨signature, rfl, ?_⟩
    unfold verifyByScheme at hverify
    split at hverify
    · exact verifyAttestation_ok hverify
    · exact verifyAttestation_ok hverify
    · exact verifyAttestation_ok hverify
    · cases hverify

theorem checkNodeAttestation_ok {fails : Bool} {header : Option (Option String)} {a : NodeAttestation}
    (h : checkNodeAttestation c t fails header a = .ok ()) : AttestationSigned c t a := by
  unfold checkNodeAttestation at h
  obtain ⟨signer, hsigner, h⟩ := Ending.bind_eq_ok.1 h
  obtain ⟨answer, hanswer, h⟩ := Ending.bind_eq_ok.1 h
  rw [orStatus_eq_ok, answered_eq_ok, Nodes.getNodeSuiAddress, Except.ok.injEq] at hanswer
  refine ⟨signer, attestationSigner_ok hsigner, ?_⟩
  cases answer with
  | none => cases h
  | some publicAddress =>
    dsimp only at h
    split at h
    · cases h
    · next hsame => rw [Nodes.Owned, hanswer.2, not_not.1 hsame]

/-! ## What is kept -/

/-- An event of these requests is as its sender checked it. -/
def NodesEvent.Signed (c : NodesCrypto) (t : Nodes) : NodesEvent → Prop
  | .getNodeSuiAddress payload signer => payload.SignedBy c signer
  | .upsertNodePublicAddress event => AddressSigned c t event

/-- Whatever was checked is still as it was checked, and what is stored was. -/
structure PublishingState.Signed (c : NodesCrypto) (s : PublishingState) : Prop where
  events : ∀ event ∈ s.events.sent, event.Signed c s.nodes
  answeredRequests : ∀ r ∈ s.answeredRequests, r.payload.SignedBy c r.signer ∧
    ∀ owner, r.answer = .ok (.some owner) → s.nodes.Owned r.payload.data.nodeSmallId.toInt64 owner
  checked : ∀ a ∈ s.checked, AttestationSigned c s.nodes a
  attestations : ∀ id evidence, s.attestations id = .some evidence → AttestationSigned c s.nodes ⟨id, evidence⟩

namespace PublishingState

variable {s s' : PublishingState}

/-- Bindings that are kept keep everything. -/
theorem Signed.of_nodes (h : s.Signed c) {nodes : Nodes} (hk : s.nodes.KeepsOwners nodes) :
    ({ s with nodes } : PublishingState).Signed c where
  events event hevent := by
    have hsigned := h.events event hevent
    cases event with
    | getNodeSuiAddress payload signer => exact hsigned
    | upsertNodePublicAddress event => exact AddressSigned.mono hsigned hk
  answeredRequests r hr :=
    ⟨(h.answeredRequests r hr).1, fun owner howner => hk _ _ ((h.answeredRequests r hr).2 owner howner)⟩
  checked a ha := (h.checked a ha).mono hk
  attestations id evidence he := (h.attestations id evidence he).mono hk

theorem Signed.send (h : s.Signed c) {event : NodesEvent} (he : event.Signed c s.nodes) : (s.sendEvent event).Signed c := by
  refine ⟨fun event' hmem => ?_, h.answeredRequests, h.checked, h.attestations⟩
  unfold sendEvent at hmem
  cases hsend : s.events.send event with
  | none =>
    rw [hsend] at hmem
    exact h.events event' hmem
  | some events =>
    rw [hsend, Option.getD_some, (Channel.send_some hsend).1, List.mem_append, List.mem_singleton] at hmem
    rcases hmem with hmem | rfl
    · exact h.events event' hmem
    · exact he

theorem Signed.handleEvent (h : s.Signed c) (fails : Bool) {event : NodesEvent} (he : event.Signed c s.nodes) :
    (s.handleNodesEvent fails event).Signed c := by
  cases event with
  | getNodeSuiAddress payload signer =>
    refine ⟨h.events, fun r hr => ?_, h.checked, h.attestations⟩
    rcases List.mem_append.1 hr with hr | hr
    · exact h.answeredRequests r hr
    · rw [List.mem_singleton.1 hr]
      refine ⟨he, fun owner howner => ?_⟩
      have hread := (answered_eq_ok.1 howner).2
      rw [Nodes.getNodeSuiAddress, Except.ok.injEq] at hread
      exact hread
  | upsertNodePublicAddress event =>
    unfold handleNodesEvent
    dsimp only
    split
    · next nodes hupdate => exact h.of_nodes (sameOwners_upsert (answered_eq_ok.1 hupdate).2).keeps
    · exact h

theorem Signed.goOn (h : s.Signed c) {r : AnsweredRequest} (hr : r ∈ s.answeredRequests) {event}
    (he : nodesCreateAnswered c r.payload r.signer (.some r.answer) = .ok event) : AddressSigned c s.nodes event := by
  obtain ⟨hanswer, rfl⟩ := nodesCreateAnswered_ok he
  obtain ⟨hsigned, howned⟩ := h.answeredRequests r hr
  exact ⟨r.payload, r.signer, rfl, rfl, rfl, hsigned, howned r.signer hanswer⟩

theorem updateNodeAttestation_ok {t t' : NodeAttestations} {a : NodeAttestation}
    (h : t.updateNodeAttestation a = .ok t') :
    t' = Function.update t a.nodeSmallId (.some a.compressedEvidence) := by
  rw [NodeAttestations.updateNodeAttestation, query_eq_ok, Table.upsertRow_ok] at h
  obtain ⟨row, hrow, rfl⟩ := h
  rcases hrow with ⟨_, rfl⟩ | ⟨_, _, hrow⟩
  · rfl
  · rw [Except.ok.injEq] at hrow
    rw [hrow]

/-- **Step lemma.** -/
theorem Signed.step (h : s.Signed c) {a : PublishingStep} (hstep : (publishingMachine c).step s a = .some s') :
    s'.Signed c := by
  cases a with
  | nodesCreate payload =>
    dsimp only [publishingMachine, PublishingState.step] at hstep
    split at hstep
    · next signer hsigner =>
      cases hstep
      exact h.send (nodesCreateSigner_ok hsigner)
    · cases hstep
      exact h
  | handleEvent fails =>
    obtain ⟨⟨event, events⟩, hrecv, rfl⟩ := Option.map_eq_some_iff.1 hstep
    obtain ⟨hhead, hsent, _⟩ := Channel.recv_some hrecv
    have hmem : event ∈ s.events.sent := List.mem_append_right _ (List.mem_of_head? hhead)
    have hreceived : ({ s with events } : PublishingState).Signed c :=
      ⟨fun event' he => h.events event' (hsent ▸ he), h.answeredRequests, h.checked, h.attestations⟩
    exact hreceived.handleEvent fails (h.events event hmem)
  | goOn n =>
    obtain ⟨r, hr, rfl⟩ := Option.map_eq_some_iff.1 hstep
    have hrest : ({ s with answeredRequests := s.answeredRequests.eraseIdx n } : PublishingState).Signed c :=
      ⟨h.events, fun r' hr' => h.answeredRequests r' (List.mem_of_mem_eraseIdx hr'), h.checked, h.attestations⟩
    dsimp only
    split
    · next event he => exact hrest.send (h.goOn (List.mem_of_getElem? hr) he)
    · exact hrest
  | checkAttestation header a fails =>
    dsimp only [publishingMachine, PublishingState.step] at hstep
    split at hstep
    · next hcheck =>
      cases hstep
      refine ⟨h.events, h.answeredRequests, fun a' ha' => ?_, h.attestations⟩
      rcases List.mem_append.1 ha' with ha' | ha'
      · exact h.checked a' ha'
      · rw [List.mem_singleton.1 ha']
        exact checkNodeAttestation_ok hcheck
    · cases hstep
      exact h
  | writeAttestation n fails =>
    obtain ⟨a, ha, rfl⟩ := Option.map_eq_some_iff.1 hstep
    have hrest : ({ s with checked := s.checked.eraseIdx n } : PublishingState).Signed c :=
      ⟨h.events, h.answeredRequests, fun a' ha' => h.checked a' (List.mem_of_mem_eraseIdx ha'), h.attestations⟩
    dsimp only
    split
    · next attestations hwrite =>
      rw [updateNodeAttestation_ok (answered_eq_ok.1 hwrite).2]
      refine ⟨hrest.events, hrest.answeredRequests, hrest.checked, fun id evidence he => ?_⟩
      dsimp only at he
      by_cases hid : id = a.nodeSmallId
      · rw [hid, Function.update_self, Option.some.injEq] at he
        rw [hid, ← he]
        exact h.checked a (List.mem_of_getElem? ha)
      · rw [Function.update_of_ne hid] at he
        exact h.attestations id evidence he
    · exact hrest
  | nodeRegistered event address fails =>
    dsimp only [publishingMachine, PublishingState.step] at hstep
    split at hstep
    · next nodes hinsert =>
      cases hstep
      obtain ⟨hnone, hnodes⟩ := Nodes.insertNewNode_ok.1 (answered_eq_ok.1 hinsert).2
      rw [hnodes]
      exact h.of_nodes (keepsOwners_bound hnone)
    · cases hstep
      exact h
  | p2p answers event sender =>
    cases hstep
    exact h.of_nodes (sameOwners_p2p answers event sender).keeps

theorem signed_empty : PublishingState.empty.Signed c where
  events _ h := absurd h List.not_mem_nil
  answeredRequests _ h := absurd h List.not_mem_nil
  checked _ h := absurd h List.not_mem_nil
  attestations _ _ h := nomatch h

/-- **Run lemma.** -/
theorem Signed.run {steps : List PublishingStep} (h : (publishingMachine c).run .empty steps = .some s) : s.Signed c :=
  Machine.run_invariant (C := fun _ _ => True) (fun hs _ hstep => hs.step hstep) signed_empty
    (Machine.guarded_of_forall (fun _ _ => trivial) steps _) h

/-! ## Where an address is from -/

/-- What a step does to the table of nodes. -/
inductive NodesWrite (s : PublishingState) : PublishingStep → Nodes → Prop where
  | same {a} : NodesWrite s a s.nodes
  | upsert {fails} {event : UpsertNodePublicAddress} (sent : .upsertNodePublicAddress event ∈ s.events.sent) :
    NodesWrite s (.handleEvent fails) (s.nodes.after event.nodeSmallId fun node =>
      .ok (node.updatePublicAddress event.publicAddress event.country))
  | registered {event : NodeRegisteredEvent} {address fails} (unbound : s.nodes event.nodeSmallId.toInt64 = .none) :
    NodesWrite s (.nodeRegistered event address fails) (Function.update s.nodes event.nodeSmallId.toInt64
      (.some ⟨event.badgeId, address, .none, .none, .none⟩))
  | p2p {answers url sender country} {id timestamp : UInt64} :
    NodesWrite s (.p2p answers (.nodeMetricsRegistrationEvent url id timestamp country) sender)
      (s.nodes.after id.toInt64 fun node => .ok (node.updatePublicAddress url country))

theorem sendEvent_nodes (event : NodesEvent) : (s.sendEvent event).nodes = s.nodes := rfl

theorem step_nodesWrite {a : PublishingStep} (hstep : (publishingMachine c).step s a = .some s') :
    NodesWrite s a s'.nodes := by
  cases a with
  | nodesCreate payload =>
    dsimp only [publishingMachine, PublishingState.step] at hstep
    split at hstep <;> cases hstep <;> exact .same
  | handleEvent fails =>
    obtain ⟨⟨event, events⟩, hrecv, rfl⟩ := Option.map_eq_some_iff.1 hstep
    have hmem : event ∈ s.events.sent := List.mem_append_right _ (List.mem_of_head? (Channel.recv_some hrecv).1)
    cases event with
    | getNodeSuiAddress payload signer => exact .same
    | upsertNodePublicAddress event =>
      unfold handleNodesEvent
      dsimp only
      split
      · next nodes hupdate =>
        have hnodes := (answered_eq_ok.1 hupdate).2
        rw [Nodes.updateNodePublicAddress_eq] at hnodes
        cases hnodes
        exact .upsert hmem
      · exact .same
  | goOn n =>
    obtain ⟨r, _, rfl⟩ := Option.map_eq_some_iff.1 hstep
    dsimp only
    split
    · rw [sendEvent_nodes]
      exact .same
    · exact .same
  | checkAttestation header a fails =>
    dsimp only [publishingMachine, PublishingState.step] at hstep
    split at hstep <;> cases hstep <;> exact .same
  | writeAttestation n fails =>
    obtain ⟨a, _, rfl⟩ := Option.map_eq_some_iff.1 hstep
    dsimp only
    split <;> exact .same
  | nodeRegistered event address fails =>
    dsimp only [publishingMachine, PublishingState.step] at hstep
    split at hstep
    · next nodes hinsert =>
      cases hstep
      obtain ⟨hnone, hnodes⟩ := Nodes.insertNewNode_ok.1 (answered_eq_ok.1 hinsert).2
      dsimp only
      rw [hnodes]
      exact .registered hnone
    · cases hstep
      exact .same
  | p2p answers event sender =>
    cases hstep
    dsimp only
    cases event with
    | nodeMetricsRegistrationEvent url id timestamp country =>
      rw [(handleP2pEvent_registration s.nodes answers url id timestamp country sender).2.2]
      split
      · exact .p2p
      · exact .same
    | verifyNodeSmallIdOwnership id suiAddress =>
      cases sender with
      | none => exact .same
      | some sender => cases sender <;> exact .same

/-- A node of the p2p network registered its metrics under that address, for that small id. -/
def RegisteredByP2p (steps : List PublishingStep) (event : UpsertNodePublicAddress) : Prop :=
  ∃ answers sender, ∃ nodeSmallId timestamp : UInt64, nodeSmallId.toInt64 = event.nodeSmallId ∧
    .p2p answers (.nodeMetricsRegistrationEvent event.publicAddress nodeSmallId timestamp event.country) sender ∈ steps

/-- A row's address, with the row's country, is signed for by the row's owner or came over the p2p network. -/
def AddressKnown (c : NodesCrypto) (steps : List PublishingStep) (t : Nodes) (id : Int64) (node : Node) : Prop :=
  ∀ address, node.publicAddress = .some address → ∃ country, node.country = .some country ∧
    (AddressSigned c t ⟨id, address, country⟩ ∨ RegisteredByP2p steps ⟨id, address, country⟩)

theorem AddressKnown.mono {steps : List PublishingStep} {a : PublishingStep} {id : Int64} {node : Node}
    (h : AddressKnown c steps t id node) (hk : t.KeepsOwners t') : AddressKnown c (steps ++ [a]) t' id node := by
  intro address haddress
  obtain ⟨country, hcountry, hknown⟩ := h address haddress
  refine ⟨country, hcountry, hknown.imp (·.mono hk) ?_⟩
  intro ⟨answers, sender, id', timestamp, hid, hmem⟩
  exact ⟨answers, sender, id', timestamp, hid, List.mem_append_left _ hmem⟩

/-- A row that `updatePublicAddress` leaves is the old one or has both that it was given. -/
theorem updatePublicAddress_row (address country : String) (node : Node) :
    (node.updatePublicAddress address country).getD node = node ∨
      ((node.updatePublicAddress address country).getD node).publicAddress = .some address ∧
        ((node.updatePublicAddress address country).getD node).country = .some country := by
  unfold Node.updatePublicAddress
  split
  · exact .inr ⟨rfl, rfl⟩
  · exact .inl rfl

theorem addressKnown_after {steps : List PublishingStep} {a : PublishingStep} {id : Int64} {address country : String}
    (h : ∀ id node, t id = .some node → AddressKnown c steps t id node)
    (hk : t.KeepsOwners (t.after id fun node => .ok (node.updatePublicAddress address country)))
    (hnew : AddressSigned c t ⟨id, address, country⟩ ∨ RegisteredByP2p (steps ++ [a]) ⟨id, address, country⟩)
    {id' : Int64} {node' : Node}
    (hrow : t.after id (fun node => .ok (node.updatePublicAddress address country)) id' = .some node') :
    AddressKnown c (steps ++ [a]) (t.after id fun node => .ok (node.updatePublicAddress address country)) id' node' := by
  rw [Nodes.after_row] at hrow
  split at hrow
  · next hid =>
    subst hid
    obtain ⟨node, hnode, rfl⟩ := Option.map_eq_some_iff.1 hrow
    rcases updatePublicAddress_row address country node with hsame | ⟨haddress, hcountry⟩
    · rw [hsame]
      exact (h id' node hnode).mono hk
    · intro address' haddress'
      rw [haddress, Option.some.injEq] at haddress'
      subst haddress'
      exact ⟨country, hcountry, hnew.imp_left (·.mono hk)⟩
  · exact (h id' node' hrow).mono hk

theorem addressKnown_step {steps : List PublishingStep} {a : PublishingStep} (hs : s.Signed c)
    (h : ∀ id node, s.nodes id = .some node → AddressKnown c steps s.nodes id node)
    (hstep : (publishingMachine c).step s a = .some s') :
    ∀ id node, s'.nodes id = .some node → AddressKnown c (steps ++ [a]) s'.nodes id node := by
  intro id node hnode
  have hwrite := step_nodesWrite hstep
  revert hnode
  generalize s'.nodes = t' at hwrite ⊢
  cases hwrite with
  | same => exact fun hnode => (h id node hnode).mono fun _ _ ho => ho
  | upsert hsent =>
    exact addressKnown_after h (Nodes.sameOwners_after (Node.suiAddress_updatePublicAddress _ _) _ _).keeps
      (.inl (hs.events _ hsent))
  | @registered event address fails hnone =>
    intro hnode
    by_cases hid : id = event.nodeSmallId.toInt64
    · rw [hid, Function.update_self, Option.some.injEq] at hnode
      intro address' haddress'
      rw [← hnode] at haddress'
      cases haddress'
    · rw [Function.update_of_ne hid] at hnode
      exact (h id node hnode).mono (keepsOwners_bound hnone)
  | @p2p answers url sender country nodeSmallId timestamp =>
    refine addressKnown_after h (Nodes.sameOwners_after (Node.suiAddress_updatePublicAddress _ _) _ _).keeps (.inr ?_)
    exact ⟨answers, sender, nodeSmallId, timestamp, rfl, List.mem_append_right _ List.mem_cons_self⟩

theorem addressKnown_run {steps : List PublishingStep} (h : (publishingMachine c).run .empty steps = .some s) :
    ∀ id node, s.nodes id = .some node → AddressKnown c steps s.nodes id node :=
  (@Machine.run_history _ _ (publishingMachine c) (fun steps s => s.Signed c ∧
      ∀ id node, s.nodes id = .some node → AddressKnown c steps s.nodes id node)
    (fun hr hstep => ⟨hr.1.step hstep, addressKnown_step hr.1 hr.2 hstep⟩) steps [] .empty s
    ⟨signed_empty, fun _ _ hnode => nomatch hnode⟩ h).2

end PublishingState

/-! ## Main results -/

/-- **Main result.** After any run, every address that the proxy's endpoint sent on for a small id is signed for by the
Sui address the small id is registered with; and an address in the table is one that is signed for, together with its
country, or one that came over the p2p network. -/
theorem published_addresses_signed {steps : List PublishingStep} {s : PublishingState}
    (hrun : (publishingMachine c).run .empty steps = .some s) :
    (∀ event, .upsertNodePublicAddress event ∈ s.events.sent → AddressSigned c s.nodes event) ∧
      ∀ id node address, s.nodes id = .some node → node.publicAddress = .some address →
        ∃ country, node.country = .some country ∧ (AddressSigned c s.nodes ⟨id, address, country⟩ ∨
          PublishingState.RegisteredByP2p steps ⟨id, address, country⟩) :=
  ⟨fun event hevent => (PublishingState.Signed.run hrun).events (.upsertNodePublicAddress event) hevent,
    fun id node address hnode haddress => PublishingState.addressKnown_run hrun id node hnode address haddress⟩

/-- **Main result.** After any run, the attestation a small id is answered with was signed, as it is answered, by a
key of the Sui address the small id is registered with. -/
theorem attestations_signed {steps : List PublishingStep} {s : PublishingState}
    (hrun : (publishingMachine c).run .empty steps = .some s) {fails : Bool} {id : Int64} {a : NodeAttestation}
    (hget : getNodeAttestationEndpoint s.attestations fails id = .ok a) :
    a.nodeSmallId = id ∧ AttestationSigned c s.nodes a := by
  unfold getNodeAttestationEndpoint at hget
  obtain ⟨answer, hanswer, hget⟩ := Ending.bind_eq_ok.1 hget
  rw [orStatus_eq_ok, answered_eq_ok, NodeAttestations.getNodeAttestation, Except.ok.injEq] at hanswer
  cases hrow : s.attestations id with
  | none =>
    rw [← hanswer.2, hrow] at hget
    cases hget
  | some evidence =>
    rw [← hanswer.2, hrow] at hget
    cases hget
    exact ⟨rfl, (PublishingState.Signed.run hrun).attestations id evidence hrow⟩

end

/-- A library to which every text is a signature of the key of "0xa". -/
def nodesCryptoExample : NodesCrypto where
  signatureFromStr := fun _ => .ok ⟨.ed25519, [1], [2]⟩
  publicKeyFromBytes := fun _ _ => .ok ()
  schemeKeyFromBytes := fun _ _ => .ok ()
  schemeSignatureFromBytes := fun _ _ => .ok ()
  verify := fun _ _ _ _ => .ok ()
  blake2b := fun _ => []
  suiAddressText := fun _ _ => "0xa"
  verifySignature := fun _ _ => .ok ()
  debug := fun _ => ""

/-- Node 1, of "0xa", publishes its address and its attestation. -/
def publishingExample : List PublishingStep :=
  [.nodeRegistered ⟨"badge", 1⟩ "0xa" false, .nodesCreate ⟨⟨1, "https://a", "US"⟩, "signature"⟩,
    .handleEvent false, .goOn 0, .checkAttestation (.some (.some "signature")) ⟨1, [7]⟩ false, .handleEvent false,
    .writeAttestation 0 false]

theorem published_addresses_signed_example : ∃ s,
    (publishingMachine nodesCryptoExample).run .empty publishingExample = .some s ∧
      AddressSigned nodesCryptoExample s.nodes ⟨1, "https://a", "US"⟩ :=
  ⟨_, rfl, (@published_addresses_signed nodesCryptoExample publishingExample _ rfl).1 ⟨1, "https://a", "US"⟩
    (.tail _ (.head _))⟩

theorem attestations_signed_example : ∃ s,
    (publishingMachine nodesCryptoExample).run .empty publishingExample = .some s ∧
      AttestationSigned nodesCryptoExample s.nodes ⟨1, [7]⟩ :=
  ⟨_, rfl, (@attestations_signed nodesCryptoExample publishingExample _ rfl false 1 ⟨1, [7]⟩ rfl).2⟩

end AtomaProxy
