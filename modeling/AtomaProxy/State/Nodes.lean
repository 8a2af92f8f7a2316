/-
The table `nodes`: what binds a node's small id to its Sui address, the two
statements that write its public address, and the check of its ownership.

A row is inserted by the node's registration on chain, with its Sui address
and without a public one. Registering a public URL asks for a timestamp newer
than the row's and stores it; `update_node_public_address`, which the p2p
registrations and the proxy's own endpoint come to, has no timestamp to ask
for. The ownership check compares the public address.
-/
import AtomaProxy.Base.Checked
import AtomaProxy.State.Errors

namespace AtomaProxy

open Base

/-- A row of `nodes`, under its `node_small_id`. -/
structure Node where
  nodeId : String
  suiAddress : String
  publicAddress : Option String
  country : Option String
  timestamp : Option Int64
  deriving DecidableEq, Repr

/-- `public_address IS DISTINCT FROM $2 OR country IS DISTINCT FROM $3`. -/
abbrev Node.Distinct (node : Node) (address country : String) : Prop :=
  node.publicAddress ≠ .some address ∨ node.country ≠ .some country

/-- `timestamp IS NULL OR timestamp < $3`. -/
def Node.isOlder (node : Node) (timestamp : Int64) : Bool :=
  match node.timestamp with
  | .none => true
  | .some t => t < timestamp

/-- The row of the `UPDATE` of `update_node_public_address`. -/
def Node.updatePublicAddress (address country : String) (node : Node) : Option Node :=
  if node.Distinct address country then
    .some { node with publicAddress := .some address, country := .some country }
  else .none

/-- The row of the `UPDATE` of `register_node_public_url`. -/
def Node.registerPublicUrl (publicUrl : String) (timestamp : Int64) (country : String) (node : Node) : Option Node :=
  if node.isOlder timestamp ∧ node.Distinct publicUrl country then
    .some { node with publicAddress := .some publicUrl, timestamp := .some timestamp, country := .some country }
  else .none

abbrev Nodes := Table Int64 Node

namespace Nodes

/-- `insert_new_node`. -/
def insertNewNode (t : Nodes) (nodeSmallId : Int64) (nodeId suiAddress : String) :
    Except AtomaStateManagerError Nodes :=
  query (t.insertRow nodeSmallId (.ok ⟨nodeId, suiAddress, .none, .none, .none⟩))

/-- `update_node_public_address`: no row affected is not an error. -/
def updateNodePublicAddress (t : Nodes) (smallId : Int64) (address country : String) :
    Except AtomaStateManagerError Nodes := do
  let (_, t') ← query (t.updateRow smallId fun node => .ok (node.updatePublicAddress address country))
  .ok t'

/-- `verify_node_small_id_ownership`. -/
def verifyNodeSmallIdOwnership (t : Nodes) (nodeSmallId : Int64) (suiAddress : String) :
    Except AtomaStateManagerError Unit :=
  if (t nodeSmallId).any fun node => node.publicAddress = .some suiAddress then .ok ()
  else .error .nodeSmallIdOwnershipVerificationFailed

end Nodes

/-! ## `register_node_public_url` -/

/-- `isocountry::CountryCode::for_alpha2(…).is_ok()` and `url::Url::parse(…).is_ok()`. -/
structure UrlValidation where
  isCountry : String → Bool
  isUrl : String → Bool

/-- `validation::validate_timestamp`, at a time in milliseconds: 250 more are let pass. -/
def validateTimestamp (nowMillis : Int) (timestamp : Int64) : Except AtomaStateManagerError Unit :=
  if timestamp.toInt > (nowMillis + 250).tdiv 1000 then .error .invalidTimestamp else .ok ()

def validateCountry (v : UrlValidation) (country : String) : Except AtomaStateManagerError Unit :=
  if v.isCountry country then .ok () else .error (.invalidCountry country)

def validateUrl (v : UrlValidation) (url : String) : Except AtomaStateManagerError Unit :=
  if v.isUrl url then .ok () else .error (.invalidUrl url)

/-- `NUM_RETRIES`. -/
def numRetries : Nat := 3

namespace Nodes

/-- The loop, with so many attempts left, from attempt `retry`. `others` is what happens to the table while it
sleeps after an attempt; after the last one it does not sleep. -/
def registerAttempts (nodeSmallId : Int64) (f : Node → Option Node) (others : Nat → Nodes → Nodes) :
    Nat → Nat → Nodes → Nodes × Except AtomaStateManagerError Unit
  | 0, _, t => (t, .error .nodeNotFound)
  | left + 1, retry, t =>
    match query (t.updateRow nodeSmallId fun node => .ok (f node)) with
    | .error e => (t, .error e)
    | .ok (true, t') => (t', .ok ())
    | .ok (false, t') =>
      registerAttempts nodeSmallId f others left (retry + 1) (if left = 0 then t' else others retry t')

/-- `register_node_public_url`. -/
def registerNodePublicUrl (v : UrlValidation) (nowMillis : Int) (others : Nat → Nodes → Nodes) (t : Nodes)
    (nodeSmallId : Int64) (publicUrl : String) (timestamp : Int64) (country : String) :
    Nodes × Except AtomaStateManagerError Unit :=
  match (do validateTimestamp nowMillis timestamp; validateCountry v country; validateUrl v publicUrl) with
  | .error e => (t, .error e)
  | .ok () => registerAttempts nodeSmallId (Node.registerPublicUrl publicUrl timestamp country) others numRetries 0 t

end Nodes

/-! ## The handlers -/

structure NodeRegisteredEvent where
  badgeId : String
  nodeSmallId : UInt64
  deriving DecidableEq, Repr

/-- `handle_node_registration_event`. -/
def Nodes.handleNodeRegistrationEvent (t : Nodes) (event : NodeRegisteredEvent) (address : String) :
    Except AtomaStateManagerError Nodes :=
  t.insertNewNode event.nodeSmallId.toInt64 event.badgeId address

/-- `AtomaP2pEvent`. -/
inductive AtomaP2pEvent where
  | nodeMetricsRegistrationEvent (publicUrl : String) (nodeSmallId timestamp : UInt64) (country : String)
  | verifyNodeSmallIdOwnership (nodeSmallId : UInt64) (suiAddress : String)
  deriving DecidableEq, Repr

/-- A `oneshot::Sender`: its receiver still waits, or was dropped. -/
inductive OneshotSender where
  | waiting
  | dropped
  deriving DecidableEq, Repr

/-- What an event meets: whether the metrics collector still receives, and whether its statement fails. -/
structure P2pAnswers where
  metricsOpen : Bool
  fails : Bool
  deriving DecidableEq, Repr

/-- The table an event leaves, what was sent to its sender, and how its handling ended. -/
structure P2pHandled where
  nodes : Nodes
  sent : Option Bool
  result : Except AtomaStateManagerError Unit

/-- `handle_node_metrics_registration_event`: the timestamp is logged. -/
def Nodes.handleNodeMetricsRegistrationEvent (t : Nodes) (answers : P2pAnswers) (publicUrl : String)
    (nodeSmallId _timestamp : Int64) (country : String) : Except AtomaStateManagerError Nodes :=
  if answers.metricsOpen then answered answers.fails (t.updateNodePublicAddress nodeSmallId publicUrl country)
  else .error .channelSendError

/-- `handle_node_small_id_ownership_verification_event`. -/
def Nodes.handleNodeSmallIdOwnershipVerificationEvent (t : Nodes) (answers : P2pAnswers) (nodeSmallId : Int64)
    (suiAddress : String) : Except AtomaStateManagerError Unit :=
  answered answers.fails (t.verifyNodeSmallIdOwnership nodeSmallId suiAddress)

/-- `handle_p2p_event`. -/
def handleP2pEvent (t : Nodes) (answers : P2pAnswers) (event : AtomaP2pEvent) (sender : Option OneshotSender) :
    P2pHandled :=
  match event with
  | .nodeMetricsRegistrationEvent publicUrl nodeSmallId timestamp country =>
    match t.handleNodeMetricsRegistrationEvent answers publicUrl nodeSmallId.toInt64 timestamp.toInt64 country with
    | .ok t' => ⟨t', .none, .ok ()⟩
    | .error e => ⟨t, .none, .error e⟩
  | .verifyNodeSmallIdOwnership nodeSmallId suiAddress =>
    let result := t.handleNodeSmallIdOwnershipVerificationEvent answers nodeSmallId.toInt64 suiAddress
    match sender with
    | .some .waiting => ⟨t, .some result.isOk, .ok ()⟩
    | .some .dropped => ⟨t, .none, .error .channelSendError⟩
    | .none => ⟨t, .none, .error .channelSendError⟩

/-! ## What they do -/

namespace Nodes

variable {t t' : Nodes} {id : Int64}

theorem insertNewNode_ok {nodeId suiAddress : String} : t.insertNewNode id nodeId suiAddress = .ok t' ↔
    t id = .none ∧ t' = Function.update t id (.some ⟨nodeId, suiAddress, .none, .none, .none⟩) := by
  simp only [insertNewNode, query_eq_ok, Table.insertRow_ok, Except.ok.injEq, exists_eq_left']

/-- What an `UPDATE` of one row without an error leaves. -/
theorem updateRow_total (t : Nodes) (id : Int64) (f : Node → Option Node) :
    t.updateRow id (fun node => .ok (f node)) =
      .ok (((t id).bind f).isSome, t.after id fun node => .ok (f node)) := by
  cases hupdate : t.updateRow id fun node => .ok (f node) with
  | error e =>
    obtain ⟨_, _, he⟩ := Table.updateRow_error.1 hupdate
    cases he
  | ok r =>
    obtain ⟨affected, t'⟩ := r
    have hafter : (t.after id fun node => .ok (f node)) = t' := by rw [Table.after, hupdate]
    rw [hafter]
    cases affected with
    | true =>
      obtain ⟨node, node', hnode, hf, _⟩ := Table.updateRow_true.1 hupdate
      rw [hnode, Option.bind_some, Except.ok.inj hf, Option.isSome_some]
    | false =>
      obtain ⟨_, hnone⟩ := Table.updateRow_false.1 hupdate
      cases hnode : t id with
      | none => rfl
      | some node => rw [Option.bind_some, Except.ok.inj (hnone node hnode), Option.isSome_none]

theorem updateNodePublicAddress_eq (t : Nodes) (id : Int64) (address country : String) :
    t.updateNodePublicAddress id address country =
      .ok (t.after id fun node => .ok (node.updatePublicAddress address country)) := by
  rw [updateNodePublicAddress, updateRow_total]
  rfl

theorem rowAfter_ok (f : Node → Option Node) (node : Node) :
    Table.rowAfter (fun node => .ok (f node)) node = (f node).getD node := by
  simp only [Table.rowAfter]
  cases f node <;> rfl

/-- A table that an `UPDATE` without an error leaves. -/
theorem after_row (f : Node → Option Node) (id' : Int64) :
    t.after id (fun node => .ok (f node)) id' =
      if id' = id then (t id).map fun node => (f node).getD node else t id' := by
  rw [Table.after_apply]
  simp only [funext (rowAfter_ok f)]

theorem verifyNodeSmallIdOwnership_ok {suiAddress : String} : t.verifyNodeSmallIdOwnership id suiAddress = .ok () ↔
    ∃ node, t id = .some node ∧ node.publicAddress = .some suiAddress := by
  unfold verifyNodeSmallIdOwnership
  cases hnode : t id with
  | none => simp
  | some node => simp

end Nodes

/-- A registration is handled where the metrics collector receives and the statement does not fail. -/
theorem handleP2pEvent_registration (t : Nodes) (answers : P2pAnswers) (publicUrl : String) (id timestamp : UInt64)
    (country : String) (sender : Option OneshotSender) :
    let handled := handleP2pEvent t answers (.nodeMetricsRegistrationEvent publicUrl id timestamp country) sender
    let handles := answers.metricsOpen = true ∧ answers.fails = false
    handled.sent = .none ∧ (handled.result = .ok () ↔ handles) ∧
      handled.nodes =
        if handles then t.after id.toInt64 fun node => .ok (node.updatePublicAddress publicUrl country) else t := by
  obtain ⟨metricsOpen, fails⟩ := answers
  dsimp only [handleP2pEvent, Nodes.handleNodeMetricsRegistrationEvent]
  rw [Nodes.updateNodePublicAddress_eq]
  cases metricsOpen with
  | false => exact ⟨rfl, iff_of_false (fun h => nomatch h) fun h => (nomatch h.1), (if_neg fun h => nomatch h.1).symm⟩
  | true =>
    cases fails with
    | true => exact ⟨rfl, iff_of_false (fun h => nomatch h) fun h => (nomatch h.2), (if_neg fun h => nomatch h.2).symm⟩
    | false => exact ⟨rfl, iff_of_true rfl ⟨rfl, rfl⟩, (if_pos ⟨rfl, rfl⟩).symm⟩

/-- Neither statement on the public address writes the Sui address. -/
theorem Node.suiAddress_updatePublicAddress (address country : String) (node : Node) :
    ((node.updatePublicAddress address country).getD node).suiAddress = node.suiAddress := by
  unfold updatePublicAddress
  split <;> rfl

theorem Node.suiAddress_registerPublicUrl (publicUrl : String) (timestamp : Int64) (country : String) (node : Node) :
    ((node.registerPublicUrl publicUrl timestamp country).getD node).suiAddress = node.suiAddress := by
  unfold registerPublicUrl
  split <;> rfl

end AtomaProxy
