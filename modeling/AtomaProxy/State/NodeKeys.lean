/-
The nodes' public keys: the tables `key_rotations` and `node_public_keys`, the
two statements that write them, and the three queries that say which nodes may
receive confidential requests.

The queries spell one notion in two ways. A stack is bought of a node only if
every row the node has in the latest rotation is valid; a key is handed out if
the rows of that one key are. So a node with a valid key beside a row that is
not valid is refused for purchase, and is still offered through the stacks
that are there.
-/
import AtomaProxy.Base.Records
import AtomaProxy.State.Stacks

namespace AtomaProxy

open Base

/-- A row of `key_rotations`, under its `epoch`. -/
structure KeyRotation where
  epoch : Int64
  keyRotationCounter : Int64
  nonce : Int64
  deriving DecidableEq, Repr

/-- A row of `node_public_keys` with all its columns, under its node and device type. -/
structure NodeKeyRow extends NodePublicKey where
  deviceType : Int64
  epoch : Int64
  evidenceBytes : List UInt8
  deriving DecidableEq, Repr

def NodeKeyRow.key (row : NodeKeyRow) : Int64 × Int64 := (row.nodeSmallId, row.deviceType)

structure KeyTables where
  keyRotations : List KeyRotation
  nodePublicKeys : List NodeKeyRow
  deriving DecidableEq, Repr

/-- `insert_new_key_rotation`. -/
def KeyTables.insertNewKeyRotation (s : KeyTables) (epoch keyRotationCounter nonce : Int64) : KeyTables :=
  { s with keyRotations := putRow KeyRotation.epoch ⟨epoch, keyRotationCounter, nonce⟩ s.keyRotations }

/-- `update_node_public_key`. -/
def KeyTables.updateNodePublicKey (s : KeyTables) (row : NodeKeyRow) : KeyTables :=
  { s with nodePublicKeys := putRow NodeKeyRow.key row s.nodePublicKeys }

/-- `get_contract_key_rotation_nonce`: the nonce of the latest epoch. -/
def KeyTables.getContractKeyRotationNonce (s : KeyTables) : Option Int64 :=
  (latestBy (fun r => r.epoch.toInt) s.keyRotations).map KeyRotation.nonce

/-- What the clauses of the other statements read of these tables. -/
def KeyTables.readBy (s : KeyTables) (c : Catalog) : Catalog :=
  { c with
    nodePublicKeys := s.nodePublicKeys.map NodeKeyRow.toNodePublicKey
    keyRotations := s.keyRotations.map KeyRotation.keyRotationCounter }

/-! ## The three queries -/

namespace Catalog

/-- The `latest_rotation` of the queries that order the rotations by their counters. -/
def newestRotation (c : Catalog) : Option Int := latestBy id (c.keyRotations.map Int64.toInt)

/-- The rows of that rotation. -/
def newestKeys (c : Catalog) : List NodePublicKey :=
  c.nodePublicKeys.filter fun k => c.newestRotation = .some k.keyRotationCounter.toInt

/-- The `valid_nodes` of `get_cheapest_node_for_model`. -/
def purchasableNodes (c : Catalog) : List Int64 :=
  havingAll NodePublicKey.nodeSmallId NodePublicKey.isValid c.newestKeys

/-- The `valid_node` of `select_node_public_key_for_encryption_for_node`. -/
def validKeysForNode (c : Catalog) (nodeSmallId : Int64) : List (Int64 × List UInt8) :=
  havingAll (fun k => (k.nodeSmallId, k.publicKey)) NodePublicKey.isValid
    (c.newestKeys.filter fun k => k.nodeSmallId = nodeSmallId)

end Catalog

/-- `select_node_public_key_for_encryption_for_node`. -/
def selectNodePublicKeyForEncryptionForNode (c : Catalog) (pick : Nat) (nodeSmallId : Int64) :
    Option (Int64 × List UInt8) := fetchOptional (c.validKeysForNode nodeSmallId) pick

/-- `select_node_public_key_for_encryption`, with the key it returns: the row of the join that is taken has one of
the keys of the stack's node. -/
def selectNodeAndKeyForEncryption (s : StackTables) (pick : Option Int64) (pickKey : Nat) (model : String)
    (maxNumTokens userId : Int64) : Except AtomaStateManagerError (Option (Int64 × List UInt8) × StackTables) := do
  let (reserved, s') ← selectNodePublicKeyForEncryption s pick model maxNumTokens userId
  let key := reserved.bind fun row =>
    fetchOptional (s.catalog.validNodes.filter fun v => v.1 = row.2.selectedNodeId) pickKey
  .ok (key, s')

/-- A row of `node_subscriptions`. -/
structure NodeSubscription where
  nodeSmallId : Int64
  taskSmallId : Int64
  pricePerOneMillionComputeUnits : Int64
  maxNumComputeUnits : Int64
  valid : Bool
  deriving DecidableEq, Repr

/-- The rows `get_cheapest_node_for_model` orders by their price. -/
def Catalog.offers (c : Catalog) (subscriptions : List NodeSubscription) (model : String) (isConfidential : Bool) :
    List NodeSubscription :=
  subscriptions.filter fun offer =>
    (!isConfidential || offer.nodeSmallId ∈ c.purchasableNodes) && offer.valid &&
      (c.tasks offer.taskSmallId).any fun task =>
        !task.isDeprecated && task.modelName = .some model && (!isConfidential || task.securityLevel = 1)

/-- `get_cheapest_node_for_model`. -/
def getCheapestNodeForModel (c : Catalog) (subscriptions : List NodeSubscription) (pick : Nat) (model : String)
    (isConfidential : Bool) : Option NodeSubscription :=
  let offers := c.offers subscriptions model isConfidential
  fetchOptional (offers.filter fun offer => offers.all fun other =>
    offer.pricePerOneMillionComputeUnits ≤ other.pricePerOneMillionComputeUnits) pick

/-! ## Who may receive confidential requests -/

namespace Catalog

variable {c : Catalog}

/-- The greatest counter is the first one in descending order. -/
theorem newestRotation_eq : c.newestRotation = c.latestRotation := by
  unfold newestRotation latestRotation
  generalize c.keyRotations.map Int64.toInt = counters
  cases h : latestBy id counters with
  | none =>
    rw [latestBy_eq_none.1 h]
    rfl
  | some m => exact (List.max?_eq_some_iff.2 (latestBy_eq_some h)).symm

/-- The rows of the latest rotation. -/
theorem mem_newestKeys {k : NodePublicKey} :
    k ∈ c.newestKeys ↔ k ∈ c.nodePublicKeys ∧ c.latestRotation = .some k.keyRotationCounter.toInt := by
  rw [newestKeys, newestRotation_eq, List.mem_filter, decide_eq_true_iff]

/-- A node and a key that some row of the latest rotation has, all of whose rows there are valid. -/
theorem mem_validNodes {n : Int64} {key : List UInt8} : (n, key) ∈ c.validNodes ↔
    (∃ k ∈ c.newestKeys, k.nodeSmallId = n ∧ k.publicKey = key) ∧
      ∀ k ∈ c.newestKeys, k.nodeSmallId = n → k.publicKey = key → k.isValid = true := by
  have hvalid : c.validNodes =
      havingAll (fun k => (k.nodeSmallId, k.publicKey)) NodePublicKey.isValid c.newestKeys := by
    rw [newestKeys, newestRotation_eq]
    rfl
  simp only [hvalid, mem_havingAll, Prod.mk.injEq, and_imp]

theorem mem_validKeysForNode {n m : Int64} {key : List UInt8} :
    (m, key) ∈ c.validKeysForNode n ↔ m = n ∧ (n, key) ∈ c.validNodes := by
  simp only [validKeysForNode, mem_havingAll, mem_validNodes, List.mem_filter, decide_eq_true_iff, Prod.mk.injEq,
    and_imp]
  constructor
  · intro h
    obtain ⟨⟨k, ⟨hk, hn⟩, hm, hkey⟩, hall⟩ := h
    have hmn : m = n := hm.symm.trans hn
    exact ⟨hmn, ⟨k, hk, hn, hkey⟩, fun k' hk' hn' hkey' => hall k' hk' hn' (hn'.trans hmn.symm) hkey'⟩
  · intro h
    obtain ⟨rfl, ⟨k, hk, hn, hkey⟩, hall⟩ := h
    exact ⟨⟨k, ⟨hk, hn⟩, hn, hkey⟩, fun k' hk' hn' _ hkey' => hall k' hk' hn' hkey'⟩

theorem mem_purchasableNodes {n : Int64} : n ∈ c.purchasableNodes ↔
    (∃ k ∈ c.newestKeys, k.nodeSmallId = n) ∧ ∀ k ∈ c.newestKeys, k.nodeSmallId = n → k.isValid = true := by
  rw [purchasableNodes, mem_havingAll]

/-- The node is one that `select_node_public_key_for_encryption` joins the stacks with. -/
def offersKeyOf (c : Catalog) (n : Int64) : Bool := c.validNodes.any fun v => v.1 = n

theorem offersKeyOf_iff {n : Int64} : c.offersKeyOf n = true ↔ ∃ key, (n, key) ∈ c.validNodes := by
  rw [offersKeyOf, List.any_eq_true]
  constructor
  · intro h
    obtain ⟨⟨m, key⟩, hmem, hn⟩ := h
    exact ⟨key, of_decide_eq_true hn ▸ hmem⟩
  · intro h
    obtain ⟨key, hmem⟩ := h
    exact ⟨(n, key), hmem, decide_eq_true rfl⟩

/-- A key is found for a node exactly if its stacks are offered. -/
theorem selectForNode_isSome {pick : Nat} {n : Int64} :
    (selectNodePublicKeyForEncryptionForNode c pick n).isSome = true ↔ ∃ key, (n, key) ∈ c.validNodes := by
  rw [selectNodePublicKeyForEncryptionForNode, fetchOptional_isSome]
  constructor
  · intro h
    obtain ⟨⟨m, key⟩, hmem⟩ := h
    exact ⟨key, (mem_validKeysForNode.1 hmem).2⟩
  · intro h
    obtain ⟨key, hmem⟩ := h
    exact ⟨(n, key), mem_validKeysForNode.2 ⟨rfl, hmem⟩⟩

/-- A key that a query returns is one of the latest rotation. -/
theorem selectForNode_mem {pick : Nat} {n m : Int64} {key : List UInt8}
    (h : selectNodePublicKeyForEncryptionForNode c pick n = .some (m, key)) : m = n ∧ (n, key) ∈ c.validNodes :=
  mem_validKeysForNode.1 (mem_of_fetchOptional h)

theorem selectNodeAndKey_mem {s s' : StackTables} {pick : Option Int64} {pickKey : Nat} {model : String}
    {maxNumTokens userId n : Int64} {key : List UInt8}
    (h : selectNodeAndKeyForEncryption s pick pickKey model maxNumTokens userId = .ok (.some (n, key), s')) :
    (n, key) ∈ s.catalog.validNodes := by
  simp only [selectNodeAndKeyForEncryption, ok_bind_iff, Except.ok.injEq, Prod.mk.injEq, Option.bind_eq_some_iff] at h
  obtain ⟨_, _, ⟨row, _, hkey⟩, _⟩ := h
  exact List.mem_of_mem_filter (mem_of_fetchOptional hkey)

/-- A node of which a stack may be bought has a key. -/
theorem exists_validKey {n : Int64} (h : n ∈ c.purchasableNodes) : ∃ key, (n, key) ∈ c.validNodes := by
  obtain ⟨⟨k, hk, hn⟩, hall⟩ := mem_purchasableNodes.1 h
  exact ⟨k.publicKey, mem_validNodes.2 ⟨⟨k, hk, hn, rfl⟩, fun k' hk' hn' _ => hall k' hk' hn'⟩⟩

/-- The cheapest node for a confidential request has a key. -/
theorem cheapest_has_key {subscriptions : List NodeSubscription} {pick pick' : Nat} {model : String}
    {offer : NodeSubscription} (h : getCheapestNodeForModel c subscriptions pick model true = .some offer) :
    (selectNodePublicKeyForEncryptionForNode c pick' offer.nodeSmallId).isSome = true := by
  have hmem := List.mem_of_mem_filter (mem_of_fetchOptional h)
  rw [offers, List.mem_filter] at hmem
  simp only [Bool.not_true, Bool.false_or, Bool.and_eq_true, decide_eq_true_iff] at hmem
  exact selectForNode_isSome.2 (exists_validKey hmem.2.1.1)

/-- In the latest rotation the node has a key all of whose rows are valid, beside a row that is not. -/
def Mixed (c : Catalog) (n : Int64) : Prop :=
  ∃ k ∈ c.newestKeys, k.nodeSmallId = n ∧ (∀ k' ∈ c.newestKeys, k'.nodeSmallId = n → k'.publicKey = k.publicKey →
    k'.isValid = true) ∧ ∃ r ∈ c.newestKeys, r.nodeSmallId = n ∧ r.isValid = false

end Catalog

/-- **Main result.** The three queries agree on a node exactly if it is not mixed. -/
theorem confidential_eligibility_iff (c : Catalog) (pick : Nat) (n : Int64) :
    ((n ∈ c.purchasableNodes ↔ (selectNodePublicKeyForEncryptionForNode c pick n).isSome = true) ∧
      (n ∈ c.purchasableNodes ↔ c.offersKeyOf n = true)) ↔ ¬ c.Mixed n := by
  rw [Catalog.selectForNode_isSome, Catalog.offersKeyOf_iff, and_self_iff]
  constructor
  · intro h hmixed
    obtain ⟨k, hk, hn, hall, r, hr, hrn, hinvalid⟩ := hmixed
    have hpurchase := h.2 ⟨k.publicKey, Catalog.mem_validNodes.2 ⟨⟨k, hk, hn, rfl⟩, hall⟩⟩
    have hvalid := (Catalog.mem_purchasableNodes.1 hpurchase).2 r hr hrn
    rw [hinvalid] at hvalid
    cases hvalid
  · intro h
    refine ⟨Catalog.exists_validKey, fun ⟨key, hkey⟩ => ?_⟩
    obtain ⟨⟨k, hk, hn, rfl⟩, hall⟩ := Catalog.mem_validNodes.1 hkey
    refine Catalog.mem_purchasableNodes.2 ⟨⟨k, hk, hn⟩, fun r hr hrn => ?_⟩
    cases hvalid : r.isValid with
    | true => rfl
    | false => exact absurd ⟨k, hk, hn, hall, r, hr, hrn, hvalid⟩ h

/-- A node whose first device has a valid key and whose second one does not. -/
def mixedCatalog : Catalog where
  tasks := fun _ => .none
  ticketIsClaimed := fun _ => .none
  nodePublicKeys := [⟨4, 1, [1], true⟩, ⟨4, 1, [2], false⟩]
  keyRotations := [1]

/-- No stack is bought of it, and a key is found for it. -/
theorem confidential_eligibility_fails : ¬ ∀ (c : Catalog) (pick : Nat) (n : Int64),
    (n ∈ c.purchasableNodes ↔ (selectNodePublicKeyForEncryptionForNode c pick n).isSome = true) ∧
      (n ∈ c.purchasableNodes ↔ c.offersKeyOf n = true) := by
  intro h
  exact absurd (h mixedCatalog 0 4).1 (by decide)

end AtomaProxy
