/-
`handle_node_key_rotation_event`: what a node's evidence has to pass before
the key it committed is stored as valid.

Eight GPUs with four NVSwitches are checked in full, and a check that fails
there is an error that leaves the table as it was, an earlier key included.
Any other evidence is checked for its GPUs alone: what it says of NVSwitches
is not looked at, and the key is valid all the same. The verifiers are a
third-party library; each of its calls is recorded with what came of it.
-/
import AtomaProxy.Base.Bytes
import AtomaProxy.Base.Effect
import AtomaProxy.State.NodeKeys

namespace AtomaProxy

open Base

variable {δ ν : Type}

/-- `CombinedEvidence`, over the verifiers' types for the two kinds. -/
inductive CombinedEvidence (δ ν : Type) where
  | device (evidence : δ)
  | nvSwitch (evidence : ν)
  deriving DecidableEq, Repr

def CombinedEvidence.device? : CombinedEvidence δ ν → Option δ
  | .device evidence => .some evidence
  | .nvSwitch _ => .none

def CombinedEvidence.nvSwitch? : CombinedEvidence δ ν → Option ν
  | .device _ => .none
  | .nvSwitch evidence => .some evidence

/-- The libraries' functions. -/
structure Verifiers (δ ν : Type) where
  decompressBytes : List UInt8 → Except String (List UInt8)
  /-- `serde_json::from_slice` -/
  fromSlice : List UInt8 → Except String (List (CombinedEvidence δ ν))
  blake3 : List UInt8 → List UInt8
  verifyGpuAttestation : List δ → String → Except String Bool
  verifyNvswitchAttestation : List ν → String → Except String Bool
  /-- the `evidence` of the two types -/
  deviceText : δ → String
  nvSwitchText : ν → String
  /-- `STANDARD.decode` -/
  base64Decode : String → Except String (List UInt8)
  /-- the switches' identifiers that the GPUs name -/
  gpuTopologyCheck : List (List UInt8) → Except String (List (List UInt8))
  switchTopologyCheck : List (List UInt8) → Nat → List (List UInt8) → Except String Unit

/-- A call of a verifier, and whether what it was given passed. -/
inductive Verification (δ ν : Type) where
  | gpu (evidence : List δ) (nonce : String) (passed : Bool)
  | nvSwitch (evidence : List ν) (nonce : String) (passed : Bool)
  | topology (gpus : List δ) (nvSwitches : List ν) (passed : Bool)
  deriving DecidableEq, Repr

def Verification.passed : Verification δ ν → Bool
  | .gpu _ _ passed => passed
  | .nvSwitch _ _ passed => passed
  | .topology _ _ passed => passed

structure NodePublicKeyCommittmentEvent where
  epoch : UInt64
  keyRotationCounter : UInt64
  nodeId : UInt64
  newPublicKey : List UInt8
  deviceType : UInt16
  evidenceBytes : List UInt8
  deriving DecidableEq, Repr

/-- `i64::from(device_type)`. -/
def NodePublicKeyCommittmentEvent.device (event : NodePublicKeyCommittmentEvent) : Int64 :=
  event.deviceType.toUInt64.toInt64

/-- The row it is stored in. -/
def NodePublicKeyCommittmentEvent.key (event : NodePublicKeyCommittmentEvent) : Int64 × Int64 :=
  (event.nodeId.toInt64, event.device)

def NodePublicKeyCommittmentEvent.row (event : NodePublicKeyCommittmentEvent) (isValid : Bool) : NodeKeyRow where
  nodeSmallId := event.nodeId.toInt64
  keyRotationCounter := event.keyRotationCounter.toInt64
  publicKey := event.newPublicKey
  isValid
  deviceType := event.device
  epoch := event.epoch.toInt64
  evidenceBytes := event.evidenceBytes

namespace Verifiers

variable (v : Verifiers δ ν)

/-- `should_be_nonce_hex`, of the contract's nonce, the new key and the device type. -/
def shouldBeNonceHex (contractNonce : Int64) (newPublicKey : List UInt8) (deviceType : UInt16) : String :=
  hexEncode (v.blake3 (toLeBytes 8 contractNonce.toUInt64.toNat ++ newPublicKey ++ toLeBytes 2 deviceType.toNat))

/-- The nonce that an event's evidence is checked against. -/
def boundNonce (s : KeyTables) (event : NodePublicKeyCommittmentEvent) : Option String :=
  s.getContractKeyRotationNonce.map fun nonce => v.shouldBeNonceHex nonce event.newPublicKey event.deviceType

/-- What `decode_evidence` makes of a list of evidence. -/
def decodeEvidence (evidence : List String) (evidenceType : String) :
    Except AtomaStateRemoteAttestationError (List (List UInt8)) :=
  evidence.mapM fun text => (v.base64Decode text).mapError fun _ => .failedToDecode evidenceType

/-- `verify_topology`. -/
def verifyTopology (gpus : List δ) (nvSwitches : List ν) : Except AtomaStateRemoteAttestationError Unit := do
  let gpuBytes ← v.decodeEvidence (gpus.map v.deviceText) "GPU"
  let nvSwitchBytes ← v.decodeEvidence (nvSwitches.map v.nvSwitchText) "NVSwitch"
  let pdis ← (v.gpuTopologyCheck gpuBytes).mapError fun _ => .topologyCheckFailed "GPU topology check"
  (v.switchTopologyCheck nvSwitchBytes gpus.length pdis).mapError fun _ =>
    .topologyCheckFailed "NVSwitch topology check"

end Verifiers

/-- A handler that calls verifiers. -/
abbrev Attesting (δ ν : Type) := Eff (Verification δ ν) AtomaStateManagerError

/-- Only `Ok` with a `true` is a pass. -/
def isPass (answer : Except String Bool) : Bool :=
  match answer with
  | .ok passed => passed
  | .error _ => false

/-- What `attest_nvidia_gpu_evidence_list` and `attest_nvidia_nvswitch_evidence_list` share. -/
def attestEvidenceList (nonce : Option String) (answer : String → Except String Bool)
    (record : String → Bool → Verification δ ν) : Attesting δ ν Unit :=
  match nonce with
  | .none => .fail (.remoteAttestationError .failedToRetrieveContractNonce)
  | .some nonce => do
    .send (record nonce (isPass (answer nonce)))
    if isPass (answer nonce) then pure () else .fail (.remoteAttestationError .failedToAttestRemote)

def attestNvidiaGpuEvidenceList (v : Verifiers δ ν) (s : KeyTables) (event : NodePublicKeyCommittmentEvent)
    (gpus : List δ) : Attesting δ ν Unit :=
  attestEvidenceList (v.boundNonce s event) (v.verifyGpuAttestation gpus) (.gpu gpus)

def attestNvidiaNvswitchEvidenceList (v : Verifiers δ ν) (s : KeyTables) (event : NodePublicKeyCommittmentEvent)
    (nvSwitches : List ν) : Attesting δ ν Unit :=
  attestEvidenceList (v.boundNonce s event) (v.verifyNvswitchAttestation nvSwitches) (.nvSwitch nvSwitches)

/-- `verify_topology(…)?` in the handler. -/
def attestTopology (v : Verifiers δ ν) (gpus : List δ) (nvSwitches : List ν) : Attesting δ ν Unit := do
  let result := v.verifyTopology gpus nvSwitches
  .send (.topology gpus nvSwitches result.isOk)
  .ofExcept (result.mapError .remoteAttestationError)

/-- `is_ppcie_mode`. -/
def isPpcieMode (gpus : List δ) (nvSwitches : List ν) : Bool := gpus.length = 8 && nvSwitches.length = 4

/-- Whether the key is stored as valid; in the mode for eight GPUs, an error instead of a no. -/
def attestEvidence (v : Verifiers δ ν) (s : KeyTables) (event : NodePublicKeyCommittmentEvent) (gpus : List δ)
    (nvSwitches : List ν) : Attesting δ ν Bool :=
  if isPpcieMode gpus nvSwitches then do
    attestNvidiaGpuEvidenceList v s event gpus
    attestNvidiaNvswitchEvidenceList v s event nvSwitches
    attestTopology v gpus nvSwitches
    pure true
  else
    (do
      attestNvidiaGpuEvidenceList v s event gpus
      pure true).handle fun _ => pure false

/-- `serde_json` of the decompressed bytes. -/
def Verifiers.decode (v : Verifiers δ ν) (evidenceBytes : List UInt8) :
    Except AtomaStateManagerError (List (CombinedEvidence δ ν)) := do
  let original ← (v.decompressBytes evidenceBytes).mapError .compressionError
  (v.fromSlice original).mapError .jsonParseError

/-- `handle_node_key_rotation_event`. -/
def handleNodeKeyRotationEvent (v : Verifiers δ ν) (s : KeyTables) (event : NodePublicKeyCommittmentEvent) :
    Attesting δ ν KeyTables := do
  let evidence ← .ofExcept (v.decode event.evidenceBytes)
  let isValid ← attestEvidence v s event (evidence.filterMap CombinedEvidence.device?)
    (evidence.filterMap CombinedEvidence.nvSwitch?)
  pure (s.updateNodePublicKey (event.row isValid))

/-- The tables after it, also where it fails. -/
def KeyTables.afterCommitment (s : KeyTables) (v : Verifiers δ ν) (event : NodePublicKeyCommittmentEvent) :
    KeyTables :=
  match (handleNodeKeyRotationEvent v s event).ending with
  | .ok s' => s'
  | _ => s

/-! ## What the checks come to -/

/-- The contract has a nonce, and against it the evidence passes. -/
def Passes (nonce : Option String) (answer : String → Except String Bool) : Prop :=
  ∃ n, nonce = .some n ∧ isPass (answer n) = true

theorem attestEvidenceList_pass {n : String} {answer : String → Except String Bool}
    {record : String → Bool → Verification δ ν} (h : isPass (answer n) = true) :
    attestEvidenceList (.some n) answer record = ⟨[record n true], .ok ()⟩ := by
  simp only [attestEvidenceList, h, if_true]
  rfl

theorem attestEvidenceList_fail {nonce : Option String} {answer : String → Except String Bool}
    (record : String → Bool → Verification δ ν) (h : ¬ Passes nonce answer) :
    ∃ sent e, attestEvidenceList nonce answer record = ⟨sent, .err e⟩ ∧
      (nonce = .none ∨ ∃ n, record n false ∈ sent) := by
  cases nonce with
  | none => exact ⟨[], _, rfl, .inl rfl⟩
  | some n =>
    cases hp : isPass (answer n) with
    | true => exact absurd ⟨n, rfl, hp⟩ h
    | false =>
      refine ⟨[record n false], .remoteAttestationError .failedToAttestRemote, ?_, .inr ⟨n, List.mem_singleton_self _⟩⟩
      simp only [attestEvidenceList, hp, Bool.false_eq_true, if_false]
      rfl

section Checks

variable (v : Verifiers δ ν) (s : KeyTables) (event : NodePublicKeyCommittmentEvent) (gpus : List δ)
  (nvSwitches : List ν)

def GpusPass : Prop := Passes (v.boundNonce s event) (v.verifyGpuAttestation gpus)

/-- Everything the mode for eight GPUs checks. -/
def AllPass : Prop :=
  GpusPass v s event gpus ∧ Passes (v.boundNonce s event) (v.verifyNvswitchAttestation nvSwitches) ∧
    (v.verifyTopology gpus nvSwitches).isOk = true

variable {v s event gpus nvSwitches}

theorem attestEvidence_ppcie_pass (hmode : isPpcieMode gpus nvSwitches = true)
    (h : AllPass v s event gpus nvSwitches) : ∃ n, v.boundNonce s event = .some n ∧
      attestEvidence v s event gpus nvSwitches =
        ⟨[.gpu gpus n true, .nvSwitch nvSwitches n true, .topology gpus nvSwitches true], .ok true⟩ := by
  obtain ⟨⟨n, hn, hgpu⟩, ⟨n', hn', hnv⟩, htop⟩ := h
  obtain rfl : n' = n := Option.some.inj (hn'.symm.trans hn)
  refine ⟨n', hn, ?_⟩
  cases ht : v.verifyTopology gpus nvSwitches with
  | error e =>
    rw [ht] at htop
    cases htop
  | ok u =>
    rw [attestEvidence, if_pos hmode, attestNvidiaGpuEvidenceList, attestNvidiaNvswitchEvidenceList, attestTopology,
      hn, attestEvidenceList_pass hgpu, attestEvidenceList_pass hnv, ht]
    rfl

theorem attestEvidence_ppcie_fail (hmode : isPpcieMode gpus nvSwitches = true)
    (h : ¬ AllPass v s event gpus nvSwitches) : ∃ sent e, attestEvidence v s event gpus nvSwitches = ⟨sent, .err e⟩ ∧
      (v.boundNonce s event = .none ∨ ∃ check ∈ sent, check.passed = false) := by
  rw [attestEvidence, if_pos hmode, attestNvidiaGpuEvidenceList, attestNvidiaNvswitchEvidenceList]
  by_cases hgpu : GpusPass v s event gpus
  · obtain ⟨n, hn, hgpu⟩ := hgpu
    rw [hn, attestEvidenceList_pass hgpu, Eff.bind_ok _ rfl]
    by_cases hnv : Passes (.some n) (v.verifyNvswitchAttestation nvSwitches)
    · obtain ⟨n', hn', hnv⟩ := hnv
      cases hn'
      rw [attestEvidenceList_pass hnv, Eff.bind_ok _ rfl, attestTopology]
      cases ht : v.verifyTopology gpus nvSwitches with
      | ok u => exact absurd ⟨⟨n, hn, hgpu⟩, ⟨n, hn, hnv⟩, by rw [ht]; rfl⟩ h
      | error e =>
        exact ⟨[.gpu gpus n true, .nvSwitch nvSwitches n true, .topology gpus nvSwitches false],
          .remoteAttestationError e, rfl, .inr ⟨.topology gpus nvSwitches false, by simp, rfl⟩⟩
    · obtain ⟨sent, e, heq, hfail⟩ := attestEvidenceList_fail (@Verification.nvSwitch δ ν nvSwitches) hnv
      rw [heq, Eff.bind_err _ rfl]
      refine ⟨_, e, rfl, .inr ?_⟩
      obtain ⟨n', hmem⟩ := hfail.resolve_left (by simp)
      exact ⟨_, List.mem_append_right _ hmem, rfl⟩
  · obtain ⟨sent, e, heq, hfail⟩ := attestEvidenceList_fail (@Verification.gpu δ ν gpus) hgpu
    rw [heq, Eff.bind_err _ rfl]
    exact ⟨sent, e, rfl, hfail.imp_right fun ⟨n, hmem⟩ => ⟨_, hmem, rfl⟩⟩

theorem attestEvidence_gpus_pass (hmode : isPpcieMode gpus nvSwitches = false) (h : GpusPass v s event gpus) :
    ∃ n, v.boundNonce s event = .some n ∧
      attestEvidence v s event gpus nvSwitches = ⟨[.gpu gpus n true], .ok true⟩ := by
  obtain ⟨n, hn, hgpu⟩ := h
  refine ⟨n, hn, ?_⟩
  rw [attestEvidence, if_neg (by rw [hmode]; exact Bool.false_ne_true), attestNvidiaGpuEvidenceList, hn,
    attestEvidenceList_pass hgpu]
  rfl

theorem attestEvidence_gpus_fail (hmode : isPpcieMode gpus nvSwitches = false) (h : ¬ GpusPass v s event gpus) :
    (attestEvidence v s event gpus nvSwitches).ending = .ok false := by
  obtain ⟨sent, e, heq, _⟩ := attestEvidenceList_fail (@Verification.gpu δ ν gpus) h
  rw [attestEvidence, if_neg (by rw [hmode]; exact Bool.false_ne_true), attestNvidiaGpuEvidenceList, heq]
  rfl

/-- An event that decodes does what its checks say. -/
theorem handle_of_decode {evidence : List (CombinedEvidence δ ν)} (hdec : v.decode event.evidenceBytes = .ok evidence) :
    let x := attestEvidence v s event (evidence.filterMap CombinedEvidence.device?)
      (evidence.filterMap CombinedEvidence.nvSwitch?)
    (handleNodeKeyRotationEvent v s event).sent = x.sent ∧ s.afterCommitment v event =
      match x.ending with
      | .ok isValid => s.updateNodePublicKey (event.row isValid)
      | _ => s := by
  intro x
  rw [KeyTables.afterCommitment, handleNodeKeyRotationEvent, hdec, Eff.ofExcept_ok_bind]
  show (x >>= _).sent = _ ∧ (match (x >>= _).ending with | .ok s' => s' | _ => s) = _
  refine ⟨Eff.sent_bind_of_quiet fun _ => rfl, ?_⟩
  cases hx : x.ending with
  | ok isValid => rw [Eff.bind_ok _ hx]; rfl
  | err e => rw [Eff.bind_err _ hx]
  | panic => rw [Eff.bind_panic _ hx]

end Checks

/-! ## What a valid key means -/

/-- Some key of that node and device type is valid. -/
def KeyTables.HasValidKey (s : KeyTables) (key : Int64 × Int64) : Prop :=
  ∃ row ∈ s.nodePublicKeys, row.key = key ∧ row.isValid = true

theorem KeyTables.hasValidKey_update {s : KeyTables} {event : NodePublicKeyCommittmentEvent} {isValid : Bool} :
    (s.updateNodePublicKey (event.row isValid)).HasValidKey event.key ↔ isValid = true := by
  constructor
  · intro h
    obtain ⟨row, hmem, hkey, hvalid⟩ := h
    rcases mem_putRow.1 hmem with rfl | ⟨_, hne⟩
    · exact hvalid
    · exact absurd hkey hne
  · intro h
    exact ⟨event.row isValid, mem_putRow.2 (.inl rfl), rfl, h⟩

theorem KeyTables.mem_update_of_ne {s : KeyTables} {event : NodePublicKeyCommittmentEvent} {isValid : Bool}
    {row : NodeKeyRow} (h : row.key ≠ event.key) :
    row ∈ (s.updateNodePublicKey (event.row isValid)).nodePublicKeys ↔ row ∈ s.nodePublicKeys := by
  refine mem_putRow.trans ⟨fun hrow => ?_, fun hrow => .inr ⟨hrow, h⟩⟩
  rcases hrow with rfl | ⟨hrow, _⟩
  · exact absurd rfl h
  · exact hrow

/-- All evidence passed against the nonce, and the topology where there are NVSwitches. -/
def AllVerified (checks : List (Verification δ ν)) (nonce : Option String) (gpus : List δ) (nvSwitches : List ν) :
    Prop :=
  ∃ n, nonce = .some n ∧ (∀ e ∈ gpus, ∃ es, .gpu es n true ∈ checks ∧ e ∈ es) ∧
    (∀ e ∈ nvSwitches, ∃ es, .nvSwitch es n true ∈ checks ∧ e ∈ es) ∧
    (nvSwitches ≠ [] → .topology gpus nvSwitches true ∈ checks)

/-- A valid key was attested by everything the event has, a failed check leaves none, and nothing else changes. -/
structure Gated (s s' : KeyTables) (key : Int64 × Int64) (checks : List (Verification δ ν)) (nonce : Option String)
    (gpus : List δ) (nvSwitches : List ν) : Prop where
  attested : s'.HasValidKey key → AllVerified checks nonce gpus nvSwitches
  failed : (∃ check ∈ checks, check.passed = false) → ¬ s'.HasValidKey key
  others : ∀ row : NodeKeyRow, row.key ≠ key → (row ∈ s'.nodePublicKeys ↔ row ∈ s.nodePublicKeys)

/-- With eight GPUs and four NVSwitches, all checks pass or no key was valid before; else there are no NVSwitches
or the GPUs do not pass. -/
def Gateable (v : Verifiers δ ν) (s : KeyTables) (event : NodePublicKeyCommittmentEvent) (gpus : List δ)
    (nvSwitches : List ν) : Prop :=
  if isPpcieMode gpus nvSwitches then AllPass v s event gpus nvSwitches ∨ ¬ s.HasValidKey event.key
  else nvSwitches = [] ∨ ¬ GpusPass v s event gpus

/-- A check that failed is not made up for by the others. -/
theorem not_gated_of_failed {s : KeyTables} {key : Int64 × Int64} {checks : List (Verification δ ν)}
    {nonce : Option String} {gpus : List δ} {nvSwitches : List ν} (hvalid : s.HasValidKey key)
    (h : nonce = .none ∨ ∃ check ∈ checks, check.passed = false) :
    ¬ Gated s s key checks nonce gpus nvSwitches := by
  intro hgated
  rcases h with hnone | hfailed
  · obtain ⟨n, hn, _⟩ := hgated.attested hvalid
    rw [hnone] at hn
    cases hn
  · exact hgated.failed hfailed hvalid

/-- **Main result.** A commitment whose evidence decodes gates its key exactly where it is `Gateable`. -/
theorem attestation_gates_iff {v : Verifiers δ ν} {s : KeyTables} {event : NodePublicKeyCommittmentEvent}
    {evidence : List (CombinedEvidence δ ν)} (hdec : v.decode event.evidenceBytes = .ok evidence) :
    Gated s (s.afterCommitment v event) event.key (handleNodeKeyRotationEvent v s event).sent (v.boundNonce s event)
        (evidence.filterMap CombinedEvidence.device?) (evidence.filterMap CombinedEvidence.nvSwitch?) ↔
      Gateable v s event (evidence.filterMap CombinedEvidence.device?)
        (evidence.filterMap CombinedEvidence.nvSwitch?) := by
  obtain ⟨hsent, hafter⟩ := @handle_of_decode δ ν v s event evidence hdec
  rw [hsent, hafter]
  generalize evidence.filterMap CombinedEvidence.device? = gpus
  generalize evidence.filterMap CombinedEvidence.nvSwitch? = nvSwitches
  unfold Gateable
  cases hmode : isPpcieMode gpus nvSwitches with
  | true =>
    rw [if_pos rfl]
    by_cases hall : AllPass v s event gpus nvSwitches
    · obtain ⟨n, hn, heq⟩ := attestEvidence_ppcie_pass hmode hall
      rw [heq, hn]
      refine iff_of_true ⟨fun _ => ?_, fun ⟨check, hmem, hfalse⟩ => ?_, fun row => KeyTables.mem_update_of_ne⟩
        (.inl hall)
      · exact ⟨n, rfl, fun e he => ⟨gpus, by simp, he⟩, fun e he => ⟨nvSwitches, by simp, he⟩, fun _ => by simp⟩
      · simp only [List.mem_cons, List.not_mem_nil, or_false] at hmem
        rcases hmem with rfl | rfl | rfl <;> cases hfalse
    · obtain ⟨sent, e, heq, hfail⟩ := attestEvidence_ppcie_fail hmode hall
      rw [heq]
      by_cases hvalid : s.HasValidKey event.key
      · exact iff_of_false (not_gated_of_failed hvalid hfail) (by simp [hall, hvalid])
      · exact iff_of_true ⟨fun h => absurd h hvalid, fun _ => hvalid, fun _ _ => Iff.rfl⟩ (.inr hvalid)
  | false =>
    rw [if_neg Bool.false_ne_true]
    by_cases hgpu : GpusPass v s event gpus
    · obtain ⟨n, hn, heq⟩ := attestEvidence_gpus_pass hmode hgpu
      rw [heq, hn]
      by_cases hnil : nvSwitches = []
      · subst hnil
        refine iff_of_true ⟨fun _ => ?_, fun ⟨check, hmem, hfalse⟩ => ?_, fun row => KeyTables.mem_update_of_ne⟩
          (.inl rfl)
        · exact ⟨n, rfl, fun e he => ⟨gpus, by simp, he⟩, fun e he => (nomatch he), fun h => absurd rfl h⟩
        · rw [List.mem_singleton] at hmem
          subst hmem
          cases hfalse
      · -- a switch is there, and no call of its verifier
        refine iff_of_false (fun hgated => ?_) (by simp [hnil, hgpu])
        obtain ⟨e, he⟩ := List.exists_mem_of_ne_nil _ hnil
        obtain ⟨n', _, _, hnv, _⟩ := hgated.attested (KeyTables.hasValidKey_update.2 rfl)
        obtain ⟨es, hes, _⟩ := hnv e he
        rw [List.mem_singleton] at hes
        cases hes
    · rw [attestEvidence_gpus_fail hmode hgpu]
      have hnot : ¬ (s.updateNodePublicKey (event.row false)).HasValidKey event.key := by
        rw [KeyTables.hasValidKey_update]
        exact Bool.false_ne_true
      exact iff_of_true ⟨fun h => absurd h hnot, fun _ => hnot, fun row => KeyTables.mem_update_of_ne⟩ (.inr hgpu)

/-- Evidence that is written as it is read, and verifiers that accept GPUs and no NVSwitch. -/
def verifiersExample : Verifiers String String where
  decompressBytes := .ok
  fromSlice bs := .ok (bs.map fun b => if b = 0 then .device "gpu" else .nvSwitch "switch")
  blake3 bs := bs.take 32
  verifyGpuAttestation _ _ := .ok true
  verifyNvswitchAttestation _ _ := .ok false
  deviceText := id
  nvSwitchText := id
  base64Decode text := .ok (ascii text)
  gpuTopologyCheck _ := .ok []
  switchTopologyCheck _ _ _ := .ok ()

/-- One rotation, and no key. -/
def keyTablesExample : KeyTables := ⟨[⟨1, 1, 7⟩], []⟩

def commitmentExample (evidenceBytes : List UInt8) : NodePublicKeyCommittmentEvent :=
  ⟨1, 1, 4, [5, 6], 0, evidenceBytes⟩

/-- Two GPUs: their key is gated. -/
theorem attestation_gates_example : Gated keyTablesExample
    (keyTablesExample.afterCommitment verifiersExample (commitmentExample [0, 0])) (4, 0)
    (handleNodeKeyRotationEvent verifiersExample keyTablesExample (commitmentExample [0, 0])).sent
    (verifiersExample.boundNonce keyTablesExample (commitmentExample [0, 0])) ["gpu", "gpu"] [] :=
  (@attestation_gates_iff String String verifiersExample keyTablesExample (commitmentExample [0, 0])
    [.device "gpu", .device "gpu"] rfl).2 (.inl rfl)

/-- A GPU and an NVSwitch that would not pass: the key is valid. -/
theorem attestation_gates_fails : ¬ ∀ (v : Verifiers String String) (s : KeyTables)
    (event : NodePublicKeyCommittmentEvent) (evidence : List (CombinedEvidence String String)),
    v.decode event.evidenceBytes = .ok evidence →
      Gated s (s.afterCommitment v event) event.key (handleNodeKeyRotationEvent v s event).sent (v.boundNonce s event)
        (evidence.filterMap CombinedEvidence.device?) (evidence.filterMap CombinedEvidence.nvSwitch?) := by
  intro h
  have hgated := h verifiersExample keyTablesExample (commitmentExample [0, 1]) [.device "gpu", .nvSwitch "switch"] rfl
  obtain ⟨n, _, _, hnv, _⟩ := hgated.attested ⟨_, List.mem_singleton_self _, rfl, rfl⟩
  obtain ⟨es, hes, _⟩ := hnv "switch" (List.mem_singleton_self _)
  rcases List.mem_singleton.1 hes with ⟨⟩

end AtomaProxy
