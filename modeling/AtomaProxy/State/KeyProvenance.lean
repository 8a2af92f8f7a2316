/-
Where the keys come from that the queries hand out.

A row of `node_public_keys` is overwritten as a whole, so a valid one is what
some event committed, and its attestation was recorded as successful. The
rotation it has to be of is the one with the greatest counter in the table,
which is the greatest counter handled as long as the counters survive their
cast to `i64`: they come in order, and one from 2^63 on would be negative.
-/
import AtomaProxy.Base.Machine
import AtomaProxy.State.Attestation

namespace AtomaProxy

open Base

variable {δ ν : Type}

structure NewKeyRotationEvent where
  epoch : UInt64
  keyRotationCounter : UInt64
  nonce : UInt64
  deriving DecidableEq, Repr

/-- `handle_new_key_rotation_event`. -/
def handleNewKeyRotationEvent (s : KeyTables) (event : NewKeyRotationEvent) : KeyTables :=
  s.insertNewKeyRotation event.epoch.toInt64 event.keyRotationCounter.toInt64 event.nonce.toInt64

/-- The tables, the rotations handled, latest first, and the commitments stored as valid. -/
structure KeyState where
  tables : KeyTables
  rotations : List NewKeyRotationEvent
  attested : List NodePublicKeyCommittmentEvent

/-- What can happen; the verifiers answer each commitment as they like. -/
inductive KeyEvent (δ ν : Type) where
  | newKeyRotation (event : NewKeyRotationEvent)
  | nodePublicKeyCommittment (v : Verifiers δ ν) (event : NodePublicKeyCommittmentEvent)

def keyStep (s : KeyState) : KeyEvent δ ν → KeyState
  | .newKeyRotation event =>
    { s with tables := handleNewKeyRotationEvent s.tables event, rotations := event :: s.rotations }
  | .nodePublicKeyCommittment v event =>
    match (handleNodeKeyRotationEvent v s.tables event).ending with
    | .ok tables =>
      { s with
        tables
        attested :=
          if tables = s.tables.updateNodePublicKey (event.row true) then event :: s.attested else s.attested }
    | _ => s

def keyMachine (δ ν : Type) : Machine KeyState (KeyEvent δ ν) where
  step s e := .some (keyStep s e)

def KeyState.empty : KeyState := ⟨⟨[], []⟩, [], []⟩

/-- The order of the chain: no rotation has a smaller counter or epoch than one before it. -/
def KeyEvent.ChainOrder (s : KeyState) : KeyEvent δ ν → Prop
  | .newKeyRotation event =>
    ∀ r ∈ s.rotations, r.keyRotationCounter ≤ event.keyRotationCounter ∧ r.epoch ≤ event.epoch
  | .nodePublicKeyCommittment _ _ => True

/-- The counter of a rotation is below 2^63. -/
def KeyEvent.CounterFits : KeyEvent δ ν → Prop
  | .newKeyRotation event => event.keyRotationCounter.toNat < 2 ^ 63
  | .nodePublicKeyCommittment _ _ => True

/-- The node committed the key in an event that was attested, for the rotation with the greatest counter so far. -/
def KeyState.Provenance (s : KeyState) (n : Int64) (key : List UInt8) : Prop :=
  ∃ event ∈ s.attested, event.nodeId.toInt64 = n ∧ event.newPublicKey = key ∧
    ∃ r ∈ s.rotations, event.keyRotationCounter = r.keyRotationCounter ∧
      ∀ r' ∈ s.rotations, r'.keyRotationCounter ≤ r.keyRotationCounter

/-- What every state has to say of the keys the queries return, whatever the stacks are. -/
def KeyState.KeysProven (s : KeyState) (c : Catalog) : Prop :=
  (∀ pick n m key, selectNodePublicKeyForEncryptionForNode (s.tables.readBy c) pick n = .some (m, key) →
    m = n ∧ s.Provenance n key) ∧
  ∀ (st st' : StackTables) (pick : Option Int64) (pickKey : Nat) (model : String) (maxNumTokens userId n : Int64)
    (key : List UInt8), st.catalog = s.tables.readBy c →
    selectNodeAndKeyForEncryption st pick pickKey model maxNumTokens userId = .ok (.some (n, key), st') →
    s.Provenance n key

/-- The invariant: a valid row is that of an attested commitment, a rotation in the table was handled, and the
one handled last is in the table and has the greatest counter. -/
structure KeyState.Recorded (s : KeyState) : Prop where
  valid : ∀ row ∈ s.tables.nodePublicKeys, row.isValid = true → ∃ event ∈ s.attested, row = event.row true
  handled : ∀ row ∈ s.tables.keyRotations, ∃ r ∈ s.rotations, row.keyRotationCounter = r.keyRotationCounter.toInt64
  latest : ∀ r rest, s.rotations = r :: rest →
    (∃ row ∈ s.tables.keyRotations, row.keyRotationCounter = r.keyRotationCounter.toInt64) ∧
      ∀ r' ∈ s.rotations, r'.keyRotationCounter ≤ r.keyRotationCounter
  fits : ∀ r ∈ s.rotations, r.keyRotationCounter.toNat < 2 ^ 63

theorem KeyState.recorded_empty : KeyState.empty.Recorded where
  valid := fun _ h => (nomatch h)
  handled := fun _ h => (nomatch h)
  latest := fun _ _ h => (nomatch h)
  fits := fun _ h => (nomatch h)

/-- A commitment that is handled stores its own row. -/
theorem handleNodeKeyRotationEvent_ok {v : Verifiers δ ν} {s s' : KeyTables} {event : NodePublicKeyCommittmentEvent}
    (h : (handleNodeKeyRotationEvent v s event).ending = .ok s') :
    ∃ isValid, s' = s.updateNodePublicKey (event.row isValid) := by
  simp only [handleNodeKeyRotationEvent, Eff.ending_bind, Ending.bind_eq_ok] at h
  obtain ⟨_, _, isValid, _, hs⟩ := h
  exact ⟨isValid, (Ending.ok.inj hs).symm⟩

/-- **One event keeps it.** -/
theorem KeyState.Recorded.step {s s' : KeyState} {ev : KeyEvent δ ν} (h : s.Recorded)
    (hc : ev.ChainOrder s ∧ ev.CounterFits) (hstep : (keyMachine δ ν).step s ev = .some s') : s'.Recorded := by
  simp only [keyMachine, Option.some.injEq] at hstep
  subst hstep
  cases ev with
  | newKeyRotation event =>
    obtain ⟨horder, hfits⟩ := hc
    refine ⟨h.valid, fun row hrow => ?_, fun r rest hr => ?_, fun r hr => ?_⟩
    · rcases mem_putRow.1 hrow with rfl | ⟨hrow, _⟩
      · exact ⟨event, List.mem_cons_self, rfl⟩
      · obtain ⟨r, hr, heq⟩ := h.handled row hrow
        exact ⟨r, List.mem_cons_of_mem _ hr, heq⟩
    · obtain ⟨rfl, rfl⟩ := List.cons.inj hr
      refine ⟨⟨_, mem_putRow.2 (.inl rfl), rfl⟩, fun r' hr' => ?_⟩
      rcases List.mem_cons.1 hr' with rfl | hr'
      · exact UInt64.le_refl _
      · exact (horder r' hr').1
    · rcases List.mem_cons.1 hr with rfl | hr
      · exact hfits
      · exact h.fits r hr
  | nodePublicKeyCommittment v event =>
    simp only [keyStep]
    split
    · next tables hend =>
      obtain ⟨isValid, rfl⟩ := handleNodeKeyRotationEvent_ok hend
      refine ⟨fun row hrow hvalid => ?_, h.handled, h.latest, h.fits⟩
      rcases mem_putRow.1 hrow with rfl | ⟨hrow, _⟩
      · obtain rfl : isValid = true := hvalid
        rw [if_pos rfl]
        exact ⟨event, List.mem_cons_self, rfl⟩
      · obtain ⟨e, he, heq⟩ := h.valid row hrow hvalid
        refine ⟨e, ?_, heq⟩
        split
        · exact List.mem_cons_of_mem _ he
        · exact he
    · exact h

theorem toInt64_le_toInt64 {a b : UInt64} (ha : a.toNat < 2 ^ 63) (hb : b.toNat < 2 ^ 63) (h : a ≤ b) :
    a.toInt64.toInt ≤ b.toInt64.toInt := by
  rw [toInt_toInt64 ha, toInt_toInt64 hb]
  exact Int.ofNat_le.2 (UInt64.le_iff_toNat_le.1 h)

/-- The latest rotation of the queries is the one with the greatest counter handled. -/
theorem KeyState.Recorded.latestRotation {s : KeyState} (h : s.Recorded) {c : Catalog} {m : Int}
    (hm : (s.tables.readBy c).latestRotation = .some m) : ∃ r ∈ s.rotations, r.keyRotationCounter.toInt64.toInt = m ∧
      ∀ r' ∈ s.rotations, r'.keyRotationCounter ≤ r.keyRotationCounter := by
  obtain ⟨hmem, hmax⟩ := List.max?_eq_some_iff.1 hm
  simp only [KeyTables.readBy, List.mem_map, exists_exists_and_eq_and, forall_exists_index, and_imp,
    forall_apply_eq_imp_iff₂] at hmem hmax
  obtain ⟨row, hrow, rfl⟩ := hmem
  obtain ⟨r₀, hr₀, heq⟩ := h.handled row hrow
  cases hrot : s.rotations with
  | nil =>
    rw [hrot] at hr₀
    cases hr₀
  | cons r rest =>
    obtain ⟨⟨latest, hlatest, hcounter⟩, hgreatest⟩ := h.latest r rest hrot
    have hr : r ∈ s.rotations := hrot ▸ List.mem_cons_self
    rw [← hrot]
    refine ⟨r, hr, le_antisymm ?_ ?_, hgreatest⟩
    · rw [← hcounter]
      exact hmax latest hlatest
    · rw [heq]
      exact toInt64_le_toInt64 (h.fits r₀ hr₀) (h.fits r hr) (hgreatest r₀ hr₀)

theorem KeyState.Recorded.provenance {s : KeyState} (h : s.Recorded) {c : Catalog} {n : Int64} {key : List UInt8}
    (hkey : (n, key) ∈ (s.tables.readBy c).validNodes) : s.Provenance n key := by
  obtain ⟨⟨k, hk, hn, hkey⟩, hall⟩ := Catalog.mem_validNodes.1 hkey
  have hvalid := hall k hk hn hkey
  obtain ⟨hmem, hlatest⟩ := Catalog.mem_newestKeys.1 hk
  obtain ⟨row, hrow, rfl⟩ := List.mem_map.1 hmem
  obtain ⟨event, hevent, rfl⟩ := h.valid row hrow hvalid
  obtain ⟨r, hr, hcounter, hgreatest⟩ := h.latestRotation hlatest
  refine ⟨event, hevent, hn, hkey, r, hr, ?_, hgreatest⟩
  have hcast : r.keyRotationCounter.toInt64 = event.keyRotationCounter.toInt64 := Int64.toInt_inj.1 hcounter
  rw [← UInt64.toUInt64_toInt64 event.keyRotationCounter, ← hcast, UInt64.toUInt64_toInt64]

/-- **Main result.** In every run in the order of the chain whose counters are below 2^63, every key the queries
return is proven. -/
theorem key_provenance {evs : List (KeyEvent δ ν)} {s : KeyState}
    (hg : (keyMachine δ ν).Guarded (fun s ev => ev.ChainOrder s ∧ ev.CounterFits) KeyState.empty evs)
    (hrun : (keyMachine δ ν).run KeyState.empty evs = .some s) (c : Catalog) : s.KeysProven c := by
  have h := Machine.run_invariant KeyState.Recorded.step KeyState.recorded_empty hg hrun
  refine ⟨fun pick n m key hsel => ?_, fun st st' pick pickKey model tokens userId n key hcatalog hsel => ?_⟩
  · obtain ⟨hm, hmem⟩ := Catalog.selectForNode_mem hsel
    exact ⟨hm, h.provenance hmem⟩
  · have hmem := Catalog.selectNodeAndKey_mem hsel
    rw [hcatalog] at hmem
    exact h.provenance hmem

/-- A rotation, and a key committed for it. -/
def keyRunExample : List (KeyEvent String String) :=
  [.newKeyRotation ⟨1, 1, 7⟩, .nodePublicKeyCommittment verifiersExample (commitmentExample [0, 0])]

theorem key_provenance_example : ∃ s, (keyMachine String String).run KeyState.empty keyRunExample = .some s ∧
    selectNodePublicKeyForEncryptionForNode (s.tables.readBy mixedCatalog) 0 4 = .some (4, [5, 6]) ∧
    s.KeysProven mixedCatalog := by
  have hrun : (keyMachine String String).run KeyState.empty keyRunExample =
      .some (keyRunExample.foldl keyStep KeyState.empty) := rfl
  refine ⟨_, hrun, by decide, key_provenance ?_ hrun mixedCatalog⟩
  refine (Machine.guarded_cons rfl).2 ⟨⟨fun _ h => (nomatch h), (by decide : (1 : UInt64).toNat < 2 ^ 63)⟩, ?_⟩
  exact (Machine.guarded_cons rfl).2 ⟨⟨trivial, trivial⟩, trivial⟩

/-- After the rotation with counter 2^63 the key of the first one is still returned. -/
theorem key_provenance_fails : ¬ ∀ (evs : List (KeyEvent String String)) (s : KeyState),
    (keyMachine String String).Guarded (fun s ev => ev.ChainOrder s) KeyState.empty evs →
    (keyMachine String String).run KeyState.empty evs = .some s → ∀ c, s.KeysProven c := by
  intro h
  let evs := keyRunExample ++ [.newKeyRotation ⟨2, 9223372036854775808, 8⟩]
  have horder : (keyMachine String String).Guarded (fun s ev => ev.ChainOrder s) KeyState.empty evs := by
    refine (Machine.guarded_cons rfl).2 ⟨fun _ h => (nomatch h), ?_⟩
    refine (Machine.guarded_cons rfl).2 ⟨trivial, ?_⟩
    refine (Machine.guarded_cons rfl).2 ⟨fun r hr => ?_, trivial⟩
    obtain rfl : r = ⟨1, 1, 7⟩ := List.mem_singleton.1 hr
    exact ⟨by decide, by decide⟩
  have hproven := h evs (evs.foldl keyStep KeyState.empty) horder rfl mixedCatalog
  have hsel : selectNodePublicKeyForEncryptionForNode
      ((evs.foldl keyStep KeyState.empty).tables.readBy mixedCatalog) 0 4 = .some (4, [5, 6]) := by decide
  obtain ⟨_, event, hevent, _, _, r, _, hcounter, hgreatest⟩ := hproven.1 0 4 4 [5, 6] hsel
  have hone : event.keyRotationCounter = 1 := congrArg _ (List.mem_singleton.1 hevent)
  have hle := hgreatest ⟨2, 9223372036854775808, 8⟩ List.mem_cons_self
  rw [← hcounter, hone] at hle
  exact absurd hle (by decide)

end AtomaProxy
