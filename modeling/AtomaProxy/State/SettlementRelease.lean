/-
When the settlement of a reservation releases it.

`update_stack_num_tokens` is one statement: it adds the actual total, takes
the estimate off the locked units and counts a message, and the table's CHECK
is evaluated on the row that makes. An actual total that the stack has no room
for fails the whole statement, so that its estimate stays locked. In a run
whose settlements all fit, the locked units are what is reserved and not
settled, whatever was reserved and whatever was reported.
-/
import AtomaProxy.State.StackAccounting

namespace AtomaProxy

open Base

/-- The row that the settlement makes is one the table can hold. -/
structure Stack.SettlementFits (row : Stack) (estimate total : Int64) : Prop where
  computed : InI64 (row.alreadyComputedUnits.toInt + total.toInt)
  locked : InI64 (row.lockedComputeUnits.toInt - estimate.toInt)
  messages : InI64 (row.numTotalMessages.toInt + (if total > 0 then (1 : Int64) else 0).toInt)
  sum : InI64 (row.alreadyComputedUnits.toInt + total.toInt + (row.lockedComputeUnits.toInt - estimate.toInt))
  room : row.alreadyComputedUnits.toInt + total.toInt + (row.lockedComputeUnits.toInt - estimate.toInt) ≤
    row.numComputeUnits.toInt

/-- A settlement that succeeds takes the estimate off the locked units. -/
theorem Stack.of_settle {row row' : Stack} {estimate total : Int64}
    (h : row.settle estimate total = .ok (.some row')) : row.SettlementFits estimate total ∧
      row'.lockedComputeUnits.toInt = row.lockedComputeUnits.toInt - estimate.toInt := by
  simp only [Stack.settle, ok_bind_iff, bigintAdd_eq_ok, bigintSub_eq_ok, Except.ok.injEq, Option.some.injEq] at h
  obtain ⟨computed, hc, locked, hl, messages, hm, row₁, hcheck, rfl⟩ := h
  simp only [Stack.check, ok_bind_iff, bigintAdd_eq_ok] at hcheck
  obtain ⟨sum, hs, hcheck⟩ := hcheck
  split at hcheck
  · next hle =>
    cases hcheck
    rw [Int64.le_iff_toInt_le, hs, hc, hl] at hle
    rw [hc, hl] at hs
    exact ⟨⟨hc ▸ inI64_toInt computed, hl ▸ inI64_toInt locked, hm ▸ inI64_toInt messages,
      hs ▸ inI64_toInt sum, hle⟩, hl⟩
  · cases hcheck

/-- One whose row fits succeeds. -/
theorem Stack.SettlementFits.settle {row : Stack} {estimate total : Int64} (h : row.SettlementFits estimate total) :
    ∃ row', row.settle estimate total = .ok (.some row') := by
  have hc := toInt_ofInt h.computed
  have hl := toInt_ofInt h.locked
  have hm := toInt_ofInt h.messages
  have hs := toInt_ofInt h.sum
  have hle : Int64.ofInt (row.alreadyComputedUnits.toInt + total.toInt +
      (row.lockedComputeUnits.toInt - estimate.toInt)) ≤ row.numComputeUnits := by
    rw [Int64.le_iff_toInt_le, hs]
    exact h.room
  have hcheck : ∀ row₁ : Stack, row₁.alreadyComputedUnits.toInt = row.alreadyComputedUnits.toInt + total.toInt →
      row₁.lockedComputeUnits.toInt = row.lockedComputeUnits.toInt - estimate.toInt →
      row₁.numComputeUnits = row.numComputeUnits → row₁.check = .ok row₁ := by
    intro row₁ h1 h2 h3
    refine ok_bind_iff.2 ⟨_, bigintAdd_eq_ok.2 ?_, if_pos (h3 ▸ hle)⟩
    rw [hs, h1, h2]
  refine ⟨_, ok_bind_iff.2 ⟨_, bigintAdd_eq_ok.2 hc, ok_bind_iff.2 ⟨_, bigintSub_eq_ok.2 hl,
    ok_bind_iff.2 ⟨_, bigintAdd_eq_ok.2 hm, ok_bind_iff.2 ⟨_, hcheck _ hc hl rfl, rfl⟩⟩⟩⟩⟩

/-- The event's statement succeeds and leaves the stack with that many units fewer locked. -/
def StackTables.Releases (s : StackTables) (id : Int64) (estimate total : Int64) : Prop :=
  ∃ s' row row', updateStackNumTokens s id estimate total = .ok s' ∧ s.rows id = .some row ∧
    s'.rows id = .some row' ∧ row'.lockedComputeUnits.toInt = row.lockedComputeUnits.toInt - estimate.toInt

/-- **A settlement releases its estimate exactly where it fits.** -/
theorem StackTables.releases_iff {s : StackTables} {id : Int64} {row : Stack} (hrow : s.rows id = .some row)
    {estimate total : Int64} : s.Releases id estimate total ↔ row.SettlementFits estimate total := by
  constructor
  · intro h
    obtain ⟨s', _, _, hs, _, _, _⟩ := h
    obtain ⟨row₁, row', hrow₁, hf, _⟩ := updateStackNumTokens_ok.1 hs
    rw [hrow] at hrow₁
    cases hrow₁
    exact (Stack.of_settle hf).1
  · intro h
    obtain ⟨row', hf⟩ := h.settle
    exact ⟨_, row, row', updateStackNumTokens_ok.2 ⟨row, row', hrow, hf, rfl⟩, hrow, Function.update_self _ _ _,
      (Stack.of_settle hf).2⟩

/-- Where the columns are accounted for and the total is not negative, all that matters is the room. -/
theorem Stack.Represents.settlementFits_iff {row : Stack} {l : Ledger unitGauge} (h : row.Represents l)
    {estimate total : Int64} (hm : estimate.toInt ∈ l.held) (h0 : 0 ≤ total.toInt) :
    row.SettlementFits estimate total ↔
      row.alreadyComputedUnits.toInt + total.toInt + (row.lockedComputeUnits.toInt - estimate.toInt) ≤
        row.numComputeUnits.toInt := by
  have ha := h.already_nonneg
  have hmsg := h.messages
  have hn := inI64_toInt row.numComputeUnits
  have hl := inI64_toInt row.lockedComputeUnits
  have hest : 0 ≤ estimate.toInt := l.held_nonneg _ hm
  have hheld : estimate.toInt ≤ row.lockedComputeUnits.toInt := h.held ▸ Multiset.single_le_sum l.held_nonneg _ hm
  have hcount := toInt_ite_pos h0
  refine ⟨fun hf => hf.room, fun hroom => ⟨?_, ?_, ?_, ?_, hroom⟩⟩ <;> unfold InI64 at * <;> omega

/-! ## Runs -/

/-- The units a reservation adds to the locked column: a cast of what was asked for. -/
def lockedUnits (reserved : Multiset Int) : Int := (reserved.map fun units => Int.bmod units (2 ^ 64)).sum

/-- Every stack has exactly what is reserved and not settled locked, and of a stack without a row nothing is. -/
structure StackState.Released (s : StackState) : Prop where
  present : ∀ {id row}, s.tables.rows id = .some row → row.lockedComputeUnits.toInt = lockedUnits (s.outstanding id)
  absent : ∀ {id}, s.tables.rows id = .none → s.outstanding id = 0

/-- The event settles a reservation that is out. -/
def StackEvent.Outstanding (s : StackState) : StackEvent → Prop
  | .updateStackNumTokens id units _ => (units.toNat : Int) ∈ s.outstanding id
  | _ => True

/-- Its settlement fits the stack's row. -/
def StackEvent.SettlementFits (s : StackState) : StackEvent → Prop
  | .updateStackNumTokens id units totalTokens =>
    ∀ row, s.tables.rows id = .some row → row.SettlementFits units.toInt64 totalTokens
  | _ => True

theorem StackState.released_empty (c : Catalog) : (StackState.empty c).Released := ⟨(nomatch ·), fun _ => rfl⟩

theorem lockedUnits_cons (units : UInt64) (reserved : Multiset Int) :
    lockedUnits (↑units.toNat ::ₘ reserved) = units.toInt64.toInt + lockedUnits reserved := by
  rw [lockedUnits, Multiset.map_cons, Multiset.sum_cons, toInt_toInt64_bmod]
  rfl

theorem lockedUnits_erase {units : UInt64} {reserved : Multiset Int} (h : (units.toNat : Int) ∈ reserved) :
    lockedUnits (reserved.erase ↑units.toNat) = lockedUnits reserved - units.toInt64.toInt := by
  have hcons := lockedUnits_cons units (reserved.erase ↑units.toNat)
  rw [Multiset.cons_erase h] at hcons
  omega

/-- A step that writes one stack's row and reservations. -/
theorem StackState.Released.write {s : StackState} (h : s.Released) {id : Int64} {row : Stack} {tables : StackTables}
    {reserved : Multiset Int} {settled : Int64 → List Int}
    (hrows : tables.rows = Function.update s.tables.rows id (.some row))
    (hlocked : row.lockedComputeUnits.toInt = lockedUnits reserved) :
    StackState.Released ⟨tables, Function.update s.outstanding id reserved, settled⟩ where
  present := by
    intro id' row' hrow'
    dsimp only at hrow' ⊢
    rw [hrows] at hrow'
    by_cases hid : id' = id
    · subst hid
      rw [Function.update_self] at hrow' ⊢
      exact Option.some.inj hrow' ▸ hlocked
    · rw [Function.update_of_ne hid] at hrow' ⊢
      exact h.present hrow'
  absent := by
    intro id' hrow'
    dsimp only at hrow' ⊢
    rw [hrows] at hrow'
    by_cases hid : id' = id
    · subst hid
      simp at hrow'
    · rw [Function.update_of_ne hid] at hrow' ⊢
      exact h.absent hrow'

/-- A step that only sets a row's flags. -/
theorem StackState.Released.flags {s : StackState} (h : s.Released) (id : Int64) (claim : Bool) :
    StackState.Released { s with tables.rows := s.tables.rows.after id (Stack.setFlags claim) } where
  present := by
    intro id' row' hrow'
    dsimp only at hrow' ⊢
    rw [Table.after_apply] at hrow'
    split at hrow'
    · next hid =>
      subst hid
      obtain ⟨row, hrow, rfl⟩ := Option.map_eq_some_iff.1 hrow'
      refine Eq.trans ?_ (h.present hrow)
      obtain ⟨_, _, hflags⟩ := row.rowAfter_setFlags claim
      rw [hflags]
    · exact h.present hrow'
  absent := by
    intro id' hrow'
    dsimp only at hrow' ⊢
    rw [Table.after_apply] at hrow'
    split at hrow'
    · next hid => exact h.absent (hid ▸ Option.map_eq_none_iff.1 hrow')
    · exact h.absent hrow'

/-- **One event keeps it**, when it settles what is out and fits. -/
theorem StackState.Released.step {s s' : StackState} {ev : StackEvent} (h : s.Released)
    (ha : ev.Outstanding s ∧ ev.SettlementFits s) (hstep : stackMachine.step s ev = .some s') : s'.Released := by
  simp only [stackMachine, Option.some.injEq] at hstep
  subst hstep
  cases ev with
  | reserve request units =>
    simp only [stackStep]
    split
    · next id row' tables hres =>
      obtain ⟨row, hrow, hadd, rfl⟩ := StackTables.reserve_some hres
      obtain ⟨locked, hlocked, rfl, _⟩ := Stack.of_addLocked hadd
      refine h.write rfl ?_
      rw [lockedUnits_cons, ← h.present hrow, hlocked, Int.add_comm]
    · next tables hres =>
      rw [StackTables.reserve_none hres]
      exact h
    · exact h
  | newStackAcquired event units userId =>
    simp only [stackStep]
    split
    · next tables hins =>
      obtain ⟨hnone, _, hrows⟩ := handleStackCreatedEvent_ok hins
      refine h.write hrows ?_
      rw [h.absent hnone, lockedUnits_cons]
      exact (Int.add_zero _).symm
    · exact h
  | updateStackNumTokens id units totalTokens =>
    obtain ⟨hm, hfits⟩ := ha
    cases hrow : s.tables.rows id with
    | none =>
      rw [StackEvent.Outstanding, h.absent hrow] at hm
      exact absurd hm (Multiset.notMem_zero _)
    | some row =>
      obtain ⟨row', hsettle⟩ := (hfits row hrow).settle
      have hupd := updateStackNumTokens_ok.2 ⟨row, row', hrow, hsettle, rfl⟩
      simp only [stackStep, hupd]
      refine h.write rfl ?_
      rw [(Stack.of_settle hsettle).2, lockedUnits_erase hm, h.present hrow]
  | lockStack id => exact h.flags id false
  | updateStackClaimed id => exact h.flags id true
  | catalogChange catalog => exact ⟨h.present, h.absent⟩

/-- **Main result.** In every run whose settlements settle what is out and fit, every stack has locked exactly what
is reserved and not settled; and in every state reached, whatever total is reported for a reservation that is out,
the settlement releases it exactly if it fits. -/
theorem settlements_release {c : Catalog} {evs : List StackEvent} {s : StackState}
    (hg : stackMachine.Guarded (fun s ev => ev.Outstanding s ∧ ev.SettlementFits s) (StackState.empty c) evs)
    (hrun : stackMachine.run (StackState.empty c) evs = .some s) {id : Int64} {row : Stack}
    (hrow : s.tables.rows id = .some row) :
    row.lockedComputeUnits.toInt = lockedUnits (s.outstanding id) ∧
      ∀ (units : UInt64) (total : Int64), (units.toNat : Int) ∈ s.outstanding id →
        (s.tables.Releases id units.toInt64 total ↔ row.SettlementFits units.toInt64 total) :=
  ⟨(Machine.run_invariant StackState.Released.step (StackState.released_empty c) hg hrun).present hrow,
    fun _ _ _ => StackTables.releases_iff hrow⟩

/-- A stack of 1000 units, 200 of them reserved twice, and one settlement of 250. -/
def releaseExampleRun : List StackEvent :=
  [.newStackAcquired stackCreatedExample 200 9,
    .reserve (.selectNodePublicKeyForEncryption (.some 1) "model" 9) 200,
    .updateStackNumTokens 1 200 250]

theorem settlements_release_example :
    ∃ s row, stackMachine.run (StackState.empty catalogExample) releaseExampleRun = .some s ∧
      s.tables.rows 1 = .some row ∧ row.lockedComputeUnits.toInt = lockedUnits (s.outstanding 1) ∧
      ∀ (units : UInt64) (total : Int64), (units.toNat : Int) ∈ s.outstanding 1 →
        (s.tables.Releases 1 units.toInt64 total ↔ row.SettlementFits units.toInt64 total) := by
  have hrun : stackMachine.run (StackState.empty catalogExample) releaseExampleRun =
      .some (releaseExampleRun.foldl stackStep (StackState.empty catalogExample)) := rfl
  refine ⟨_, { stackCreatedExample.toStack 9 with
    alreadyComputedUnits := 250, lockedComputeUnits := 200, numTotalMessages := 1 }, hrun, by decide,
    settlements_release ?_ hrun (by decide)⟩
  refine (Machine.guarded_cons rfl).2 ⟨⟨trivial, trivial⟩, ?_⟩
  refine (Machine.guarded_cons rfl).2 ⟨⟨trivial, trivial⟩, ?_⟩
  have hout : ((200 : UInt64).toNat : Int) ∈
      ((releaseExampleRun.take 2).foldl stackStep (StackState.empty catalogExample)).outstanding 1 := by decide
  refine (Machine.guarded_cons rfl).2 ⟨⟨hout, fun row hrow => ?_⟩, trivial⟩
  have hrow' : row = { stackCreatedExample.toStack 9 with lockedComputeUnits := 400 } :=
    Option.some.inj (hrow.symm.trans (by decide))
  subst hrow'
  exact ⟨by decide, by decide, by decide, by decide, by decide⟩

/-- All 1000 units are reserved for one request, whose node reports 1001: they stay locked. -/
theorem settlements_release_fails : ¬ ∀ (c : Catalog) (evs : List StackEvent) (s : StackState) (id : Int64)
    (row : Stack) (units : UInt64) (total : Int64),
    stackMachine.Guarded (fun s ev => ev.Outstanding s) (StackState.empty c) evs →
    stackMachine.run (StackState.empty c) evs = .some s → s.tables.rows id = .some row →
    (units.toNat : Int) ∈ s.outstanding id → s.tables.Releases id units.toInt64 total := by
  intro h
  let evs : List StackEvent := [.newStackAcquired stackCreatedExample 1000 9]
  have hrow : (evs.foldl stackStep (StackState.empty catalogExample)).tables.rows 1 =
      .some { stackCreatedExample.toStack 9 with lockedComputeUnits := 1000 } := by decide
  have hreleases := h catalogExample evs (evs.foldl stackStep (StackState.empty catalogExample)) 1 _ 1000 1001
    ((Machine.guarded_cons rfl).2 ⟨trivial, trivial⟩) rfl hrow (by decide)
  have hroom := (StackTables.releases_iff hrow).1 hreleases |>.room
  exact absurd hroom (by decide)

end AtomaProxy
