/-
The compute-unit columns of a stack refine a reservation ledger, as long as
every number of units reserved is below 2^63.

The HTTP layer takes a request's units as a `u64` and casts them to the
statement's `i64`. From 2^63 on the cast is negative: every clause on free
units holds, the CHECK (one-sided) holds, and the reservation raises what the
stack has free. Below it the five reserving statements, the insertion and the
settlement keep the row's two columns equal to what is reserved and to what
was settled, in any order.
-/
import AtomaProxy.State.Stacks
import AtomaProxy.Base.Reservation

namespace AtomaProxy

open Base

/-- Compute units count as themselves. -/
def unitGauge : Gauge Int where
  size := AddMonoidHom.id Int
  nonneg := fun h => h

@[simp] theorem unitGauge_size (a : Int) : unitGauge.size a = a := rfl

/-- The row holds the sums of the ledger. -/
structure Stack.Represents (row : Stack) (l : Ledger unitGauge) : Prop where
  limit : row.numComputeUnits.toInt = l.limit
  spent : row.alreadyComputedUnits.toInt = l.spent
  held : row.lockedComputeUnits.toInt = l.held.sum
  messages : 0 ≤ row.numTotalMessages.toInt ∧ row.numTotalMessages.toInt ≤ row.alreadyComputedUnits.toInt

theorem Stack.check_of_le {row : Stack} (ha : 0 ≤ row.alreadyComputedUnits.toInt)
    (hl : 0 ≤ row.lockedComputeUnits.toInt)
    (h : row.alreadyComputedUnits.toInt + row.lockedComputeUnits.toInt ≤ row.numComputeUnits.toInt) :
    row.check = .ok row := by
  have hn := inI64_toInt row.numComputeUnits
  have hin : InI64 (row.alreadyComputedUnits.toInt + row.lockedComputeUnits.toInt) := by
    unfold InI64 at *
    omega
  have hle : Int64.ofInt (row.alreadyComputedUnits.toInt + row.lockedComputeUnits.toInt) ≤
      row.numComputeUnits := by
    rw [Int64.le_iff_toInt_le, toInt_ofInt hin]
    exact h
  simp only [Stack.check, bigintAdd_eq_ok.2 (toInt_ofInt hin), bind, Except.bind, hle, if_true]

theorem Stack.of_addLocked {row row' : Stack} {units} (h : row.addLocked units = .ok row') :
    ∃ lockedComputeUnits : Int64, lockedComputeUnits.toInt = row.lockedComputeUnits.toInt + units.toInt ∧
      row' = { row with lockedComputeUnits } ∧
      row.alreadyComputedUnits.toInt + lockedComputeUnits.toInt ≤ row.numComputeUnits.toInt := by
  simp only [Stack.addLocked, ok_bind_iff, bigintAdd_eq_ok] at h
  obtain ⟨locked, hlocked, hcheck⟩ := h
  obtain ⟨hrow, hle⟩ := Stack.of_check hcheck
  exact ⟨locked, hlocked, hrow, hle⟩

namespace Stack.Represents

variable {row : Stack} {l : Ledger unitGauge}

theorem locked_nonneg (h : row.Represents l) : 0 ≤ row.lockedComputeUnits.toInt := h.held ▸ l.held_sum_nonneg

theorem already_nonneg (h : row.Represents l) : 0 ≤ row.alreadyComputedUnits.toInt := h.spent ▸ l.spent_nonneg

theorem within (h : row.Represents l) :
    row.alreadyComputedUnits.toInt + row.lockedComputeUnits.toInt ≤ row.numComputeUnits.toInt := by
  have hw := l.within
  rw [unitGauge_size, ← h.spent, ← h.held, ← h.limit] at hw
  exact hw

/-- Adding units that are not negative reserves them. -/
theorem addLocked (h : row.Represents l) {units : Int64} (hu : 0 ≤ units.toInt) {row'}
    (ha : row.addLocked units = .ok row') : ∃ hn, row'.Represents (l.reserve units.toInt hu hn) := by
  obtain ⟨locked, hlocked, rfl, hle⟩ := Stack.of_addLocked ha
  refine ⟨?_, h.limit, h.spent, ?_, h.messages⟩
  · simp only [Ledger.need, unitGauge_size, ← h.spent, ← h.held, ← h.limit]
    omega
  · simp only [Ledger.reserve, Multiset.sum_cons, ← h.held]
    omega

/-- A settlement of a reservation that is out always succeeds, and settles it. -/
theorem settle (h : row.Represents l) {estimated total : Int64} (hm : estimated.toInt ∈ l.held)
    (h0 : 0 ≤ total.toInt) (hle : total.toInt ≤ estimated.toInt) :
    ∃ row', row.settle estimated total = .ok (.some row') ∧
      row'.Represents (l.settle estimated.toInt total.toInt hm h0 hle) := by
  have ha := h.already_nonneg
  have hw := h.within
  have hmsg := h.messages
  have hn := inI64_toInt row.numComputeUnits
  have hheld : estimated.toInt ≤ row.lockedComputeUnits.toInt :=
    h.held ▸ Multiset.single_le_sum l.held_nonneg _ hm
  have hn0 := toInt_ite_pos h0
  set n : Int64 := if total > 0 then 1 else 0 with hn'
  have hin1 : InI64 (row.alreadyComputedUnits.toInt + total.toInt) := by unfold InI64 at *; omega
  have hin2 : InI64 (row.lockedComputeUnits.toInt - estimated.toInt) := by unfold InI64 at *; omega
  have hin3 : InI64 (row.numTotalMessages.toInt + n.toInt) := by unfold InI64 at *; omega
  set row' : Stack := { row with
    alreadyComputedUnits := .ofInt (row.alreadyComputedUnits.toInt + total.toInt)
    lockedComputeUnits := .ofInt (row.lockedComputeUnits.toInt - estimated.toInt)
    numTotalMessages := .ofInt (row.numTotalMessages.toInt + n.toInt) } with hrow'
  have halready : row'.alreadyComputedUnits.toInt = row.alreadyComputedUnits.toInt + total.toInt := toInt_ofInt hin1
  have hlocked : row'.lockedComputeUnits.toInt = row.lockedComputeUnits.toInt - estimated.toInt := toInt_ofInt hin2
  have hmessages : row'.numTotalMessages.toInt = row.numTotalMessages.toInt + n.toInt := toInt_ofInt hin3
  have hcheck : row'.check = .ok row' := by
    refine Stack.check_of_le ?_ ?_ ?_
    · omega
    · omega
    · rw [halready, hlocked]
      show _ ≤ row.numComputeUnits.toInt
      omega
  refine ⟨row', ?_, h.limit, ?_, ?_, ?_⟩
  · simp only [Stack.settle, ← hn', bigintAdd_eq_ok.2 (toInt_ofInt hin1), bigintSub_eq_ok.2 (toInt_ofInt hin2),
      bigintAdd_eq_ok.2 (toInt_ofInt hin3), bind, Except.bind, ← hrow', hcheck]
  · rw [halready, h.spent]
    rfl
  · rw [hlocked, h.held]
    exact (sum_erase hm).symm
  · rw [hmessages, halready]
    omega

end Stack.Represents

/-- A row as it is inserted holds one reservation. -/
theorem Stack.represents_inserted {row row' : Stack} (ha : row.alreadyComputedUnits = 0)
    (hm : row.numTotalMessages = 0) (hl : 0 ≤ row.lockedComputeUnits.toInt) (hc : row.check = .ok row') :
    ∃ h0 hn, row'.Represents ((Ledger.fresh unitGauge row.numComputeUnits.toInt h0).reserve
      row.lockedComputeUnits.toInt hl hn) := by
  obtain ⟨rfl, hle⟩ := Stack.of_check hc
  have hzero : (0 : Int64).toInt = 0 := rfl
  rw [ha, hzero] at hle
  refine ⟨by omega, ?_, rfl, ?_, ?_, ?_⟩
  · simp only [Ledger.need, Ledger.fresh, unitGauge_size, Multiset.sum_zero]
    omega
  · rw [ha]
    rfl
  · simp [Ledger.reserve, Ledger.fresh]
  · rw [hm, ha]
    exact ⟨le_refl 0, le_refl 0⟩

/-! ## Runs -/

/-- The tables, and what a run remembers of each stack: the units reserved and not settled, and the actual
totals of the settled reservations, latest first. -/
structure StackState where
  tables : StackTables
  outstanding : Int64 → Multiset Int
  settled : Int64 → List Int

/-- The reserving statements, without the units they reserve. -/
inductive StackRequest where
  | getStacksForModel (pick : Option Int64) (model : String) (userId : Int64) (isConfidential : Bool)
  | getStacksForTask (pick : Option Int64) (taskSmallId userId : Int64)
  | selectNodePublicKeyForEncryption (pick : Option Int64) (model : String) (userId : Int64)
  | getAvailableStackWithComputeUnits (stackSmallId : Int64) (publicKey : String)
  | lockComputeUnits (stackSmallId : Int64)

/-- What can happen to the stacks. Units are what the HTTP layer read from a request. -/
inductive StackEvent where
  | reserve (request : StackRequest) (units : UInt64)
  | newStackAcquired (event : StackCreatedEvent) (units : UInt64) (userId : Int64)
  | updateStackNumTokens (stackSmallId : Int64) (units : UInt64) (totalTokens : Int64)
  | lockStack (stackSmallId : Int64)
  | updateStackClaimed (stackSmallId : Int64)
  | catalogChange (catalog : Catalog)

def StackTables.reserve (s : StackTables) (units : Int64) :
    StackRequest → Except AtomaStateManagerError (Option (Int64 × Stack) × StackTables)
  | .getStacksForModel pick model userId conf => getStacksForModel s pick model units userId conf
  | .getStacksForTask pick taskSmallId userId => getStacksForTask s pick taskSmallId units userId
  | .selectNodePublicKeyForEncryption pick model userId => selectNodePublicKeyForEncryption s pick model units userId
  | .getAvailableStackWithComputeUnits id publicKey => getAvailableStackWithComputeUnits s id publicKey units
  | .lockComputeUnits id => lockComputeUnits s id units

def stackStep (s : StackState) : StackEvent → StackState
  | .reserve request units =>
    match s.tables.reserve units.toInt64 request with
    | .ok (.some (id, _), tables) =>
      { s with tables, outstanding := Function.update s.outstanding id (↑units.toNat ::ₘ s.outstanding id) }
    | .ok (.none, tables) => { s with tables }
    | .error _ => s
  | .newStackAcquired event units userId =>
    match handleStackCreatedEvent s.tables event units.toInt64 userId with
    | .ok tables =>
      let id := event.stackSmallId.toInt64
      { s with tables, outstanding := Function.update s.outstanding id (↑units.toNat ::ₘ s.outstanding id) }
    | .error _ => s
  | .updateStackNumTokens id units totalTokens =>
    { tables :=
        match updateStackNumTokens s.tables id units.toInt64 totalTokens with
        | .ok tables => tables
        | .error _ => s.tables
      outstanding := Function.update s.outstanding id ((s.outstanding id).erase ↑units.toNat)
      settled := Function.update s.settled id (totalTokens.toInt :: s.settled id) }
  | .lockStack id => { s with tables := lockStack s.tables id }
  | .updateStackClaimed id => { s with tables := updateStackClaimed s.tables id }
  | .catalogChange catalog => { s with tables.catalog := catalog }

def stackMachine : Machine StackState StackEvent where
  step s e := .some (stackStep s e)

/-- No stack was ever acquired. -/
def StackState.empty (catalog : Catalog) : StackState where
  tables := { rows := fun _ => .none, stackIds := [], catalog }
  outstanding := fun _ => 0
  settled := fun _ => []

/-- A settlement settles a reservation that is out, at no more than it. -/
def StackEvent.Allowed (s : StackState) : StackEvent → Prop
  | .updateStackNumTokens id units totalTokens =>
    (units.toNat : Int) ∈ s.outstanding id ∧ 0 ≤ totalTokens.toInt ∧ totalTokens.toInt ≤ units.toNat
  | _ => True

/-- The units an event reserves are below 2^63. -/
def StackEvent.InRange : StackEvent → Prop
  | .reserve _ units => units.toNat < 2 ^ 63
  | .newStackAcquired _ units _ => units.toNat < 2 ^ 63
  | _ => True

/-- What the columns of every stack have to say. -/
def StackState.Accounted (s : StackState) : Prop :=
  ∀ id row, s.tables.rows id = .some row →
    row.lockedComputeUnits.toInt = (s.outstanding id).sum ∧ 0 ≤ row.lockedComputeUnits.toInt ∧
    row.alreadyComputedUnits.toInt = (s.settled id).sum ∧
    row.alreadyComputedUnits.toInt + row.lockedComputeUnits.toInt ≤ row.numComputeUnits.toInt

/-- The invariant: every row holds the sums of a ledger whose reservations are those the run remembers, and
of a stack without a row nothing is remembered. -/
structure StackState.Tracked (s : StackState) : Prop where
  present : ∀ {id row}, s.tables.rows id = .some row →
    ∃ l, row.Represents l ∧ s.outstanding id = l.held ∧ (s.settled id).sum = l.spent
  absent : ∀ {id}, s.tables.rows id = .none → s.outstanding id = 0 ∧ s.settled id = []

theorem StackState.Tracked.accounted {s : StackState} (h : s.Tracked) : s.Accounted := by
  intro id row hrow
  obtain ⟨l, hr, hout, hset⟩ := h.present hrow
  exact ⟨by rw [hr.held, hout], hr.locked_nonneg, by rw [hr.spent, hset], hr.within⟩

theorem StackState.tracked_empty (c : Catalog) : (StackState.empty c).Tracked where
  present := fun h => nomatch h
  absent := fun _ => ⟨rfl, rfl⟩

/-- A step that writes one row and what is remembered of that stack. -/
theorem StackState.Tracked.write {s : StackState} (h : s.Tracked) {id row l} (hr : row.Represents l) {tables out set}
    (hrows : tables.rows = Function.update s.tables.rows id (.some row)) (hout : out = l.held)
    (hset : set.sum = l.spent) : StackState.Tracked
      ⟨tables, Function.update s.outstanding id out, Function.update s.settled id set⟩ where
  present := by
    intro id' row' hrow'
    dsimp only at hrow' ⊢
    rw [hrows] at hrow'
    by_cases hid : id' = id
    · subst hid
      simp only [Function.update_self, Option.some.injEq] at hrow' ⊢
      exact ⟨l, hrow' ▸ hr, hout, hset⟩
    · simp only [Function.update_of_ne hid] at hrow' ⊢
      exact h.present hrow'
  absent := by
    intro id' hrow'
    dsimp only at hrow' ⊢
    rw [hrows] at hrow'
    by_cases hid : id' = id
    · subst hid
      simp at hrow'
    · simp only [Function.update_of_ne hid] at hrow' ⊢
      exact h.absent hrow'

/-- What is remembered of the settled reservations stays where only a reservation is recorded. -/
theorem StackState.Tracked.reserved {s : StackState} (h : s.Tracked) {id row l} (hr : row.Represents l) {tables out}
    (hrows : tables.rows = Function.update s.tables.rows id (.some row)) (hout : out = l.held)
    (hset : (s.settled id).sum = l.spent) : StackState.Tracked
      { s with tables, outstanding := Function.update s.outstanding id out } := by
  have hw := h.write hr hrows hout hset
  rwa [Function.update_eq_self] at hw

theorem StackTables.reserve_some {s s' : StackTables} {units r id row'} (h : s.reserve units r = .ok (.some (id, row'), s')) :
    ∃ row, s.rows id = .some row ∧ row.addLocked units = .ok row' ∧
      s' = { s with rows := Function.update s.rows id (.some row') } := by
  cases r with
  | getStacksForModel pick model userId conf =>
    simp only [reserve, getStacksForModel] at h
    split at h
    · cases h
    · exact reservePicked_some h
  | getStacksForTask pick taskSmallId userId => exact reservePicked_some h
  | selectNodePublicKeyForEncryption pick model userId => exact reservePicked_some h
  | getAvailableStackWithComputeUnits id publicKey =>
    simp only [reserve, AtomaProxy.getAvailableStackWithComputeUnits] at h
    exact reservePicked_some h
  | lockComputeUnits id =>
    simp only [reserve, AtomaProxy.lockComputeUnits, ok_bind_iff] at h
    obtain ⟨⟨row, s₁⟩, hp, h⟩ := h
    split at h
    · simp only [Except.ok.injEq, Prod.mk.injEq] at h
      obtain ⟨rfl, rfl⟩ := h
      exact reservePicked_some hp
    · cases h

theorem StackTables.reserve_none {s s' : StackTables} {units r} (h : s.reserve units r = .ok (.none, s')) : s' = s := by
  cases r with
  | getStacksForModel pick model userId conf =>
    simp only [reserve, getStacksForModel] at h
    split at h
    · cases h
    · exact reservePicked_none h
  | getStacksForTask pick taskSmallId userId => exact reservePicked_none h
  | selectNodePublicKeyForEncryption pick model userId => exact reservePicked_none h
  | getAvailableStackWithComputeUnits id publicKey =>
    simp only [reserve, AtomaProxy.getAvailableStackWithComputeUnits] at h
    exact reservePicked_none h
  | lockComputeUnits id =>
    simp only [reserve, AtomaProxy.lockComputeUnits, ok_bind_iff] at h
    obtain ⟨⟨row, s₁⟩, hp, h⟩ := h
    split at h
    · next hsome =>
      simp only [Except.ok.injEq, Prod.mk.injEq] at h
      obtain ⟨rfl, rfl⟩ := h
      cases hsome
    · cases h

/-- A write of flags keeps the rows' ledgers. -/
theorem StackState.Tracked.flags {s : StackState} (h : s.Tracked) {id} {f : Stack → Except SqlError (Option Stack)}
    (hf : ∀ row l, row.Represents l → (Table.rowAfter f row).Represents l) :
    StackState.Tracked { s with tables.rows := s.tables.rows.after id f } where
  present := by
    intro id' row hrow
    simp only [Table.after_apply] at hrow
    split at hrow
    · next hid =>
      simp only [Option.map_eq_some_iff] at hrow
      obtain ⟨row₀, hrow₀, rfl⟩ := hrow
      obtain ⟨l, hr, hrest⟩ := h.present (hid ▸ hrow₀)
      exact ⟨l, hf _ _ hr, hrest⟩
    · exact h.present hrow
  absent := by
    intro id' hrow
    simp only [Table.after_apply] at hrow
    split at hrow
    · next hid =>
      simp only [Option.map_eq_none_iff] at hrow
      exact h.absent (hid ▸ hrow)
    · exact h.absent hrow

/-- A write of flags changes nothing but flags. -/
theorem Stack.rowAfter_setFlags (row : Stack) (claim : Bool) :
    ∃ isClaimed isLocked, Table.rowAfter (Stack.setFlags claim) row = { row with isClaimed, isLocked } := by
  unfold Table.rowAfter Stack.setFlags
  split
  · next row' hrow =>
    simp only [ok_bind_iff, Except.ok.injEq, Option.some.injEq] at hrow
    obtain ⟨r, hcheck, rfl⟩ := hrow
    exact ⟨_, _, (Stack.of_check hcheck).1⟩
  · exact ⟨row.isClaimed, row.isLocked, rfl⟩

theorem Stack.Represents.setFlags {row : Stack} {l} (h : row.Represents l) (claim : Bool) :
    (Table.rowAfter (Stack.setFlags claim) row).Represents l := by
  obtain ⟨isClaimed, isLocked, hrow⟩ := row.rowAfter_setFlags claim
  rw [hrow]
  exact ⟨h.limit, h.spent, h.held, h.messages⟩

theorem toInt_units {units : UInt64} (h : units.toNat < 2 ^ 63) : units.toInt64.toInt = (units.toNat : Int) :=
  toInt_toInt64 h

/-- **One event keeps the invariant**, when the units it reserves are in range. -/
theorem StackState.Tracked.step {s s' : StackState} {ev} (h : s.Tracked) (ha : ev.Allowed s ∧ ev.InRange)
    (hstep : stackMachine.step s ev = .some s') : s'.Tracked := by
  simp only [stackMachine, Option.some.injEq] at hstep
  subst hstep
  obtain ⟨ha, hin⟩ := ha
  cases ev with
  | reserve request units =>
    simp only [stackStep]
    split
    · next id row' tables hres =>
      obtain ⟨row, hrow, hadd, rfl⟩ := StackTables.reserve_some hres
      obtain ⟨l, hr, hout, hset⟩ := h.present hrow
      have hu : 0 ≤ units.toInt64.toInt := toInt_toInt64_nonneg.2 hin
      obtain ⟨hn, hr'⟩ := hr.addLocked hu hadd
      refine h.reserved hr' rfl ?_ hset
      rw [hout, ← toInt_units hin]
      rfl
    · next tables hres =>
      rw [StackTables.reserve_none hres]
      exact h
    · exact h
  | newStackAcquired event units userId =>
    simp only [stackStep]
    split
    · next tables hins =>
      obtain ⟨hnone, hcheck, hrows⟩ := handleStackCreatedEvent_ok hins
      have hu : 0 ≤ units.toInt64.toInt := toInt_toInt64_nonneg.2 hin
      obtain ⟨h0, hn, hr'⟩ := Stack.represents_inserted rfl rfl hu hcheck
      obtain ⟨hout, hset⟩ := h.absent hnone
      refine h.reserved hr' hrows ?_ (by rw [hset]; rfl)
      rw [hout, ← toInt_units hin]
      rfl
    · exact h
  | updateStackNumTokens id units totalTokens =>
    obtain ⟨hm, h0, hle⟩ := ha
    cases hrow : s.tables.rows id with
    | none =>
      rw [(h.absent hrow).1] at hm
      exact absurd hm (Multiset.notMem_zero _)
    | some row =>
      obtain ⟨l, hr, hout, hset⟩ := h.present hrow
      rw [hout] at hm
      -- a reservation that is out is at most the locked column, so it is in range
      have hin' : units.toNat < 2 ^ 63 := by
        have h1 : (units.toNat : Int) ≤ row.lockedComputeUnits.toInt :=
          hr.held ▸ Multiset.single_le_sum l.held_nonneg _ hm
        have h2 := inI64_toInt row.lockedComputeUnits
        unfold InI64 at h2
        omega
      have hu := toInt_units hin'
      rw [← hu] at hm hle
      obtain ⟨row', hsettle, hr'⟩ := hr.settle hm h0 hle
      have hupd := updateStackNumTokens_ok.2 ⟨row, row', hrow, hsettle, rfl⟩
      simp only [stackStep, hupd]
      refine h.write hr' rfl ?_ ?_
      · rw [hout, ← hu]
        rfl
      · simp only [List.sum_cons, hset, Ledger.settle, add_comm]
  | lockStack id => exact h.flags fun row l hr => hr.setFlags false
  | updateStackClaimed id => exact h.flags fun row l hr => hr.setFlags true
  | catalogChange catalog => exact ⟨h.present, h.absent⟩

/-- **Main result.** In every run that reserves units below 2^63 only, every stack's columns are, in every state
reached, what is reserved and what was settled, within the stack. -/
theorem stack_accounting {c : Catalog} {evs s'}
    (hg : stackMachine.Guarded (fun s ev => ev.Allowed s ∧ ev.InRange) (StackState.empty c) evs)
    (hrun : stackMachine.run (StackState.empty c) evs = .some s') : s'.Accounted :=
  (Machine.run_invariant StackState.Tracked.step (StackState.tracked_empty c) hg hrun).accounted

/-- From 2^63 on a reservation that is granted breaks the accounting of its stack at once. -/
theorem reserve_not_accounted {s : StackState} {request units id row' tables} (h : s.Accounted)
    (hu : 2 ^ 63 ≤ units.toNat) (hres : s.tables.reserve units.toInt64 request = .ok (.some (id, row'), tables)) :
    ¬ (stackStep s (.reserve request units)).Accounted := by
  intro hacc
  obtain ⟨row, hrow, hadd, htables⟩ := StackTables.reserve_some hres
  obtain ⟨locked, hlocked, rfl, _⟩ := Stack.of_addLocked hadd
  simp only [stackStep, hres] at hacc
  have hsum := (h id row hrow).1
  have hsum' := (hacc id _ (by rw [htables]; exact Function.update_self _ _ _)).1
  simp only [Function.update_self, Multiset.sum_cons, toInt_toInt64_neg hu] at hlocked hsum'
  omega

/-- A confidential task served by one node. -/
def catalogExample : Catalog where
  tasks := fun id => if id = 5 then .some ⟨.some "model", false, 1⟩ else .none
  ticketIsClaimed := fun _ => .none
  nodePublicKeys := [⟨7, 3, [1, 2], true⟩]
  keyRotations := [2, 3]

/-- The stack of 1000 units user 9 buys from that node. -/
def stackCreatedExample : StackCreatedEvent := ⟨"owner", "0x1", 1, 5, 7, 1000, 10⟩

def stackExampleRun : List StackEvent :=
  [.newStackAcquired stackCreatedExample 200 9,
    .reserve (.selectNodePublicKeyForEncryption (.some 1) "model" 9) 300,
    .updateStackNumTokens 1 200 150]

theorem stack_accounting_example :
    ∃ s', stackMachine.run (StackState.empty catalogExample) stackExampleRun = .some s' ∧
      (s'.tables.rows 1).map (fun row => (row.alreadyComputedUnits, row.lockedComputeUnits)) = .some (150, 300) ∧
      s'.Accounted := by
  have hrun : stackMachine.run (StackState.empty catalogExample) stackExampleRun =
      .some (stackExampleRun.foldl stackStep (StackState.empty catalogExample)) := rfl
  refine ⟨_, hrun, by decide, stack_accounting ?_ hrun⟩
  refine (Machine.guarded_cons rfl).2 ⟨⟨trivial, show (200 : UInt64).toNat < 2 ^ 63 by decide⟩, ?_⟩
  refine (Machine.guarded_cons rfl).2 ⟨⟨trivial, show (300 : UInt64).toNat < 2 ^ 63 by decide⟩, ?_⟩
  exact (Machine.guarded_cons rfl).2 ⟨⟨⟨by decide, by decide, by decide⟩, trivial⟩, trivial⟩

/-- `max_num_tokens` of 2^64 - 1 reserves minus one unit. -/
theorem stack_accounting_fails : ¬ ∀ (c : Catalog) (evs : List StackEvent) (s' : StackState),
    stackMachine.Guarded (fun s ev => ev.Allowed s) (StackState.empty c) evs →
      stackMachine.run (StackState.empty c) evs = .some s' → s'.Accounted := by
  intro h
  let evs : List StackEvent := [.newStackAcquired stackCreatedExample 0 9,
    .reserve (.selectNodePublicKeyForEncryption (.some 1) "model" 9) 18446744073709551615]
  have hacc := h catalogExample evs (evs.foldl stackStep (StackState.empty catalogExample))
    ((Machine.guarded_cons rfl).2 ⟨trivial, (Machine.guarded_cons rfl).2 ⟨trivial, trivial⟩⟩) rfl
  have hrow : ((evs.foldl stackStep (StackState.empty catalogExample)).tables.rows 1) =
      .some { stackCreatedExample.toStack 9 with lockedComputeUnits := -1 } := by decide
  have hneg := (hacc 1 _ hrow).2.1
  exact absurd hneg (by decide)

end AtomaProxy
