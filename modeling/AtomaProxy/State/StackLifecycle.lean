/-
The end of a stack: locked, put up for settlement, or claimed.

A stack that ended is not to be reserved on again. Of the five reserving
statements three ask for `is_claimed` and `is_locked`, which a lock and a claim
set, and nothing unsets; the other two ask for neither. `in_settle_period` is
asked for by three of them, and no statement ever sets it: handling a
`StackTrySettleEvent` stores the ticket and leaves the stack's row alone.
-/
import AtomaProxy.State.StackAccounting

namespace AtomaProxy

open Base

/-! ## What the events do to a row's flags -/

/-- The flags of a row are not unset, and the row stays one the table can hold. -/
structure Stack.Kept (row row' : Stack) : Prop where
  inSettlePeriod : row'.inSettlePeriod = row.inSettlePeriod
  locked : row.isLocked = true → row'.isLocked = true
  claimed : row.isClaimed = true → row'.isClaimed = true
  check : row.check = .ok row → row'.check = .ok row'

theorem Stack.Kept.refl (row : Stack) : row.Kept row := ⟨rfl, id, id, id⟩

theorem Stack.Kept.addLocked {row row' : Stack} {units : Int64} (h : row.addLocked units = .ok row') :
    row.Kept row' := by
  simp only [Stack.addLocked, ok_bind_iff] at h
  obtain ⟨locked, _, hcheck⟩ := h
  obtain rfl := (Stack.of_check hcheck).1
  exact ⟨rfl, id, id, fun _ => hcheck⟩

theorem Stack.Kept.settle {row row' : Stack} {estimate total : Int64}
    (h : row.settle estimate total = .ok (.some row')) : row.Kept row' := by
  simp only [Stack.settle, ok_bind_iff, Except.ok.injEq, Option.some.injEq] at h
  obtain ⟨computed, _, locked, _, messages, _, row₁, hcheck, rfl⟩ := h
  obtain rfl := (Stack.of_check hcheck).1
  exact ⟨rfl, id, id, fun _ => hcheck⟩

/-- The table's CHECK does not look at the flags, so a lock and a claim of a row always succeed. -/
theorem Stack.setFlags_of_check {row : Stack} (h : row.check = .ok row) (claim : Bool) :
    Table.rowAfter (Stack.setFlags claim) row =
      { row with isClaimed := row.isClaimed || claim, isLocked := true } := by
  simp only [Stack.check, ok_bind_iff] at h
  obtain ⟨total, ht, hle⟩ := h
  split at hle
  · next hroom =>
    refine Table.rowAfter_of_ok (ok_bind_iff.2 ⟨_, ?_, rfl⟩)
    exact ok_bind_iff.2 ⟨total, ht, if_pos hroom⟩
  · cases hle

/-- What an event leaves in the table was there before, with its flags, or was inserted by it. -/
theorem stackStep_row {s : StackState} {ev : StackEvent} {id : Int64} {row' : Stack}
    (hcheck : ∀ row, s.tables.rows id = .some row → row.check = .ok row)
    (h : (stackStep s ev).tables.rows id = .some row') :
    (∃ row, s.tables.rows id = .some row ∧ row.Kept row') ∨
      (s.tables.rows id = .none ∧ row'.inSettlePeriod = false ∧ row'.check = .ok row' ∧
        ∃ event units userId, ev = .newStackAcquired event units userId ∧ event.stackSmallId.toInt64 = id) := by
  have hkept : s.tables.rows id = .some row' → ∃ row, s.tables.rows id = .some row ∧ row.Kept row' :=
    fun hrow => ⟨row', hrow, Stack.Kept.refl row'⟩
  -- one row written, and the others as they were
  have hupdate : ∀ {k : Int64} {row₀ row₁ : Stack}, s.tables.rows k = .some row₀ → row₀.Kept row₁ →
      Function.update s.tables.rows k (.some row₁) id = .some row' →
        ∃ row, s.tables.rows id = .some row ∧ row.Kept row' := by
    intro k row₀ row₁ hrow hk hupd
    by_cases hid : id = k
    · subst hid
      rw [Function.update_self, Option.some.injEq] at hupd
      exact ⟨row₀, hrow, hupd ▸ hk⟩
    · rw [Function.update_of_ne hid] at hupd
      exact hkept hupd
  have hflags : ∀ {k : Int64} {claim : Bool}, s.tables.rows.after k (Stack.setFlags claim) id = .some row' →
      ∃ row, s.tables.rows id = .some row ∧ row.Kept row' := by
    intro k claim hafter
    rw [Table.after_apply] at hafter
    split at hafter
    · next hid =>
      subst hid
      obtain ⟨row, hrow, rfl⟩ := Option.map_eq_some_iff.1 hafter
      rw [Stack.setFlags_of_check (hcheck row hrow) claim]
      refine ⟨row, hrow, rfl, fun _ => rfl, fun hc => ?_, fun hrow => ?_⟩
      · rw [Bool.or_eq_true]
        exact .inl hc
      · simp only [Stack.check, ok_bind_iff] at hrow ⊢
        obtain ⟨total, ht, hle⟩ := hrow
        refine ⟨total, ht, ?_⟩
        split at hle
        · next hroom => exact if_pos hroom
        · cases hle
    · exact hkept hafter
  cases ev with
  | reserve request units =>
    simp only [stackStep] at h
    split at h
    · next hres =>
      obtain ⟨row, hrow, hadd, rfl⟩ := StackTables.reserve_some hres
      exact .inl (hupdate hrow (Stack.Kept.addLocked hadd) h)
    · next hres =>
      rw [StackTables.reserve_none hres] at h
      exact .inl (hkept h)
    · exact .inl (hkept h)
  | newStackAcquired event units userId =>
    simp only [stackStep] at h
    split at h
    · next tables hins =>
      obtain ⟨hnone, hnew, hrows⟩ := handleStackCreatedEvent_ok hins
      dsimp only at h
      rw [hrows] at h
      by_cases hid : id = event.stackSmallId.toInt64
      · subst hid
        rw [Function.update_self, Option.some.injEq] at h
        subst h
        exact .inr ⟨hnone, rfl, hnew, event, units, userId, rfl, rfl⟩
      · rw [Function.update_of_ne hid] at h
        exact .inl (hkept h)
    · exact .inl (hkept h)
  | updateStackNumTokens k units totalTokens =>
    simp only [stackStep] at h
    split at h
    · next tables hupd =>
      obtain ⟨row, row₁, hrow, hsettle, rfl⟩ := updateStackNumTokens_ok.1 hupd
      exact .inl (hupdate hrow (Stack.Kept.settle hsettle) h)
    · exact .inl (hkept h)
  | lockStack k => exact .inl (hflags h)
  | updateStackClaimed k => exact .inl (hflags h)
  | catalogChange catalog => exact .inl (hkept h)

/-! ## Which requests reserve on which row -/

namespace StackRequest

/-- The stack a statement names, or its scan stops at. -/
def target : StackRequest → Option Int64
  | .getStacksForModel pick _ _ _ => pick
  | .getStacksForTask pick _ _ => pick
  | .selectNodePublicKeyForEncryption pick _ _ => pick
  | .getAvailableStackWithComputeUnits id _ => .some id
  | .lockComputeUnits id => .some id

/-- The clauses its row has to meet. -/
def clauses (c : Catalog) (units : Int64) : StackRequest → Int64 → Stack → Except SqlError Bool
  | .getStacksForModel _ model userId isConfidential =>
    if isConfidential then fun _ _ => .error .undefinedColumn else Stack.forModel c model units userId
  | .getStacksForTask _ taskSmallId userId => Stack.forTask taskSmallId units userId
  | .selectNodePublicKeyForEncryption _ model userId => Stack.forEncryption c model units userId
  | .getAvailableStackWithComputeUnits _ publicKey => Stack.available publicKey units
  | .lockComputeUnits _ => fun _ => Stack.fits units

/-- Whether `is_claimed` and `is_locked` are among them. -/
def asksForFlags : StackRequest → Bool
  | .getStacksForModel .. | .getStacksForTask .. | .selectNodePublicKeyForEncryption .. => true
  | .getAvailableStackWithComputeUnits .. | .lockComputeUnits .. => false

/-- The clauses hold of the row, and the table can hold it with the units added. -/
def Admits (c : Catalog) (units : Int64) (r : StackRequest) (id : Int64) (row : Stack) : Prop :=
  r.clauses c units id row = .ok true ∧ ∃ row', row.addLocked units = .ok row'

/-- A statement that asks for the flags does not admit a row that has one. -/
theorem not_admits {c : Catalog} {units : Int64} {r : StackRequest} {id : Int64} {row : Stack}
    (hr : r.asksForFlags = true) (hrow : row.isLocked = true ∨ row.isClaimed = true) : ¬ r.Admits c units id row := by
  intro hadmits
  obtain ⟨hc, _⟩ := hadmits
  cases r with
  | getStacksForModel pick model userId isConfidential =>
    simp only [clauses] at hc
    split at hc
    · cases hc
    · simp only [Stack.forModel, ok_bind_iff] at hc
      obtain ⟨free, _, hc⟩ := hc
      rcases hrow with hrow | hrow <;> simp [hrow] at hc
  | getStacksForTask pick taskSmallId userId =>
    simp only [clauses, Stack.forTask, ok_bind_iff] at hc
    obtain ⟨free, _, hc⟩ := hc
    rcases hrow with hrow | hrow <;> simp [hrow] at hc
  | selectNodePublicKeyForEncryption pick model userId =>
    simp only [clauses, Stack.forEncryption, ok_bind_iff] at hc
    obtain ⟨free, _, hc⟩ := hc
    rcases hrow with hrow | hrow <;> simp [hrow] at hc
  | getAvailableStackWithComputeUnits id publicKey => cases hr
  | lockComputeUnits id => cases hr

end StackRequest

/-- A reserving statement takes the row it stopped at exactly if it admits it. -/
theorem StackTables.reservePicked_some_iff {s : StackTables} {pick : Option Int64}
    {clauses : Int64 → Stack → Except SqlError Bool} {units id : Int64} :
    (∃ row' s', s.reservePicked pick clauses units = .ok (.some (id, row'), s')) ↔
      pick = .some id ∧ ∃ row, s.rows id = .some row ∧ clauses id row = .ok true ∧
        ∃ row', row.addLocked units = .ok row' := by
  constructor
  · intro h
    obtain ⟨row', s', h⟩ := h
    cases pick with
    | none => cases h
    | some k =>
      simp only [reservePicked, ok_bind_iff, query_eq_ok, Except.ok.injEq, Prod.mk.injEq] at h
      obtain ⟨⟨affected, rows⟩, hu, hr, rfl⟩ := h
      cases affected with
      | false => cases hr
      | true =>
        obtain ⟨row, row₁, hrow, hf, rfl⟩ := Table.updateRow_true.1 hu
        simp only [if_true, Function.update_self, Option.map_some, Option.some.injEq, Prod.mk.injEq] at hr
        obtain ⟨rfl, rfl⟩ := hr
        simp only [Stack.reserveWhere, ok_bind_iff] at hf
        obtain ⟨met, hmet, hf⟩ := hf
        cases met with
        | false => cases hf
        | true =>
          simp only [if_true, ok_bind_iff] at hf
          obtain ⟨row₂, hadd, _⟩ := hf
          exact ⟨rfl, row, hrow, hmet, row₂, hadd⟩
  · intro h
    obtain ⟨rfl, row, hrow, hmet, row', hadd⟩ := h
    have hf : Stack.reserveWhere (clauses id) units row = .ok (.some row') :=
      ok_bind_iff.2 ⟨true, hmet, ok_bind_iff.2 ⟨row', hadd, rfl⟩⟩
    have hu := Table.updateRow_true.2 ⟨row, row', hrow, hf, rfl⟩
    refine ⟨row', { s with rows := Function.update s.rows id (.some row') },
      ok_bind_iff.2 ⟨_, query_eq_ok.2 hu, ?_⟩⟩
    simp only [if_true, Function.update_self, Option.map_some]

theorem StackTables.reserve_some_iff {s : StackTables} {units : Int64} {r : StackRequest} {id : Int64} :
    (∃ row' s', s.reserve units r = .ok (.some (id, row'), s')) ↔
      r.target = .some id ∧ ∃ row, s.rows id = .some row ∧ r.Admits s.catalog units id row := by
  cases r with
  | getStacksForModel pick model userId isConfidential =>
    cases isConfidential with
    | true =>
      constructor
      · intro h
        obtain ⟨_, _, h⟩ := h
        cases h
      · intro h
        obtain ⟨_, _, _, h, _⟩ := h
        cases h
    | false => exact reservePicked_some_iff
  | getStacksForTask pick taskSmallId userId => exact reservePicked_some_iff
  | selectNodePublicKeyForEncryption pick model userId => exact reservePicked_some_iff
  | getAvailableStackWithComputeUnits k publicKey =>
    show (∃ row' s', s.reservePicked (.some k) (Stack.available publicKey units) units = _) ↔ _
    exact reservePicked_some_iff
  | lockComputeUnits k =>
    refine Iff.trans ?_ reservePicked_some_iff
    simp only [reserve, AtomaProxy.lockComputeUnits, ok_bind_iff]
    constructor
    · intro h
      obtain ⟨row', s', ⟨found, s₁⟩, hp, h⟩ := h
      split at h
      · cases h
        exact ⟨_, _, hp⟩
      · cases h
    · intro h
      obtain ⟨row', s', hp⟩ := h
      exact ⟨row', s', _, hp, rfl⟩

/-! ## Runs -/

/-- The stacks, which of them a lock, a ticket or a claim was handled of, and those that were reserved on after. -/
structure LifecycleState where
  ledger : StackState
  locked : List Int64
  settling : List Int64
  claimed : List Int64
  reservedAgain : List Int64

/-- The stack ended. -/
def LifecycleState.Ended (s : LifecycleState) (id : Int64) : Prop := id ∈ s.locked ∨ id ∈ s.settling ∨ id ∈ s.claimed

instance (s : LifecycleState) (id : Int64) : Decidable (s.Ended id) := inferInstanceAs (Decidable (_ ∨ _))

/-- The events of the stacks, and the ticket that puts one up for settlement. -/
inductive LifecycleEvent where
  | stack (ev : StackEvent)
  | stackTrySettle (stackSmallId : Int64)

/-- `handle_stack_try_settle_event`: a ticket that is not claimed; a second one of a stack is refused. -/
def StackTables.handleStackTrySettleEvent (s : StackTables) (stackSmallId : Int64) : StackTables :=
  match s.catalog.ticketIsClaimed.insertRow stackSmallId (.ok false) with
  | .ok ticketIsClaimed => { s with catalog.ticketIsClaimed := ticketIsClaimed }
  | .error _ => s

/-- The stack that a request reserved on. -/
def StackTables.reservedBy (s : StackTables) (units : Int64) (request : StackRequest) : Option Int64 :=
  match s.reserve units request with
  | .ok (.some (id, _), _) => .some id
  | _ => .none

def lifecycleStep (s : LifecycleState) : LifecycleEvent → LifecycleState
  | .stackTrySettle id =>
    { s with
      ledger.tables := s.ledger.tables.handleStackTrySettleEvent id
      settling := id :: s.settling }
  | .stack ev =>
    let s' := { s with ledger := stackStep s.ledger ev }
    match ev with
    | .lockStack id => { s' with locked := id :: s.locked }
    | .updateStackClaimed id => { s' with claimed := id :: s.claimed }
    | .reserve request units =>
      { s' with reservedAgain :=
          (s.ledger.tables.reservedBy units.toInt64 request).toList.filter (s.Ended ·) ++ s.reservedAgain }
    | _ => s'

def lifecycleMachine : Machine LifecycleState LifecycleEvent where
  step s ev := .some (lifecycleStep s ev)

def LifecycleState.empty (c : Catalog) : LifecycleState := ⟨StackState.empty c, [], [], [], []⟩

/-- Of a stack that ended, the request asks for the flags and the stack was locked or claimed, or it does not admit
the row anyway. -/
def LifecycleState.Spares (s : LifecycleState) (units : Int64) (r : StackRequest) : Prop :=
  ∀ id row, r.target = .some id → s.ledger.tables.rows id = .some row → s.Ended id →
    r.asksForFlags = true ∧ (id ∈ s.locked ∨ id ∈ s.claimed) ∨ ¬ r.Admits s.ledger.tables.catalog units id row

/-- The requests spare the stacks that ended, and no stack ended before its row was inserted. -/
def LifecycleEvent.Heeds (s : LifecycleState) : LifecycleEvent → Prop
  | .stack (.reserve request units) => s.Spares units.toInt64 request
  | .stack (.newStackAcquired event _ _) => ¬ s.Ended event.stackSmallId.toInt64
  | _ => True

/-- The invariant: a row has the flags of what was handled of its stack. -/
structure LifecycleState.Flagged (s : LifecycleState) : Prop where
  check : ∀ {id row}, s.ledger.tables.rows id = .some row → row.check = .ok row
  inSettlePeriod : ∀ {id row}, s.ledger.tables.rows id = .some row → row.inSettlePeriod = false
  locked : ∀ {id row}, s.ledger.tables.rows id = .some row → id ∈ s.locked → row.isLocked = true
  claimed : ∀ {id row}, s.ledger.tables.rows id = .some row → id ∈ s.claimed → row.isClaimed = true
  reservedAgain : s.reservedAgain = []

theorem LifecycleState.flagged_empty (c : Catalog) : (LifecycleState.empty c).Flagged :=
  ⟨(nomatch ·), (nomatch ·), (nomatch ·), (nomatch ·), rfl⟩

/-- A request reserves on no stack that ended exactly if it spares them. -/
theorem LifecycleState.Flagged.spares_iff {s : LifecycleState} (h : s.Flagged) {units : Int64} {r : StackRequest} :
    (∀ id, (∃ row' s', s.ledger.tables.reserve units r = .ok (.some (id, row'), s')) → ¬ s.Ended id) ↔
      s.Spares units r := by
  constructor
  · intro hnever id row htarget hrow hended
    by_cases hadmits : r.Admits s.ledger.tables.catalog units id row
    · exact absurd hended (hnever id (StackTables.reserve_some_iff.2 ⟨htarget, row, hrow, hadmits⟩))
    · exact .inr hadmits
  · intro hspares id hreserved hended
    obtain ⟨htarget, row, hrow, hadmits⟩ := StackTables.reserve_some_iff.1 hreserved
    rcases hspares id row htarget hrow hended with ⟨hasks, hmarked⟩ | hnot
    · exact StackRequest.not_admits hasks (hmarked.imp (h.locked hrow) (h.claimed hrow)) hadmits
    · exact hnot hadmits

/-- An event of the stacks, before it is noted which stack it ended. -/
theorem LifecycleState.Flagged.stackStep {s : LifecycleState} (h : s.Flagged) (ev : StackEvent)
    (hnew : ∀ event units userId, ev = .newStackAcquired event units userId →
      ¬ s.Ended event.stackSmallId.toInt64) : Flagged { s with ledger := stackStep s.ledger ev } where
  check := by
    intro id row' hrow'
    rcases stackStep_row (fun _ => h.check) hrow' with ⟨row, hrow, hk⟩ | ⟨_, _, hcheck, _⟩
    · exact hk.check (h.check hrow)
    · exact hcheck
  inSettlePeriod := by
    intro id row' hrow'
    rcases stackStep_row (fun _ => h.check) hrow' with ⟨row, hrow, hk⟩ | ⟨_, hsettle, _⟩
    · rw [hk.inSettlePeriod, h.inSettlePeriod hrow]
    · exact hsettle
  locked := by
    intro id row' hrow' hlocked
    rcases stackStep_row (fun _ => h.check) hrow' with ⟨row, hrow, hk⟩ | ⟨_, _, _, event, units, userId, rfl, rfl⟩
    · exact hk.locked (h.locked hrow hlocked)
    · exact absurd (.inl hlocked) (hnew event units userId rfl)
  claimed := by
    intro id row' hrow' hclaimed
    rcases stackStep_row (fun _ => h.check) hrow' with ⟨row, hrow, hk⟩ | ⟨_, _, _, event, units, userId, rfl, rfl⟩
    · exact hk.claimed (h.claimed hrow hclaimed)
    · exact absurd (.inr (.inr hclaimed)) (hnew event units userId rfl)
  reservedAgain := h.reservedAgain

/-- The row of a stack that was locked or claimed has the flags. -/
theorem LifecycleState.Flagged.after_setFlags {s : LifecycleState} (h : s.Flagged) {id : Int64} {claim : Bool}
    {row : Stack} (hrow : s.ledger.tables.rows.after id (Stack.setFlags claim) id = .some row) :
    row.isLocked = true ∧ (claim = true → row.isClaimed = true) := by
  rw [Table.after_apply, if_pos rfl] at hrow
  obtain ⟨row₀, hrow₀, rfl⟩ := Option.map_eq_some_iff.1 hrow
  rw [Stack.setFlags_of_check (h.check hrow₀)]
  exact ⟨rfl, fun hc => by rw [hc, Bool.or_true]⟩

/-- **One event keeps it.** -/
theorem LifecycleState.Flagged.step {s s' : LifecycleState} {ev : LifecycleEvent} (h : s.Flagged) (hc : ev.Heeds s)
    (hstep : lifecycleMachine.step s ev = .some s') : s'.Flagged := by
  simp only [lifecycleMachine, Option.some.injEq] at hstep
  subst hstep
  cases ev with
  | stackTrySettle id =>
    have hrows : (s.ledger.tables.handleStackTrySettleEvent id).rows = s.ledger.tables.rows := by
      unfold StackTables.handleStackTrySettleEvent
      split <;> rfl
    simp only [lifecycleStep]
    refine ⟨?_, ?_, ?_, ?_, h.reservedAgain⟩ <;> dsimp only <;> rw [hrows]
    · exact h.check
    · exact h.inSettlePeriod
    · exact h.locked
    · exact h.claimed
  | stack ev =>
    cases ev with
    | reserve request units =>
      have hs := h.stackStep (.reserve request units) fun _ _ _ => (nomatch ·)
      refine ⟨hs.check, hs.inSettlePeriod, hs.locked, hs.claimed, ?_⟩
      -- what the request reserved on had not ended
      simp only [lifecycleStep, h.reservedAgain, List.append_nil, List.filter_eq_nil_iff, Option.mem_toList]
      intro id hid hended
      refine h.spares_iff.2 hc id ?_ (of_decide_eq_true hended)
      unfold StackTables.reservedBy at hid
      split at hid
      · next hres =>
        cases hid
        exact ⟨_, _, hres⟩
      · cases hid
    | newStackAcquired event units userId =>
      exact h.stackStep _ fun event' _ _ heq => by
        cases heq
        exact hc
    | updateStackNumTokens id units totalTokens => exact h.stackStep _ fun _ _ _ => (nomatch ·)
    | catalogChange catalog => exact h.stackStep _ fun _ _ _ => (nomatch ·)
    | lockStack id =>
      have hs := h.stackStep (.lockStack id) fun _ _ _ => (nomatch ·)
      refine ⟨hs.check, hs.inSettlePeriod, fun {k row} hrow hk => ?_, hs.claimed, hs.reservedAgain⟩
      rcases List.mem_cons.1 hk with rfl | hk
      · exact (h.after_setFlags hrow).1
      · exact hs.locked hrow hk
    | updateStackClaimed id =>
      have hs := h.stackStep (.updateStackClaimed id) fun _ _ _ => (nomatch ·)
      refine ⟨hs.check, hs.inSettlePeriod, hs.locked, fun {k row} hrow hk => ?_, hs.reservedAgain⟩
      rcases List.mem_cons.1 hk with rfl | hk
      · exact (h.after_setFlags hrow).2 rfl
      · exact hs.claimed hrow hk

/-- A stack of 1000 units that is locked and asked for again by its model. -/
def lifecycleExampleRun : List LifecycleEvent :=
  [.stack (.newStackAcquired stackCreatedExample 200 9), .stack (.lockStack 1),
    .stack (.reserve (.selectNodePublicKeyForEncryption (.some 1) "model" 9) 100)]

end AtomaProxy
