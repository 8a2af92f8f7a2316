/-
`stats_stacks`: the compute units of the stacks created and settled, hour by
hour, against the events that were handled.

The table takes whole hours only. A settlement ticket's statistics are
written with the time cut to its hour, in one transaction with the ticket; a
created stack's are written with the time as it is, and the table refuses
them, but in the first microsecond of an hour.
-/
import AtomaProxy.Base.Machine
import AtomaProxy.Base.TableTotals
import AtomaProxy.State.SettlementTickets
import AtomaProxy.State.Stacks

namespace AtomaProxy

open Base

/-! ## Times, in nanoseconds -/

def nanosPerHour : Nat := 3600000000000

def microsPerHour : Nat := 3600000000

/-- `t.with_second(0)`. -/
def withSecondZero (t : Nat) : Nat := t - t / 1000000000 % 60 * 1000000000

/-- `t.with_minute(0)`. -/
def withMinuteZero (t : Nat) : Nat := t - t / 60000000000 % 60 * 60000000000

/-- `t.with_nanosecond(0)`. -/
def withNanosecondZero (t : Nat) : Nat := t - t % 1000000000

/-- The `TIMESTAMPTZ` a time is bound as: microseconds. -/
def timestamptz (t : Nat) : Nat := t / 1000

def hourOf (t : Nat) : Nat := t / nanosPerHour

theorem timestamptz_truncated (t : Nat) :
    timestamptz (withNanosecondZero (withMinuteZero (withSecondZero t))) = hourOf t * microsPerHour := by
  unfold timestamptz withNanosecondZero withMinuteZero withSecondZero hourOf microsPerHour nanosPerHour
  omega

/-! ## The table -/

/-- A row of `stats_stacks`, under its `timestamp`. -/
structure StatsStack where
  numComputeUnits : Int64
  settledNumComputeUnits : Int64
  deriving DecidableEq, Repr

abbrev StatsStacks := Table Nat StatsStack

/-- `CHECK (date_part('minute', …) = 0 AND date_part('second', …) = 0 AND date_part('milliseconds', …) = 0)`. The
seconds and the milliseconds come with their fractions. -/
def checkWholeHour (timestamp : Nat) : Except SqlError Unit :=
  if timestamp / 60000000 % 60 = 0 ∧ timestamp % 60000000 = 0 ∧ timestamp % 60000000 = 0 then .ok ()
  else .error .checkViolation

/-- The upsert of both statements, of columns to add: a column that is not named is added nothing to. -/
def StatsStacks.add (t : StatsStacks) (timestamp : Nat) (units : StatsStack) : Except SqlError StatsStacks := do
  checkWholeHour timestamp
  t.upsertRow timestamp units fun old => do
    .ok ⟨← bigintAdd old.numComputeUnits units.numComputeUnits,
      ← bigintAdd old.settledNumComputeUnits units.settledNumComputeUnits⟩

/-- `new_stats_stack`, called at a time of the clock. -/
def StatsStacks.newStatsStack (t : StatsStacks) (now : Nat) (stack : Stack) :
    Except AtomaStateManagerError StatsStacks := query (t.add (timestamptz now) ⟨stack.numComputeUnits, 0⟩)

/-- `handle_create_stack_stats`: the stack has no user yet. -/
def StatsStacks.handleCreateStackStats (t : StatsStacks) (now : Nat) (event : StackCreatedEvent) :
    Except AtomaStateManagerError StatsStacks := t.newStatsStack now (event.toStack 0)

/-- The tables of the two handlers. -/
structure StatsTables where
  tickets : Tickets
  stats : StatsStacks

/-- `insert_new_stack_settlement_ticket`: one transaction. -/
def StatsTables.insertNewStackSettlementTicket (s : StatsTables) (now : Nat) (stackSmallId : Int64)
    (ticket : StackSettlementTicket) : Except AtomaStateManagerError StatsTables := do
  let tickets ← s.tickets.insertNewStackSettlementTicket stackSmallId ticket
  let timestamp := withNanosecondZero (withMinuteZero (withSecondZero now))
  let stats ← query (s.stats.add (timestamptz timestamp) ⟨0, ticket.numClaimedComputeUnits⟩)
  .ok ⟨tickets, stats⟩

/-- `handle_stack_try_settle_event`. -/
def StatsTables.handleStackTrySettleEvent (s : StatsTables) (now : Nat) (event : StackTrySettleEvent) :
    Except AtomaStateManagerError StatsTables :=
  s.insertNewStackSettlementTicket now event.stackSmallId.toInt64 event.toTicket

/-! ## Runs -/

/-- The compute units of an event, and when it was handled. -/
structure UnitsAt where
  now : Nat
  units : UInt64
  deriving DecidableEq, Repr

/-- The tables, the events handled of the two kinds, and those of the first whose update failed. -/
structure StatsState where
  tables : StatsTables
  created : List UnitsAt
  settled : List UnitsAt
  refused : List UnitsAt

def StatsState.start (tickets : Tickets) : StatsState := ⟨⟨tickets, fun _ => .none⟩, [], [], []⟩

/-- An event, at a time of the clock. A statement that the database does not answer `fails`. -/
inductive StatsEvent where
  | stackCreated (now : Nat) (event : StackCreatedEvent) (fails : Bool)
  | stackTrySettle (now : Nat) (event : StackTrySettleEvent) (fails : Bool)

def statsStep (s : StatsState) : StatsEvent → StatsState
  | .stackCreated now event fails =>
    let handled : UnitsAt := ⟨now, event.numComputeUnits⟩
    match answered fails (s.tables.stats.handleCreateStackStats now event) with
    | .ok stats => { s with tables.stats := stats, created := handled :: s.created }
    | .error _ => { s with created := handled :: s.created, refused := handled :: s.refused }
  | .stackTrySettle now event fails =>
    let handled : UnitsAt := ⟨now, event.numClaimedComputeUnits⟩
    match answered fails (s.tables.handleStackTrySettleEvent now event) with
    | .ok tables => { s with tables, settled := handled :: s.settled }
    | .error _ => { s with settled := handled :: s.settled }

def statsMachine : Machine StatsState StatsEvent where
  step s ev := .some (statsStep s ev)

/-- The units of the events of an hour. -/
def unitsIn (hour : Nat) (events : List UnitsAt) : Int :=
  ((events.filter fun e => hourOf e.now = hour).map fun e => (e.units.toNat : Int)).sum

/-- What a column holds for an hour, nothing where it has no row. -/
def StatsStacks.held (t : StatsStacks) (column : StatsStack → Int64) (hour : Nat) : Int :=
  Table.measured (fun _ row => (column row).toInt) t (hour * microsPerHour)

/-- The table is what the events handled add up to. -/
structure StatsState.Reconciled (s : StatsState) : Prop where
  succeeded : s.refused = []
  wholeHours : ∀ timestamp row, s.tables.stats timestamp = .some row → ∃ hour, timestamp = hour * microsPerHour
  created : ∀ hour, s.tables.stats.held StatsStack.numComputeUnits hour = unitsIn hour s.created
  settled : ∀ hour, s.tables.stats.held StatsStack.settledNumComputeUnits hour = unitsIn hour s.settled

/-- The condition: a created event is handled in the first microsecond of an hour, and its units are an `i64` that
the hour's row has room for; a settled one claims nothing, or what an `integer` holds, of a stack without a ticket
and by a node whose id an `integer` holds, and the row has room; and the statements are answered. -/
def StatsEvent.Counts (s : StatsState) : StatsEvent → Prop
  | .stackCreated now event fails => fails = false ∧ timestamptz now = hourOf now * microsPerHour ∧
      event.numComputeUnits.toNat < 2 ^ 63 ∧
      s.tables.stats.held StatsStack.numComputeUnits (hourOf now) + event.numComputeUnits.toNat < 2 ^ 63
  | .stackTrySettle now event fails => event.numClaimedComputeUnits = 0 ∨
      (fails = false ∧ s.tables.tickets event.stackSmallId.toInt64 = .none ∧
        (-2147483648 ≤ event.selectedNodeId.toInt64.toInt ∧ event.selectedNodeId.toInt64.toInt < 2147483648) ∧
        event.numClaimedComputeUnits.toNat < 2147483648 ∧
        s.tables.stats.held StatsStack.settledNumComputeUnits (hourOf now) + event.numClaimedComputeUnits.toNat < 2 ^ 63)

/-! ## What the statements do -/

theorem checkWholeHour_ok {timestamp : Nat} :
    checkWholeHour timestamp = .ok () ↔ ∃ hour, timestamp = hour * microsPerHour := by
  unfold checkWholeHour microsPerHour
  split
  · next h => exact iff_of_true rfl ⟨timestamp / 3600000000, by omega⟩
  · next h =>
    refine iff_of_false (by rintro ⟨⟩) ?_
    rintro ⟨hour, rfl⟩
    exact h (by omega)

/-- Whole hours are the first microseconds of their hours. -/
theorem hour_of_timestamptz {now hour : Nat} (h : timestamptz now = hour * microsPerHour) : hour = hourOf now := by
  unfold timestamptz microsPerHour at h
  unfold hourOf nanosPerHour
  omega

theorem hour_injective {hour hour' : Nat} : hour * microsPerHour = hour' * microsPerHour ↔ hour = hour' := by
  unfold microsPerHour
  omega

namespace StatsStacks

variable {t t' : StatsStacks} {hour : Nat}

theorem held_update (row : StatsStack) (column : StatsStack → Int64) (hour' : Nat) :
    held (Function.update t (hour * microsPerHour) (.some row)) column hour' =
      if hour' = hour then (column row).toInt else t.held column hour' := by
  unfold held Table.measured
  rw [Function.update_apply]
  simp only [hour_injective]
  split <;> rfl

/-- An hour's row adds up. -/
theorem add_ok {units : StatsStack} : t.add (hour * microsPerHour) units = .ok t' ↔ ∃ row : StatsStack,
    row.numComputeUnits.toInt = t.held StatsStack.numComputeUnits hour + units.numComputeUnits.toInt ∧
      row.settledNumComputeUnits.toInt =
        t.held StatsStack.settledNumComputeUnits hour + units.settledNumComputeUnits.toInt ∧
      t' = Function.update t (hour * microsPerHour) (.some row) := by
  unfold add held
  rw [checkWholeHour_ok.2 ⟨hour, rfl⟩]
  show t.upsertRow _ _ _ = .ok t' ↔ _
  rw [Table.upsertRow_ok]
  simp only [ok_bind_iff, bigintAdd_eq_ok, Except.ok.injEq]
  cases hrow : t (hour * microsPerHour) with
  | none =>
    rw [Table.measured_none hrow, Table.measured_none hrow, zero_add, zero_add]
    constructor
    · rintro ⟨row, ⟨_, rfl⟩ | ⟨_, hold, _⟩, rfl⟩
      · exact ⟨_, rfl, rfl, rfl⟩
      · cases hold
    · rintro ⟨⟨num, settled⟩, hnum, hsettled, rfl⟩
      cases Int64.toInt_inj.1 hnum
      cases Int64.toInt_inj.1 hsettled
      exact ⟨_, .inl ⟨rfl, rfl⟩, rfl⟩
  | some old =>
    rw [Table.measured_some hrow, Table.measured_some hrow]
    constructor
    · rintro ⟨row, ⟨hnone, _⟩ | ⟨_, hold, num, hnum, settled, hsettled, rfl⟩, rfl⟩
      · cases hnone
      · cases hold
        exact ⟨_, hnum, hsettled, rfl⟩
    · rintro ⟨⟨num, settled⟩, hnum, hsettled, rfl⟩
      exact ⟨_, .inr ⟨old, rfl, num, hnum, settled, hsettled, rfl⟩, rfl⟩

/-- Only whole hours are added to. -/
theorem hour_of_add {timestamp : Nat} {units : StatsStack} (h : t.add timestamp units = .ok t') :
    ∃ hour, timestamp = hour * microsPerHour := by
  obtain ⟨_, hcheck, _⟩ := ok_bind_iff.1 h
  exact checkWholeHour_ok.1 hcheck

/-- The row's room is what decides, where only one column is added to. -/
theorem exists_add {units : StatsStack}
    (hnum : InI64 (t.held StatsStack.numComputeUnits hour + units.numComputeUnits.toInt))
    (hsettled : InI64 (t.held StatsStack.settledNumComputeUnits hour + units.settledNumComputeUnits.toInt)) :
    ∃ t', t.add (hour * microsPerHour) units = .ok t' :=
  ⟨_, add_ok.2 ⟨⟨.ofInt _, .ofInt _⟩, toInt_ofInt hnum, toInt_ofInt hsettled, rfl⟩⟩

theorem inI64_held (t : StatsStacks) (column : StatsStack → Int64) (hour : Nat) : InI64 (t.held column hour) := by
  unfold held
  cases hrow : t (hour * microsPerHour) with
  | none =>
    rw [Table.measured_none hrow]
    exact inI64_toInt 0
  | some row =>
    rw [Table.measured_some hrow]
    exact inI64_toInt _

end StatsStacks

theorem unitsIn_cons (hour : Nat) (e : UnitsAt) (events : List UnitsAt) :
    unitsIn hour (e :: events) = unitsIn hour events + if hour = hourOf e.now then (e.units.toNat : Int) else 0 := by
  unfold unitsIn
  rw [List.filter_cons]
  by_cases h : hourOf e.now = hour
  · rw [if_pos (decide_eq_true h), if_pos h.symm, List.map_cons, List.sum_cons, add_comm]
  · rw [if_neg (fun hd => h (of_decide_eq_true hd)), if_neg (fun heq => h heq.symm), add_zero]

theorem unitsIn_nonneg (hour : Nat) (events : List UnitsAt) : 0 ≤ unitsIn hour events := by
  refine List.sum_nonneg fun x hx => ?_
  obtain ⟨e, _, rfl⟩ := List.mem_map.1 hx
  exact Int.natCast_nonneg _

/-- An event that adds nothing to a column. -/
theorem unitsIn_add_zero (hour hour' : Nat) (events : List UnitsAt) :
    unitsIn hour' events = unitsIn hour' events + if hour' = hour then 0 else 0 := by
  rw [ite_self, add_zero]

/-! ## One event -/

namespace StatsState.Reconciled

variable {s : StatsState}

/-- A row that is added to keeps the agreement exactly if the events add the same. -/
theorem add_iff (h : s.Reconciled) {hour : Nat} {row : StatsStack} {num settled : Int} {tickets : Tickets}
    {created' settled' : List UnitsAt}
    (hnum : row.numComputeUnits.toInt = s.tables.stats.held StatsStack.numComputeUnits hour + num)
    (hsettled : row.settledNumComputeUnits.toInt =
      s.tables.stats.held StatsStack.settledNumComputeUnits hour + settled) :
    (StatsState.mk ⟨tickets, Function.update s.tables.stats (hour * microsPerHour) (.some row)⟩ created' settled'
        s.refused).Reconciled ↔
      (∀ hour', unitsIn hour' created' = unitsIn hour' s.created + if hour' = hour then num else 0) ∧
        ∀ hour', unitsIn hour' settled' = unitsIn hour' s.settled + if hour' = hour then settled else 0 := by
  have hheld : ∀ (column : StatsStack → Int64) (events : List UnitsAt) (added : Int),
      (∀ hour', s.tables.stats.held column hour' = unitsIn hour' events) →
      (column row).toInt = s.tables.stats.held column hour + added → ∀ hour',
        StatsStacks.held (Function.update s.tables.stats (hour * microsPerHour) (.some row)) column hour' =
          unitsIn hour' events + if hour' = hour then added else 0 := by
    intro column events added hevents hadded hour'
    rw [StatsStacks.held_update]
    split
    · next heq => rw [hadded, hevents, heq]
    · rw [hevents, add_zero]
  have hnum' := hheld _ _ _ h.created hnum
  have hsettled' := hheld _ _ _ h.settled hsettled
  constructor
  · intro h'
    exact ⟨fun hour' => by rw [← h'.created hour', hnum'], fun hour' => by rw [← h'.settled hour', hsettled']⟩
  · rintro ⟨hcreated, hsettled⟩
    refine ⟨h.succeeded, fun timestamp row' hrow => ?_, fun hour' => ?_, fun hour' => ?_⟩
    · dsimp only at hrow
      rw [Function.update_apply] at hrow
      split at hrow
      · next heq => exact ⟨hour, heq⟩
      · exact h.wholeHours timestamp row' hrow
    · rw [hcreated hour', ← hnum' hour']
    · rw [hsettled hour', ← hsettled' hour']

theorem held_nonneg (h : s.Reconciled) (hour : Nat) : 0 ≤ s.tables.stats.held StatsStack.numComputeUnits hour ∧
    0 ≤ s.tables.stats.held StatsStack.settledNumComputeUnits hour := by
  rw [h.created, h.settled]
  exact ⟨unitsIn_nonneg hour _, unitsIn_nonneg hour _⟩

/-- Where the hour's row has room, a stack created in its first microsecond is counted. -/
theorem created_answered (h : s.Reconciled) {now : Nat} {event : StackCreatedEvent}
    (htime : timestamptz now = hourOf now * microsPerHour) (hlt : event.numComputeUnits.toNat < 2 ^ 63)
    (hroom : s.tables.stats.held StatsStack.numComputeUnits (hourOf now) + event.numComputeUnits.toNat < 2 ^ 63) :
    ∃ stats, s.tables.stats.handleCreateStackStats now event = .ok stats := by
  have hnonneg := (h.held_nonneg (hourOf now)).1
  have hnum : InI64 (s.tables.stats.held StatsStack.numComputeUnits (hourOf now) +
      event.numComputeUnits.toInt64.toInt) := by
    rw [toInt_toInt64 hlt]
    exact ⟨by omega, hroom⟩
  have hsettled := StatsStacks.inI64_held s.tables.stats StatsStack.settledNumComputeUnits (hourOf now)
  obtain ⟨stats, hadd⟩ := @StatsStacks.exists_add _ (hourOf now) ⟨event.numComputeUnits.toInt64, 0⟩ hnum
    ((add_zero (s.tables.stats.held StatsStack.settledNumComputeUnits (hourOf now))).symm ▸ hsettled)
  refine ⟨stats, query_eq_ok.2 ?_⟩
  rw [htime]
  exact hadd

theorem created_iff (h : s.Reconciled) (now : Nat) (event : StackCreatedEvent) (fails : Bool) :
    (statsStep s (.stackCreated now event fails)).Reconciled ↔
      StatsEvent.Counts s (.stackCreated now event fails) := by
  unfold statsStep
  dsimp only
  cases hresult : answered fails (s.tables.stats.handleCreateStackStats now event) with
  | ok stats =>
    obtain ⟨rfl, hquery⟩ := answered_eq_ok.1 hresult
    have hadd : s.tables.stats.add (timestamptz now) ⟨event.numComputeUnits.toInt64, 0⟩ = .ok stats :=
      query_eq_ok.1 hquery
    obtain ⟨hour, htime⟩ := StatsStacks.hour_of_add hadd
    cases hour_of_timestamptz htime
    rw [htime] at hadd
    obtain ⟨row, hnum, hsettled, rfl⟩ := StatsStacks.add_ok.1 hadd
    refine (h.add_iff hnum hsettled).trans ?_
    constructor
    · rintro ⟨hcreated, _⟩
      have hunits := hcreated (hourOf now)
      rw [unitsIn_cons, if_pos rfl, if_pos rfl, add_right_inj] at hunits
      have hlt := toInt_toInt64_nonneg.1 (hunits ▸ Int.natCast_nonneg _)
      refine ⟨rfl, htime, hlt, ?_⟩
      rw [hunits]
      exact hnum ▸ (inI64_toInt row.numComputeUnits).2
    · rintro ⟨_, _, hlt, _⟩
      constructor
      · intro hour'
        rw [unitsIn_cons, toInt_toInt64 hlt]
      · intro hour'
        exact unitsIn_add_zero _ hour' s.settled
  | error e =>
    constructor
    · intro h'
      cases h'.succeeded
    · rintro ⟨rfl, htime, hlt, hroom⟩
      obtain ⟨stats, hok⟩ := h.created_answered htime hlt hroom
      rw [answered_eq_ok.2 ⟨rfl, hok⟩] at hresult
      cases hresult

/-- When a settlement ticket is stored, with its statistics. -/
theorem handleStackTrySettleEvent_ok {tables : StatsTables} {now : Nat} {event : StackTrySettleEvent} :
    s.tables.handleStackTrySettleEvent now event = .ok tables ↔
      (s.tables.tickets event.stackSmallId.toInt64 = .none ∧
        (-2147483648 ≤ event.selectedNodeId.toInt64.toInt ∧ event.selectedNodeId.toInt64.toInt < 2147483648) ∧
        (-2147483648 ≤ event.numClaimedComputeUnits.toInt64.toInt ∧
          event.numClaimedComputeUnits.toInt64.toInt < 2147483648) ∧
        tables.tickets = Function.update s.tables.tickets event.stackSmallId.toInt64 (.some event.toTicket)) ∧
      s.tables.stats.add (hourOf now * microsPerHour) ⟨0, event.numClaimedComputeUnits.toInt64⟩ = .ok tables.stats := by
  obtain ⟨tickets', stats'⟩ := tables
  simp only [StatsTables.handleStackTrySettleEvent, StatsTables.insertNewStackSettlementTicket,
    Tickets.insertNewStackSettlementTicket, ok_bind_iff, query_eq_ok, Table.insertRow_ok,
    StackSettlementTicket.columns_ok, timestamptz_truncated, Except.ok.injEq, StatsTables.mk.injEq]
  constructor
  · rintro ⟨_, ⟨_, ⟨hnode, hclaimed, _, rfl⟩, hnone, rfl⟩, _, hadd, rfl, rfl⟩
    exact ⟨⟨hnone, hnode, hclaimed, rfl⟩, hadd⟩
  · rintro ⟨⟨hnone, hnode, hclaimed, rfl⟩, hadd⟩
    have hrefund : -2147483648 ≤ (0 : Int64).toInt ∧ (0 : Int64).toInt < 2147483648 := ⟨by decide, by decide⟩
    exact ⟨_, ⟨_, ⟨hnode, hclaimed, hrefund, rfl⟩, hnone, rfl⟩, _, hadd, rfl, rfl⟩

/-- Where the hour's row has room, a settlement that fits the ticket's columns is counted with its ticket. -/
theorem settled_answered (h : s.Reconciled) {now : Nat} {event : StackTrySettleEvent}
    (hnone : s.tables.tickets event.stackSmallId.toInt64 = .none)
    (hnode : -2147483648 ≤ event.selectedNodeId.toInt64.toInt ∧ event.selectedNodeId.toInt64.toInt < 2147483648)
    (hlt : event.numClaimedComputeUnits.toNat < 2147483648)
    (hroom : s.tables.stats.held StatsStack.settledNumComputeUnits (hourOf now) +
      event.numClaimedComputeUnits.toNat < 2 ^ 63) :
    ∃ tables, s.tables.handleStackTrySettleEvent now event = .ok tables := by
  have hcast : event.numClaimedComputeUnits.toInt64.toInt = event.numClaimedComputeUnits.toNat :=
    toInt_toInt64 (by omega)
  have hnonneg := (h.held_nonneg (hourOf now)).2
  have hnum := StatsStacks.inI64_held s.tables.stats StatsStack.numComputeUnits (hourOf now)
  have hsettled : InI64 (s.tables.stats.held StatsStack.settledNumComputeUnits (hourOf now) +
      event.numClaimedComputeUnits.toInt64.toInt) := by
    rw [hcast]
    exact ⟨by omega, hroom⟩
  obtain ⟨stats, hadd⟩ := @StatsStacks.exists_add _ (hourOf now) ⟨0, event.numClaimedComputeUnits.toInt64⟩
    ((add_zero (s.tables.stats.held StatsStack.numComputeUnits (hourOf now))).symm ▸ hnum) hsettled
  refine ⟨⟨Function.update s.tables.tickets event.stackSmallId.toInt64 (.some event.toTicket), stats⟩,
    handleStackTrySettleEvent_ok.2 ⟨⟨hnone, hnode, ?_, rfl⟩, hadd⟩⟩
  rw [hcast]
  omega

/-- A settlement that is not counted makes no difference exactly if it claims nothing. -/
theorem uncounted_iff (h : s.Reconciled) (e : UnitsAt) :
    (StatsState.mk s.tables s.created (e :: s.settled) s.refused).Reconciled ↔ e.units = 0 := by
  constructor
  · intro h'
    have hsum := h'.settled (hourOf e.now)
    rw [h.settled (hourOf e.now), unitsIn_cons, if_pos rfl, left_eq_add, Int.natCast_eq_zero] at hsum
    exact UInt64.toNat_inj.1 hsum
  · intro hzero
    refine ⟨h.succeeded, h.wholeHours, h.created, fun hour => ?_⟩
    rw [unitsIn_cons, hzero, h.settled hour]
    exact unitsIn_add_zero _ hour s.settled

theorem settled_iff (h : s.Reconciled) (now : Nat) (event : StackTrySettleEvent) (fails : Bool) :
    (statsStep s (.stackTrySettle now event fails)).Reconciled ↔
      StatsEvent.Counts s (.stackTrySettle now event fails) := by
  unfold statsStep
  dsimp only
  cases hresult : answered fails (s.tables.handleStackTrySettleEvent now event) with
  | ok tables =>
    obtain ⟨rfl, hhandled⟩ := answered_eq_ok.1 hresult
    obtain ⟨⟨hnone, hnode, hclaimed, htickets⟩, hadd⟩ := handleStackTrySettleEvent_ok.1 hhandled
    obtain ⟨row, hnum, hsettled, hstats⟩ := StatsStacks.add_ok.1 hadd
    obtain ⟨tickets', stats'⟩ := tables
    cases hstats
    refine (h.add_iff hnum hsettled).trans ?_
    constructor
    · rintro ⟨_, hsum⟩
      have hunits := hsum (hourOf now)
      rw [unitsIn_cons, if_pos rfl, if_pos rfl, add_right_inj] at hunits
      dsimp only at hunits hsettled
      refine .inr ⟨rfl, hnone, hnode, by omega, ?_⟩
      rw [hunits, ← hsettled]
      exact (inI64_toInt row.settledNumComputeUnits).2
    · intro hcounts
      have hlt : event.numClaimedComputeUnits.toNat < 2 ^ 63 := by
        rcases hcounts with hzero | ⟨_, _, _, hlt, _⟩
        · rw [hzero]
          decide
        · omega
      constructor
      · intro hour'
        exact unitsIn_add_zero _ hour' s.created
      · intro hour'
        rw [unitsIn_cons, toInt_toInt64 hlt]
  | error e =>
    refine (h.uncounted_iff ⟨now, event.numClaimedComputeUnits⟩).trans ⟨.inl, ?_⟩
    rintro (hzero | ⟨rfl, hnone, hnode, hlt, hroom⟩)
    · exact hzero
    · obtain ⟨tables, hok⟩ := h.settled_answered hnone hnode hlt hroom
      rw [answered_eq_ok.2 ⟨rfl, hok⟩] at hresult
      cases hresult

end StatsState.Reconciled

/-- **Main result.** From an empty table, the statistics are what the events handled add up to in every state of a
run exactly if each event of it meets the condition. -/
theorem stack_stats_reconcile_iff {tickets : Tickets} {evs : List StatsEvent} {s' : StatsState}
    (hrun : statsMachine.run (.start tickets) evs = .some s') :
    statsMachine.Always StatsState.Reconciled (.start tickets) evs ↔
      statsMachine.Guarded (fun s ev => ev.Counts s) (.start tickets) evs := by
  have hstart : (StatsState.start tickets).Reconciled :=
    { succeeded := rfl
      wholeHours := fun _ _ hrow => by cases hrow
      created := fun _ => rfl
      settled := fun _ => rfl }
  have hstep : ∀ {s ev}, s.Reconciled → ((statsStep s ev).Reconciled ↔ ev.Counts s) := by
    intro s ev h
    cases ev with
    | stackCreated now event fails => exact h.created_iff now event fails
    | stackTrySettle now event fails => exact h.settled_iff now event fails
  refine Machine.always_iff_guarded id ?_ ?_ hstart (Machine.guarded_of_forall (fun _ _ => trivial) evs _) hrun
  · intro s ev s' h _ hs' hreconciled
    cases hs'
    exact (hstep h).1 hreconciled
  · intro s ev s' h _ hcounts hs'
    cases hs'
    exact (hstep h).2 hcounts

/-- A stack of 1000 units, created a second or nothing after the second hour began, and 300 of them settled in it. -/
def statsExample (second : Nat) : List StatsEvent :=
  [.stackCreated (2 * nanosPerHour + second * 1000000000) ⟨"owner", "0x1", 1, 5, 7, 1000, 5⟩ false,
    .stackTrySettle (2 * nanosPerHour + 90000000000) ⟨1, 7, 300, [], [], []⟩ false]

theorem stack_stats_reconcile_iff_example :
    statsMachine.Always StatsState.Reconciled (.start fun _ => .none) (statsExample 0) := by
  refine (stack_stats_reconcile_iff rfl).2 ?_
  refine (Machine.guarded_cons rfl).2 ⟨⟨rfl, by decide, by decide, by decide⟩, ?_⟩
  refine (Machine.guarded_cons rfl).2 ⟨.inr ⟨rfl, rfl, ⟨by decide, by decide⟩, by decide, ?_⟩, trivial⟩
  decide

/-- A second after the hour, the created stack's statistics are refused. -/
theorem stack_stats_reconcile_fails : ¬ ∀ (tickets : Tickets) (evs : List StatsEvent) (s' : StatsState),
    statsMachine.run (.start tickets) evs = .some s' → s'.Reconciled := by
  intro h
  have hreconciled := h (fun _ => .none) (statsExample 1) _ rfl
  exact absurd hreconciled.succeeded (by decide)

end AtomaProxy
