/-
`stats_compute_units_processed`: the compute units that the nodes processed, by
model and hour, from the events of the handlers to the report that the service
gives.

An event is added to the row of its model and its hour. The report of the last
so many hours has the rows of the hours that began in them, so the first,
broken hour is not in it.
-/
import AtomaProxy.Auth.Accounts
import AtomaProxy.Base.Aggregates
import AtomaProxy.Base.Log
import AtomaProxy.State.StackStats

namespace AtomaProxy

open Base

variable {τ : Type}

/-! ## The table -/

/-- `UpdateNodeThroughputPerformance`. A time is of any type that can be added up. -/
structure ThroughputEvent (τ : Type) where
  timestamp : Nat
  modelName : String
  inputTokens : Int64
  outputTokens : Int64
  time : τ
  deriving DecidableEq, Repr

/-- `input_tokens + output_tokens`, wrapping. -/
def ThroughputEvent.units (e : ThroughputEvent τ) : Int64 := e.inputTokens + e.outputTokens

/-- The columns that are added up. -/
structure Throughput (τ : Type) where
  amount : Int64
  requests : Int64
  time : τ
  deriving DecidableEq, Repr

/-- `ComputedUnitsProcessedResponse`. -/
structure ComputedUnitsProcessedResponse (τ : Type) where
  timestamp : Nat
  modelName : String
  amount : Int64
  requests : Int64
  time : τ
  deriving DecidableEq, Repr

/-- The rows, under their `timestamp` and `model_name`. -/
abbrev StatsComputeUnitsProcessed (τ : Type) := List ((Nat × String) × Throughput τ)

/-- The time is cut to its hour. -/
def ThroughputEvent.key (e : ThroughputEvent τ) : Nat × String :=
  (timestamptz (withNanosecondZero (withMinuteZero (withSecondZero e.timestamp))), e.modelName)

/-- The statement of `add_compute_units_processed`; `float8pl` is PostgreSQL's addition of `DOUBLE PRECISION`. -/
def throughputs (float8pl : τ → τ → Except SqlError τ) : Aggregation (ThroughputEvent τ) (Nat × String) (Throughput τ) where
  key := ThroughputEvent.key
  first e := ⟨e.units, 1, e.time⟩
  add row e := do
    .ok ⟨← bigintAdd row.amount e.units, ← bigintAdd row.requests 1, ← float8pl row.time e.time⟩

/-- `add_compute_units_processed`. -/
def StatsComputeUnitsProcessed.addComputeUnitsProcessed (float8pl : τ → τ → Except SqlError τ)
    (t : StatsComputeUnitsProcessed τ) (e : ThroughputEvent τ) :
    Except StatementError (StatsComputeUnitsProcessed τ) := do
  let _ ← textArgument e.modelName
  (do checkWholeHour e.key.1
      (throughputs float8pl).upsert t e).mapError .sql

/-! ## The report -/

inductive ReportError where
  | invalidTimestamp
  /-- "timestamp out of range", of the database -/
  | timestampOutOfRange
  | unavailable
  deriving DecidableEq, Repr

/-- `Duration::hours`, in nanoseconds: seconds whose milliseconds an `i64` holds. -/
def durationHours (hours : Int64) : Option Int :=
  let seconds := hours.toInt * 3600
  if -9223372036854775 ≤ seconds ∧ seconds ≤ 9223372036854775 then .some (seconds * 1000000000) else .none

/-- The days that a `NaiveDate` can be, from the first day of the year -262143 to the last of 262142. -/
def isNaiveDate (day : Int) : Bool := -96465293 ≤ day && day ≤ 95026236

/-- `timestamp.checked_sub_signed(Duration::hours(last_hours as i64))`, in nanoseconds; `hours` panics. -/
def startTimestamp (now : Nat) (lastHours : UInt64) : Ending ReportError Int :=
  match durationHours lastHours.toInt64 with
  | .none => .panic
  | .some duration =>
    let start := (now : Int) - duration
    if isNaiveDate (start / 86400000000000) then .ok start else .err .invalidTimestamp

/-- The first day of the year 2000, from which PostgreSQL counts, in microseconds. -/
def postgresEpoch : Int := 946684800000000

/-- A time as a `TIMESTAMPTZ` argument, in microseconds. -/
def timestamptzArgument (time : Int) : Except ReportError Int :=
  let micros := (time - postgresEpoch * 1000).tdiv 1000
  if -211813488000000000 ≤ micros ∧ micros < 9223371331200000000 then .ok (micros + postgresEpoch)
  else .error .timestampOutOfRange

/-- The order of the rows; `collate` is the order of texts. -/
def reportOrder (collate : String → String → Bool) (a b : (Nat × String) × Throughput τ) : Bool :=
  a.1.1 < b.1.1 || (a.1.1 = b.1.1 && collate a.1.2 b.1.2)

def toResponse (row : (Nat × String) × Throughput τ) : ComputedUnitsProcessedResponse τ :=
  ⟨row.1.1, row.1.2, row.2.amount, row.2.requests, row.2.time⟩

/-- The query of `get_compute_units_processed`. -/
def StatsComputeUnitsProcessed.since (collate : String → String → Bool) (t : StatsComputeUnitsProcessed τ)
    (start : Int) : List (ComputedUnitsProcessedResponse τ) :=
  ((t.filter fun row => start ≤ row.1.1).mergeSort (reportOrder collate)).map toResponse

/-- `get_compute_units_processed`, of the state manager. -/
def StatsComputeUnitsProcessed.getComputeUnitsProcessed (collate : String → String → Bool)
    (t : StatsComputeUnitsProcessed τ) (now : Nat) (lastHours : UInt64) (fails : Bool) :
    Ending ReportError (List (ComputedUnitsProcessedResponse τ)) := do
  let start ← startTimestamp now lastHours
  if fails then .err .unavailable
  else
    let argument ← .ofExcept (timestamptzArgument start)
    pure (t.since collate argument)

/-- `get_compute_units_processed`, of the service: any error is `INTERNAL_SERVER_ERROR`. -/
def getComputeUnitsProcessed (collate : String → String → Bool) (t : StatsComputeUnitsProcessed τ) (now : Nat)
    (hours : UInt64) (fails : Bool) : Ending Nat (List (ComputedUnitsProcessedResponse τ)) :=
  match t.getComputeUnitsProcessed collate now hours fails with
  | .ok rows => .ok rows
  | .err _ => .err 500
  | .panic => .panic

/-! ## The loop -/

/-- The table, and the events handled, each with the error it came to. -/
structure ThroughputServer (τ : Type) where
  rows : StatsComputeUnitsProcessed τ
  handled : List (ThroughputEvent τ × Option StatementError)
  deriving DecidableEq, Repr

def ThroughputServer.empty : ThroughputServer τ := ⟨[], []⟩

/-- An event and whether the database fails it; an error is logged. -/
def throughputMachine (float8pl : τ → τ → Except SqlError τ) :
    Machine (ThroughputServer τ) (ThroughputEvent τ × Bool) where
  step s ev :=
    match if ev.2 then .error (.sql .unavailable) else s.rows.addComputeUnitsProcessed float8pl ev.1 with
    | .ok rows => .some ⟨rows, s.handled ++ [(ev.1, .none)]⟩
    | .error err => .some ⟨s.rows, s.handled ++ [(ev.1, .some err)]⟩

/-- The events that came to no error. -/
def counted (handled : List (ThroughputEvent τ × Option StatementError)) : List (ThroughputEvent τ) :=
  handled.filterMap fun h => if h.2.isNone then .some h.1 else .none

/-- Those of an hour and a model. -/
def ofHourAndModel (timestamp : Nat) (modelName : String) (events : List (ThroughputEvent τ)) :
    List (ThroughputEvent τ) :=
  events.filter fun e => hourOf e.timestamp * microsPerHour = timestamp && e.modelName = modelName

/-- Those of the hours that begin at `start` or after it. -/
def begunSince (start : Int) (events : List (ThroughputEvent τ)) : List (ThroughputEvent τ) :=
  events.filter fun e => start ≤ (hourOf e.timestamp * microsPerHour : Nat)

/-- Times, added up one after another. -/
def AddUpTo (float8pl : τ → τ → Except SqlError τ) (times : List τ) (time : τ) : Prop :=
  ∃ first rest, times = first :: rest ∧ rest.foldlM float8pl first = .ok time

/-- A row, of the events of its hour and its model. -/
structure RowOf (float8pl : τ → τ → Except SqlError τ) (own : List (ThroughputEvent τ))
    (row : ComputedUnitsProcessedResponse τ) : Prop where
  amount : row.amount.toInt = (own.map (·.units.toInt)).sum
  requests : row.requests.toInt = own.length
  time : AddUpTo float8pl (own.map (·.time)) row.time

/-- **What a report from `start` on is of the events counted**: one row for each hour and model that has any, in order,
and of the hours that begin in time nothing left out and nothing counted twice. -/
structure ReportOf (float8pl : τ → τ → Except SqlError τ) (collate : String → String → Bool)
    (events : List (ThroughputEvent τ)) (start : Int) (rows : List (ComputedUnitsProcessedResponse τ)) : Prop where
  once : (rows.map fun row => (row.timestamp, row.modelName)).Nodup
  sorted : rows.Pairwise fun a b => a.timestamp < b.timestamp ∨
    a.timestamp = b.timestamp ∧ collate a.modelName b.modelName = true
  since : ∀ row ∈ rows, start ≤ row.timestamp
  sums : ∀ row ∈ rows, RowOf float8pl (ofHourAndModel row.timestamp row.modelName events) row
  complete : ∀ e ∈ begunSince start events,
    ∃ row ∈ rows, row.timestamp = hourOf e.timestamp * microsPerHour ∧ row.modelName = e.modelName
  amounts : (rows.map (·.amount.toInt)).sum = ((begunSince start events).map (·.units.toInt)).sum
  requests : (rows.map (·.requests.toInt)).sum = (begunSince start events).length

/-- What an event came to, of the events counted before it. -/
def AccountedAmong (float8pl : τ → τ → Except SqlError τ) (before : List (ThroughputEvent τ × Option StatementError))
    (h : ThroughputEvent τ × Option StatementError) : Prop :=
  let sum := (throughputs float8pl).total (ofHourAndModel (hourOf h.1.timestamp * microsPerHour) h.1.modelName
    (counted before) ++ [h.1])
  match h.2 with
  | .none => '\x00' ∉ h.1.modelName.toList ∧ ∃ value, sum = .ok value
  | .some .invalidText => '\x00' ∈ h.1.modelName.toList
  | .some (.sql err) => err = .unavailable ∨ sum = .error err
  | .some _ => False

/-! ## What the rows are of the events -/

section

variable {float8pl : τ → τ → Except SqlError τ} {collate : String → String → Bool}
  {events : List (ThroughputEvent τ)} {t t' : StatsComputeUnitsProcessed τ} {e : ThroughputEvent τ}

theorem ThroughputEvent.key_eq (e : ThroughputEvent τ) :
    e.key = (hourOf e.timestamp * microsPerHour, e.modelName) := by
  rw [ThroughputEvent.key, timestamptz_truncated]

theorem under_eq (timestamp : Nat) (modelName : String) (events : List (ThroughputEvent τ)) :
    (throughputs float8pl).under (timestamp, modelName) events = ofHourAndModel timestamp modelName events := by
  refine List.filter_congr fun e _ => ?_
  show decide (e.key = (timestamp, modelName)) = _
  rw [e.key_eq, Bool.eq_iff_iff]
  simp only [decide_eq_true_eq, Prod.mk.injEq, Bool.and_eq_true]

theorem AddUpTo.concat {times : List τ} {a b c : τ} (h : AddUpTo float8pl times a) (hadd : float8pl a b = .ok c) :
    AddUpTo float8pl (times ++ [b]) c := by
  obtain ⟨first, rest, rfl, hrest⟩ := h
  refine ⟨first, rest ++ [b], rfl, ?_⟩
  rw [List.foldlM_append, hrest]
  exact ok_bind_iff.2 ⟨a, rfl, ok_bind_iff.2 ⟨c, hadd, rfl⟩⟩

/-- What the statement adds up of the events. -/
theorem throughputs_total {v : Throughput τ} (h : (throughputs float8pl).total events = .ok (.some v)) :
    v.amount.toInt = (events.map (·.units.toInt)).sum ∧ v.requests.toInt = events.length ∧
      AddUpTo float8pl (events.map (·.time)) v.time := by
  induction events using List.reverseRecOn generalizing v with
  | nil => cases h
  | append_singleton events e ih =>
    obtain ⟨value, v', htotal, hadd, hv⟩ := Aggregation.total_concat_ok h
    cases hv
    rw [List.map_append, List.sum_append, List.map_append, List.length_append]
    simp only [List.map_cons, List.map_nil, List.sum_cons, List.sum_nil, add_zero]
    cases value with
    | none =>
      obtain rfl := Aggregation.eq_nil_of_total htotal
      cases hadd
      exact ⟨(zero_add _).symm, rfl, e.time, [], rfl, rfl⟩
    | some u =>
      obtain ⟨hamount, hrequests, htime⟩ := ih htotal
      obtain ⟨amount, ha, hadd⟩ := ok_bind_iff.1 hadd
      obtain ⟨requests, hr, hadd⟩ := ok_bind_iff.1 hadd
      obtain ⟨time, ht, hadd⟩ := ok_bind_iff.1 hadd
      cases hadd
      refine ⟨?_, ?_, htime.concat ht⟩
      · rw [bigintAdd_eq_ok.1 ha, hamount]
      · rw [bigintAdd_eq_ok.1 hr, hrequests]
        rfl

/-- A row of the table, of the events counted. -/
theorem rowOf_events (h : (throughputs float8pl).Sums events t) {row : (Nat × String) × Throughput τ}
    (hmem : row ∈ t) :
    RowOf float8pl (ofHourAndModel row.1.1 row.1.2 events) (toResponse row) := by
  have htotal := h.of_mem hmem
  rw [under_eq] at htotal
  obtain ⟨hamount, hrequests, htime⟩ := throughputs_total htotal
  exact ⟨hamount, hrequests, htime⟩

theorem mem_since {start : Int} {row : ComputedUnitsProcessedResponse τ} :
    row ∈ t.since collate start ↔ ∃ r ∈ t, start ≤ r.1.1 ∧ toResponse r = row := by
  simp only [StatsComputeUnitsProcessed.since, List.mem_map, List.mem_mergeSort, List.mem_filter, decide_eq_true_eq,
    and_assoc]

/-- Measured of the rows of a report as of the events of its hours, row by row. -/
theorem sum_since (h : (throughputs float8pl).Sums events t) {start : Int} (g : ComputedUnitsProcessedResponse τ → Int)
    (w : ThroughputEvent τ → Int)
    (hg : ∀ r ∈ t, g (toResponse r) = ((ofHourAndModel r.1.1 r.1.2 events).map w).sum) :
    ((t.since collate start).map g).sum = ((begunSince start events).map w).sum := by
  have hkeys : ∀ e ∈ begunSince start events, e.key ∈ (t.filter fun row => start ≤ row.1.1).map Prod.fst := by
    intro e he
    obtain ⟨he, hstart⟩ := List.mem_filter.1 he
    obtain ⟨row, hrow, hkey⟩ := h.exists_row he
    have hkey : row.1 = e.key := hkey
    refine List.mem_map.2 ⟨row, List.mem_filter.2 ⟨hrow, ?_⟩, hkey⟩
    rw [hkey, e.key_eq]
    exact hstart
  rw [← sum_under (h.keyed.filter _) w hkeys, List.map_map, StatsComputeUnitsProcessed.since, List.map_map]
  rw [((List.mergeSort_perm _ _).map _).sum_eq]
  refine congrArg List.sum (List.map_congr_left fun r hr => ?_)
  obtain ⟨hr, hstart⟩ := List.mem_filter.1 hr
  show g (toResponse r) = _
  rw [hg r hr, ← @under_eq _ float8pl, Aggregation.under, Function.comp, begunSince, List.filter_filter]
  refine congrArg (fun es => (List.map w es).sum) (List.filter_congr fun e _ => ?_)
  -- an event of the row's key has its hour begun in time, as the row has
  show decide (e.key = r.1) = (decide (e.key = r.1) && _)
  by_cases hkey : e.key = r.1
  · rw [← hkey, e.key_eq] at hstart
    rw [decide_eq_true hkey, Bool.true_and, hstart]
  · rw [decide_eq_false hkey, Bool.false_and]

/-- **A report is of the events that the rows add up.** -/
theorem reportOf_since (h : (throughputs float8pl).Sums events t)
    (htrans : ∀ a b c, collate a b = true → collate b c = true → collate a c = true)
    (htotal : ∀ a b, collate a b = true ∨ collate b a = true) (start : Int) :
    ReportOf float8pl collate events start (t.since collate start) where
  once := by
    have hkeys : ((t.since collate start).map fun row => (row.timestamp, row.modelName)) =
        ((t.filter fun row => start ≤ row.1.1).mergeSort (reportOrder collate)).map Prod.fst := by
      rw [StatsComputeUnitsProcessed.since, List.map_map]
      rfl
    rw [hkeys, ((List.mergeSort_perm _ _).map _).nodup_iff]
    exact h.keyed.filter _
  sorted := by
    have hle : ∀ a b : (Nat × String) × Throughput τ, reportOrder collate a b = true ↔
        a.1.1 < b.1.1 ∨ a.1.1 = b.1.1 ∧ collate a.1.2 b.1.2 = true := fun a b => by
      simp only [reportOrder, Bool.or_eq_true, Bool.and_eq_true, decide_eq_true_eq]
    refine List.pairwise_map.2 ((List.pairwise_mergeSort ?_ ?_ _).imp fun hab => (hle _ _).1 hab)
    · intro a b c hab hbc
      rw [hle] at hab hbc ⊢
      rcases hab with hab | ⟨hab, hnames⟩
      · exact .inl (by omega)
      · rcases hbc with hbc | ⟨hbc, hnames'⟩
        · exact .inl (by omega)
        · exact .inr ⟨hab.trans hbc, htrans _ _ _ hnames hnames'⟩
    · intro a b
      rw [Bool.or_eq_true, hle, hle]
      rcases Nat.lt_trichotomy a.1.1 b.1.1 with hlt | heq | hgt
      · exact .inl (.inl hlt)
      · exact (htotal a.1.2 b.1.2).imp (fun hn => .inr ⟨heq, hn⟩) fun hn => .inr ⟨heq.symm, hn⟩
      · exact .inr (.inl hgt)
  since row hrow := by
    obtain ⟨r, _, hstart, rfl⟩ := mem_since.1 hrow
    exact hstart
  sums row hrow := by
    obtain ⟨r, hr, _, rfl⟩ := mem_since.1 hrow
    exact rowOf_events h hr
  complete e he := by
    obtain ⟨he, hstart⟩ := List.mem_filter.1 he
    obtain ⟨r, hr, hkey⟩ := h.exists_row he
    have hkey : r.1 = (hourOf e.timestamp * microsPerHour, e.modelName) := hkey.trans e.key_eq
    refine ⟨toResponse r, mem_since.2 ⟨r, hr, ?_, rfl⟩, congrArg Prod.fst hkey, congrArg Prod.snd hkey⟩
    rw [hkey]
    exact of_decide_eq_true hstart
  amounts := sum_since h _ _ fun r hr => (rowOf_events h hr).amount
  requests := by
    rw [sum_since h _ (fun _ => 1) fun r hr => ?_]
    · simp
    · rw [(rowOf_events h hr).requests]
      simp

end

/-! ## The run -/

/-- Every event is handled and accounted for, and the rows add up those counted. -/
structure ThroughputServer.Follows (float8pl : τ → τ → Except SqlError τ) (evs : List (ThroughputEvent τ × Bool))
    (s : ThroughputServer τ) : Prop where
  handled : s.handled.map Prod.fst = evs.map Prod.fst
  sums : (throughputs float8pl).Sums (counted s.handled) s.rows
  accounted : Justified (AccountedAmong float8pl) s.handled

section

variable {float8pl : τ → τ → Except SqlError τ} {s s' : ThroughputServer τ} {t t' : StatsComputeUnitsProcessed τ}
  {events : List (ThroughputEvent τ)} {e : ThroughputEvent τ}

theorem counted_concat_none (handled : List (ThroughputEvent τ × Option StatementError)) (e : ThroughputEvent τ) :
    counted (handled ++ [(e, .none)]) = counted handled ++ [e] := by
  rw [counted, List.filterMap_append]
  rfl

theorem counted_concat_some (handled : List (ThroughputEvent τ × Option StatementError)) (e : ThroughputEvent τ)
    (err : StatementError) : counted (handled ++ [(e, .some err)]) = counted handled := by
  rw [counted, List.filterMap_append]
  exact List.append_nil _

/-- The CHECK constraint lets every event through. -/
theorem checkWholeHour_key (e : ThroughputEvent τ) : checkWholeHour e.key.1 = .ok () :=
  checkWholeHour_ok.2 ⟨hourOf e.timestamp, congrArg Prod.fst e.key_eq⟩

theorem addComputeUnitsProcessed_eq (float8pl : τ → τ → Except SqlError τ) (t : StatsComputeUnitsProcessed τ)
    (e : ThroughputEvent τ) : t.addComputeUnitsProcessed float8pl e =
      if '\x00' ∈ e.modelName.toList then .error .invalidText else ((throughputs float8pl).upsert t e).mapError .sql := by
  unfold StatsComputeUnitsProcessed.addComputeUnitsProcessed textArgument
  rw [checkWholeHour_key]
  split <;> rfl

/-- **What the table makes of an event.** -/
theorem addComputeUnitsProcessed_cases (h : (throughputs float8pl).Sums events t) (e : ThroughputEvent τ) :
    let sum := (throughputs float8pl).total
      (ofHourAndModel (hourOf e.timestamp * microsPerHour) e.modelName events ++ [e])
    match t.addComputeUnitsProcessed float8pl e with
    | .ok t' => (throughputs float8pl).Sums (events ++ [e]) t' ∧ '\x00' ∉ e.modelName.toList ∧ ∃ value, sum = .ok value
    | .error .invalidText => '\x00' ∈ e.modelName.toList
    | .error (.sql err) => sum = .error err
    | .error _ => False := by
  have hunder : (throughputs float8pl).under ((throughputs float8pl).key e) events =
      ofHourAndModel (hourOf e.timestamp * microsPerHour) e.modelName events := by
    rw [← @under_eq _ float8pl, ← e.key_eq]
    rfl
  rw [addComputeUnitsProcessed_eq]
  by_cases hnul : '\x00' ∈ e.modelName.toList
  · rw [if_pos hnul]
    exact hnul
  · rw [if_neg hnul]
    cases hupsert : (throughputs float8pl).upsert t e with
    | ok t' =>
      have hsums := h.upsert hupsert
      have htotal := hsums.total ((throughputs float8pl).key e)
      rw [Aggregation.under_concat, if_pos rfl, hunder] at htotal
      exact ⟨hsums, hnul, _, htotal⟩
    | error err =>
      have htotal := h.upsert_error.1 hupsert
      rw [hunder] at htotal
      exact htotal

theorem ThroughputServer.Follows.step {evs : List (ThroughputEvent τ × Bool)} (h : s.Follows float8pl evs)
    {ev : ThroughputEvent τ × Bool} (hstep : (throughputMachine float8pl).step s ev = .some s') :
    s'.Follows float8pl (evs ++ [ev]) := by
  obtain ⟨e, fails⟩ := ev
  have hhandled : ∀ outcome, (s.handled ++ [(e, outcome)]).map Prod.fst = (evs ++ [(e, fails)]).map Prod.fst := by
    intro outcome
    rw [List.map_append, List.map_append, h.handled]
    rfl
  have hcases := addComputeUnitsProcessed_cases h.sums e
  dsimp only [throughputMachine] at hstep
  cases fails with
  | true =>
    cases hstep
    refine ⟨hhandled _, ?_, h.accounted.concat (.inl rfl)⟩
    rw [counted_concat_some]
    exact h.sums
  | false =>
    rw [if_neg Bool.false_ne_true] at hstep
    cases hadd : s.rows.addComputeUnitsProcessed float8pl e with
    | ok rows =>
      rw [hadd] at hcases hstep
      cases hstep
      refine ⟨hhandled _, ?_, h.accounted.concat hcases.2⟩
      rw [counted_concat_none]
      exact hcases.1
    | error err =>
      rw [hadd] at hcases hstep
      cases hstep
      refine ⟨hhandled _, ?_, h.accounted.concat ?_⟩
      · rw [counted_concat_some]
        exact h.sums
      · cases err with
        | sql err => exact .inr hcases
        | invalidText => exact hcases
        | valueTooLong n => exact hcases
        | sequenceExhausted => exact hcases

theorem ThroughputServer.follows_empty : ThroughputServer.empty.Follows float8pl [] :=
  ⟨rfl, Aggregation.sums_nil, justified_nil⟩

theorem ThroughputServer.follows_run {evs : List (ThroughputEvent τ × Bool)}
    (hrun : (throughputMachine float8pl).run ThroughputServer.empty evs = .some s) : s.Follows float8pl evs :=
  Machine.run_history (R := ThroughputServer.Follows float8pl) (fun h hstep => h.step hstep)
    ThroughputServer.follows_empty hrun

end

/-! ## The report that is given -/

theorem startTimestamp_ok {now : Nat} {hours : UInt64} {start : Int} (h : startTimestamp now hours = .ok start) :
    start = now - hours.toInt64.toInt * nanosPerHour := by
  unfold startTimestamp durationHours at h
  dsimp only at h
  split at h
  · cases h
  · next duration hduration =>
    split at hduration
    · cases hduration
      split at h
      · cases h
        unfold nanosPerHour
        omega
      · cases h
    · cases hduration

theorem getComputeUnitsProcessed_ok {collate : String → String → Bool} {t : StatsComputeUnitsProcessed τ}
    {now : Nat} {hours : UInt64} {fails : Bool} {rows : List (ComputedUnitsProcessedResponse τ)}
    (h : getComputeUnitsProcessed collate t now hours fails = .ok rows) :
    ∃ start, timestamptzArgument (now - hours.toInt64.toInt * nanosPerHour) = .ok start ∧
      rows = t.since collate start := by
  unfold getComputeUnitsProcessed at h
  split at h
  · next reported hreported =>
    cases h
    obtain ⟨time, htime, hreported⟩ := Ending.bind_eq_ok.1 hreported
    split at hreported
    · cases hreported
    · obtain ⟨start, hstart, hreported⟩ := Ending.bind_eq_ok.1 hreported
      cases hreported
      rw [← startTimestamp_ok htime]
      exact ⟨start, Ending.ofExcept_eq_ok.1 hstart, rfl⟩
  · cases h
  · cases h

end AtomaProxy
