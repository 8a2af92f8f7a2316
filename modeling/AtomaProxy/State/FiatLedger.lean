/-
The fiat row refines a reservation ledger, and so no interleaving of locks,
top-ups and settlements overdraws a user.

The abstract ledger has amounts with two components, input and output, that
share the limit `usd_balance`. The row keeps no list of its locks: it keeps
two sums, and that they are the sums of the locks still out is what a run has
to preserve. A run therefore remembers, beside the tables, which locks were
granted and not settled and what the settled ones came to.

`num_requests` is a `bigint` too, and its overflow would refuse a settlement.
It cannot: a request it counts has debited at least one unit of output, so it
is at most the output debited.
-/
import AtomaProxy.State.FiatBalances
import AtomaProxy.Base.Reservation
import Mathlib.Algebra.Order.Monoid.Prod

namespace AtomaProxy

open Base

/-- Both components of a fiat amount count against the balance. -/
def fiatGauge : Gauge (Int × Int) where
  size := AddMonoidHom.fst Int Int + AddMonoidHom.snd Int Int
  nonneg := by
    intro a ha
    have h1 : 0 ≤ a.1 := ha.1
    have h2 : 0 ≤ a.2 := ha.2
    simp only [AddMonoidHom.add_apply, AddMonoidHom.coe_fst, AddMonoidHom.coe_snd]
    omega

@[simp] theorem fiatGauge_size (a : Int × Int) : fiatGauge.size a = a.1 + a.2 := rfl

/-- The amounts of one event, input first. -/
def amounts (input output : Int64) : Int × Int := (input.toInt, output.toInt)

theorem amounts_nonneg {i o : Int64} : 0 ≤ amounts i o ↔ 0 ≤ i.toInt ∧ 0 ≤ o.toInt := by
  simp [amounts, Prod.le_def]

theorem amounts_le {i o i' o' : Int64} : amounts i o ≤ amounts i' o' ↔ i.toInt ≤ i'.toInt ∧ o.toInt ≤ o'.toInt := by
  simp [amounts, Prod.le_def]

def FiatBalance.debited (row : FiatBalance) : Int × Int :=
  amounts row.alreadyDebitedInputAmount row.alreadyDebitedCompletionsAmount

def FiatBalance.overcharged (row : FiatBalance) : Int × Int :=
  amounts row.overchargedUnsettledInputAmount row.overchargedUnsettledCompletionsAmount

/-- What the row has committed: its four amounts together. -/
def FiatBalance.committed (row : FiatBalance) : Int :=
  row.alreadyDebitedInputAmount.toInt + row.alreadyDebitedCompletionsAmount.toInt +
    row.overchargedUnsettledInputAmount.toInt + row.overchargedUnsettledCompletionsAmount.toInt

/-- The row holds the sums of the ledger. -/
structure FiatBalance.Represents (row : FiatBalance) (l : Ledger fiatGauge) : Prop where
  limit : row.usdBalance.toInt = l.limit
  spent : row.debited = l.spent
  held : row.overcharged = l.held.sum
  requests : 0 ≤ row.numRequests.toInt ∧ row.numRequests.toInt ≤ row.alreadyDebitedCompletionsAmount.toInt

namespace FiatBalance.Represents

variable {row : FiatBalance} {l : Ledger fiatGauge}

theorem debited_nonneg (h : row.Represents l) :
    0 ≤ row.alreadyDebitedInputAmount.toInt ∧ 0 ≤ row.alreadyDebitedCompletionsAmount.toInt := by
  have hs : 0 ≤ row.debited := h.spent ▸ l.spent_nonneg
  exact amounts_nonneg.1 hs

theorem overcharged_nonneg (h : row.Represents l) :
    0 ≤ row.overchargedUnsettledInputAmount.toInt ∧ 0 ≤ row.overchargedUnsettledCompletionsAmount.toInt := by
  have hs : 0 ≤ row.overcharged := h.held ▸ l.held_sum_nonneg
  exact amounts_nonneg.1 hs

theorem need_amounts (h : row.Represents l) (i o : Int64) :
    l.need (amounts i o) = row.committed + i.toInt + o.toInt := by
  simp only [Ledger.need, ← h.spent, ← h.held, fiatGauge_size, debited, overcharged, committed, amounts,
    Prod.mk_add_mk]
  omega

theorem committed_le (h : row.Represents l) : row.committed ≤ row.usdBalance.toInt := by
  have hw := l.within
  rw [h.limit]
  simp only [← h.spent, ← h.held, fiatGauge_size, debited, overcharged, amounts, Prod.mk_add_mk] at hw
  unfold committed
  omega

theorem lockTerms_nonneg (h : row.Represents l) {i o : Int64} (hi : 0 ≤ i.toInt) (ho : 0 ≤ o.toInt) :
    ∀ b ∈ row.lockTerms i o, 0 ≤ b.toInt := by
  have hd := h.debited_nonneg
  have hu := h.overcharged_nonneg
  simp only [lockTerms, List.mem_cons, List.not_mem_nil, or_false]
  rintro b (rfl | rfl | rfl | rfl | rfl)
  exacts [hd.1, hu.2, hu.1, hi, ho]

theorem lockTerms_sum (i o : Int64) : row.alreadyDebitedCompletionsAmount.toInt + intSum (row.lockTerms i o) =
    row.committed + i.toInt + o.toInt := by
  simp only [lockTerms, intSum_cons, intSum_nil, committed]
  omega

/-! ### One statement, one ledger operation -/

/-- A granted lock reserves its amounts. -/
theorem lock (h : row.Represents l) {i o : Int64} (hi : 0 ≤ i.toInt) (ho : 0 ≤ o.toInt) {row'}
    (hl : FiatBalance.lock i o row = .ok (.some row')) :
    ∃ hn, row'.Represents (l.reserve (amounts i o) (amounts_nonneg.2 ⟨hi, ho⟩) hn) := by
  simp only [FiatBalance.lock, ok_bind_iff, bigintSum_eq_ok (h.lockTerms_nonneg hi ho), lockTerms_sum] at hl
  obtain ⟨total, ht, hl⟩ := hl
  split at hl
  · next hle =>
    simp only [ok_bind_iff, bigintAdd_eq_ok, Except.ok.injEq, Option.some.injEq] at hl
    obtain ⟨input, hinput, completions, hcompletions, rfl⟩ := hl
    rw [Int64.le_iff_toInt_le] at hle
    refine ⟨by rw [h.need_amounts, ← h.limit]; omega, h.limit, h.spent, ?_, h.requests⟩
    rw [Ledger.reserve, Multiset.sum_cons, ← h.held]
    simp only [overcharged, amounts, hinput, hcompletions, Prod.mk_add_mk, Int.add_comm]
  · cases hl

/-- A lock that is not granted would overdraw the ledger. -/
theorem lock_refused (h : row.Represents l) {i o : Int64} (hi : 0 ≤ i.toInt) (ho : 0 ≤ o.toInt)
    (hl : ∀ row', FiatBalance.lock i o row ≠ .ok (.some row')) :
    row.usdBalance.toInt < row.committed + i.toInt + o.toInt := by
  have hnn := h.lockTerms_nonneg hi ho
  cases hs : bigintSum row.alreadyDebitedCompletionsAmount (row.lockTerms i o) with
  | error e => exact @lockTerms_sum row i o ▸ lt_of_bigintSum_eq_error hnn hs row.usdBalance
  | ok total =>
    have ht := (bigintSum_eq_ok hnn).1 hs
    rw [lockTerms_sum] at ht
    by_contra hle
    have hd := h.debited_nonneg
    have hu := h.overcharged_nonneg
    have hbal := inI64_toInt row.usdBalance
    have hguard : total ≤ row.usdBalance := by rw [Int64.le_iff_toInt_le]; omega
    -- the guard passes, and neither column can overflow below the balance
    have hin : InI64 (row.overchargedUnsettledInputAmount.toInt + i.toInt) := by
      unfold InI64 committed at *
      omega
    have hout : InI64 (row.overchargedUnsettledCompletionsAmount.toInt + o.toInt) := by
      unfold InI64 committed at *
      omega
    refine hl { row with
      overchargedUnsettledInputAmount := .ofInt (row.overchargedUnsettledInputAmount.toInt + i.toInt)
      overchargedUnsettledCompletionsAmount :=
        .ofInt (row.overchargedUnsettledCompletionsAmount.toInt + o.toInt) } ?_
    simp only [FiatBalance.lock, hs, bind, Except.bind, hguard, if_true,
      bigintAdd_eq_ok.2 (toInt_ofInt hin), bigintAdd_eq_ok.2 (toInt_ofInt hout)]

/-- A settlement of a lock that is out always succeeds, and settles it. -/
theorem settle (h : row.Represents l) {estI i estO o : Int64} (hm : amounts estI estO ∈ l.held)
    (h0 : 0 ≤ amounts i o) (hle : amounts i o ≤ amounts estI estO) :
    ∃ row', FiatBalance.settle estI i estO o row = .ok (.some row') ∧
      row'.Represents (l.settle (amounts estI estO) (amounts i o) hm h0 hle) := by
  have hd := h.debited_nonneg
  have hu := h.overcharged_nonneg
  have hc := h.committed_le
  have hr := h.requests
  have hbal := inI64_toInt row.usdBalance
  have hheld : amounts estI estO ≤ row.overcharged := h.held ▸ Multiset.single_le_sum l.held_nonneg _ hm
  have ⟨hi, ho⟩ := amounts_nonneg.1 h0
  have ⟨hi', ho'⟩ := amounts_le.1 hle
  have ⟨hEI, hEO⟩ := amounts_le.1 hheld
  have hn0 := toInt_ite_pos ho
  set n : Int64 := if o > 0 then 1 else 0 with hn
  unfold FiatBalance.committed at hc
  have hin1 : InI64 (row.overchargedUnsettledInputAmount.toInt - estI.toInt) := by unfold InI64 at *; omega
  have hin2 : InI64 (row.alreadyDebitedInputAmount.toInt + i.toInt) := by unfold InI64 at *; omega
  have hin3 : InI64 (row.overchargedUnsettledCompletionsAmount.toInt - estO.toInt) := by
    unfold InI64 at *
    omega
  have hin4 : InI64 (row.alreadyDebitedCompletionsAmount.toInt + o.toInt) := by unfold InI64 at *; omega
  have hin5 : InI64 (row.numRequests.toInt + n.toInt) := by unfold InI64 at *; omega
  refine ⟨{ row with
    overchargedUnsettledInputAmount := .ofInt (row.overchargedUnsettledInputAmount.toInt - estI.toInt)
    alreadyDebitedInputAmount := .ofInt (row.alreadyDebitedInputAmount.toInt + i.toInt)
    overchargedUnsettledCompletionsAmount :=
      .ofInt (row.overchargedUnsettledCompletionsAmount.toInt - estO.toInt)
    alreadyDebitedCompletionsAmount := .ofInt (row.alreadyDebitedCompletionsAmount.toInt + o.toInt)
    numRequests := .ofInt (row.numRequests.toInt + n.toInt) }, ?_, h.limit, ?_, ?_, ?_⟩
  · simp only [FiatBalance.settle, ← hn, bigintSub_eq_ok.2 (toInt_ofInt hin1),
      bigintAdd_eq_ok.2 (toInt_ofInt hin2), bigintSub_eq_ok.2 (toInt_ofInt hin3),
      bigintAdd_eq_ok.2 (toInt_ofInt hin4), bigintAdd_eq_ok.2 (toInt_ofInt hin5), bind, Except.bind]
  · simp only [Ledger.settle, ← h.spent]
    simp only [debited, amounts, toInt_ofInt hin2, toInt_ofInt hin4, Prod.mk_add_mk]
  · simp only [Ledger.settle, sum_erase hm, ← h.held]
    simp only [overcharged, amounts, toInt_ofInt hin1, toInt_ofInt hin3, Prod.mk_sub_mk]
  · simp only [toInt_ofInt hin4, toInt_ofInt hin5]
    omega

/-- A top-up that the balance's type has room for raises the limit. -/
theorem raise (h : row.Represents l) {amount : Int64} (ha : 0 ≤ amount.toInt) {usdBalance}
    (hu : bigintAdd row.usdBalance amount = .ok usdBalance) :
    ({ row with usdBalance } : FiatBalance).Represents (l.raise amount.toInt ha) := by
  rw [bigintAdd_eq_ok] at hu
  exact ⟨by simp only [hu, h.limit, Ledger.raise], h.spent, h.held, h.requests⟩

end FiatBalance.Represents

theorem FiatBalance.represents_fresh {b : Int64} (hb : 0 ≤ b.toInt) :
    (FiatBalance.ofBalance b).Represents (Ledger.fresh fiatGauge b.toInt hb) :=
  ⟨rfl, rfl, rfl, ⟨le_refl 0, le_refl 0⟩⟩

/-! ## Runs -/

/-- The tables, and what a run remembers of each user: the locks granted and not settled, and the actual
amounts of the settled ones, latest first. -/
structure FiatState where
  tables : FiatTables
  outstanding : Int64 → Multiset (Int × Int)
  settled : Int64 → List (Int × Int)

/-- What can happen to the fiat balances. The payment service's credit is an `UPDATE` of one column. -/
inductive FiatEvent where
  | lockUserFiatBalance (userId inputAmount outputAmount : Int64)
  | increaseUsdBalance (userId amount : Int64)
  | updateStackNumTokensFiat (today : Nat) (e : FiatSettlement)

def FiatBalance.increase (amount : Int64) (row : FiatBalance) : Except SqlError (Option FiatBalance) := do
  let usdBalance ← bigintAdd row.usdBalance amount
  .ok (.some { row with usdBalance })

def FiatSettlement.estimated (e : FiatSettlement) : Int × Int :=
  amounts e.estimatedInputAmount e.estimatedOutputAmount

def FiatSettlement.actual (e : FiatSettlement) : Int × Int := amounts e.inputAmount e.outputAmount

def fiatStep (s : FiatState) : FiatEvent → FiatState
  | .lockUserFiatBalance u i o =>
    let (tables, result) := handleLockUserFiatBalance s.tables u i o
    { s with
      tables
      outstanding :=
        if result = .ok true then Function.update s.outstanding u (amounts i o ::ₘ s.outstanding u)
        else s.outstanding }
  | .increaseUsdBalance u amount =>
    { s with tables.fiatBalances := s.tables.fiatBalances.after u (FiatBalance.increase amount) }
  | .updateStackNumTokensFiat today e =>
    { tables := (handleUpdateStackNumTokensFiat s.tables today e).1
      outstanding := Function.update s.outstanding e.userId ((s.outstanding e.userId).erase e.estimated)
      settled := Function.update s.settled e.userId (e.actual :: s.settled e.userId) }

def fiatMachine : Machine FiatState FiatEvent where
  step s e := .some (fiatStep s e)

/-- The events of the ledger: amounts are not negative, and a settlement settles a lock that is out, at no
more than it. -/
def FiatEvent.Allowed (s : FiatState) : FiatEvent → Prop
  | .lockUserFiatBalance _ i o => 0 ≤ i.toInt ∧ 0 ≤ o.toInt
  | .increaseUsdBalance _ amount => 0 ≤ amount.toInt
  | .updateStackNumTokensFiat _ e => e.estimated ∈ s.outstanding e.userId ∧ 0 ≤ e.actual ∧ e.actual ≤ e.estimated

/-- No lock was ever taken. -/
structure FiatState.Fresh (s : FiatState) : Prop where
  rows : ∀ {u row}, s.tables.fiatBalances u = .some row → ∃ b, 0 ≤ b.toInt ∧ row = FiatBalance.ofBalance b
  outstanding : ∀ u, s.outstanding u = 0
  settled : ∀ u, s.settled u = []

/-- User `u`'s row, if there is one, holds the sums of a ledger whose reservations are the locks the run
remembers. -/
def FiatState.Tracks (u : Int64) (s : FiatState) (l : Ledger fiatGauge) : Prop :=
  ∀ row, s.tables.fiatBalances u = .some row →
    row.Represents l ∧ s.outstanding u = l.held ∧ (s.settled u).sum = l.spent

/-- The row function of an event, and the user it is about. -/
def FiatEvent.user : FiatEvent → Int64
  | .lockUserFiatBalance u _ _ => u
  | .increaseUsdBalance u _ => u
  | .updateStackNumTokensFiat _ e => e.userId

def FiatEvent.onRow : FiatEvent → FiatBalance → Except SqlError (Option FiatBalance)
  | .lockUserFiatBalance _ i o => FiatBalance.lock i o
  | .increaseUsdBalance _ amount => FiatBalance.increase amount
  | .updateStackNumTokensFiat _ e =>
    FiatBalance.settle e.estimatedInputAmount e.inputAmount e.estimatedOutputAmount e.outputAmount

/-- Every event is one `UPDATE` of its user's row. -/
theorem fiatStep_rows (s : FiatState) (ev : FiatEvent) :
    (fiatStep s ev).tables.fiatBalances = s.tables.fiatBalances.after ev.user ev.onRow := by
  cases ev with
  | lockUserFiatBalance u i o => exact congrArg _ (handleLockUserFiatBalance_rows s.tables u i o)
  | increaseUsdBalance u amount => rfl
  | updateStackNumTokensFiat today e => exact handleUpdateStackNumTokensFiat_rows s.tables today e

theorem fiatStep_other {s : FiatState} {ev : FiatEvent} {u} (h : u ≠ ev.user) :
    (fiatStep s ev).outstanding u = s.outstanding u ∧ (fiatStep s ev).settled u = s.settled u := by
  cases ev with
  | lockUserFiatBalance v i o =>
    simp only [fiatStep]
    split
    · exact ⟨Function.update_of_ne h _ _, trivial⟩
    · exact ⟨rfl, trivial⟩
  | increaseUsdBalance v amount => exact ⟨rfl, rfl⟩
  | updateStackNumTokensFiat today e => exact ⟨Function.update_of_ne h _ _, Function.update_of_ne h _ _⟩

/-- An event on a user's own row, when the row is there: the ledger operation it is, if it is one. -/
theorem FiatState.Tracks.step {s : FiatState} {ev : FiatEvent} {l : Ledger fiatGauge} {row}
    (hrow : s.tables.fiatBalances ev.user = .some row) (hr : row.Represents l)
    (hout : s.outstanding ev.user = l.held) (hset : (s.settled ev.user).sum = l.spent) (ha : ev.Allowed s) :
    ∃ bs l', (Ledger.machine fiatGauge).run l bs = .some l' ∧ (Table.rowAfter ev.onRow row).Represents l' ∧
      (fiatStep s ev).outstanding ev.user = l'.held ∧ ((fiatStep s ev).settled ev.user).sum = l'.spent := by
  cases ev with
  | lockUserFiatBalance u i o =>
    obtain ⟨hi, ho⟩ := ha
    simp only [FiatEvent.user, FiatEvent.onRow, fiatStep] at hrow hout hset ⊢
    by_cases hg : ∃ row', FiatBalance.lock i o row = .ok (.some row')
    · obtain ⟨row', hl⟩ := hg
      obtain ⟨hn, hr'⟩ := hr.lock hi ho hl
      refine ⟨_, _, Ledger.run_reserve (amounts_nonneg.2 ⟨hi, ho⟩) hn, ?_, ?_, hset⟩
      · rw [Table.rowAfter_of_ok hl]
        exact hr'
      · rw [if_pos (handleLockUserFiatBalance_granted.2 ⟨row, row', hrow, hl⟩), Function.update_self, hout]
        rfl
    · refine ⟨[], l, rfl, ?_, ?_, hset⟩
      · rw [Table.rowAfter_of_not (not_exists.1 hg)]
        exact hr
      · rw [if_neg, hout]
        rintro hok
        obtain ⟨row₁, row', hrow₁, hl⟩ := handleLockUserFiatBalance_granted.1 hok
        rw [hrow, Option.some.injEq] at hrow₁
        exact hg ⟨row', hrow₁ ▸ hl⟩
  | increaseUsdBalance u amount =>
    simp only [FiatEvent.user, FiatEvent.onRow, fiatStep] at hrow hout hset ⊢
    cases hb : bigintAdd row.usdBalance amount with
    | error e =>
      have hnot : ∀ row', FiatBalance.increase amount row ≠ .ok (.some row') := by
        intro row' h
        simp only [FiatBalance.increase, hb, ok_bind_iff, reduceCtorEq, false_and, exists_false] at h
      rw [Table.rowAfter_of_not hnot]
      exact ⟨[], l, rfl, hr, hout, hset⟩
    | ok usdBalance =>
      have hinc : FiatBalance.increase amount row = .ok (.some { row with usdBalance }) := by
        simp only [FiatBalance.increase, hb, bind, Except.bind]
      rw [Table.rowAfter_of_ok hinc]
      exact ⟨_, _, Ledger.run_raise ha, hr.raise ha hb, hout, hset⟩
  | updateStackNumTokensFiat today e =>
    obtain ⟨hm, h0, hle⟩ := ha
    simp only [FiatEvent.user, FiatEvent.onRow, fiatStep, Function.update_self] at hrow hout hset ⊢
    rw [hout] at hm
    obtain ⟨row', hs, hr'⟩ := hr.settle hm h0 hle
    refine ⟨_, _, Ledger.run_settle hm h0 hle, ?_, ?_, ?_⟩
    · rw [Table.rowAfter_of_ok hs]
      exact hr'
    · rw [hout]
      rfl
    · simp only [List.sum_cons, hset, Ledger.settle, FiatSettlement.actual, add_comm]

/-- **One event, at most one ledger operation.** -/
theorem fiat_refines (u : Int64) :
    Machine.Refines fiatMachine (Ledger.machine fiatGauge) (FiatState.Tracks u) FiatEvent.Allowed := by
  intro s l ev s' ht ha hstep
  simp only [fiatMachine, Option.some.injEq] at hstep
  subst hstep
  by_cases hu : u = ev.user
  · subst hu
    cases hrow : s.tables.fiatBalances ev.user with
    | none =>
      -- no statement makes a row
      refine ⟨[], l, rfl, fun row hrow' => ?_⟩
      rw [fiatStep_rows, Table.after_apply, if_pos rfl, hrow] at hrow'
      cases hrow'
    | some row =>
      obtain ⟨hr, hout, hset⟩ := ht row hrow
      obtain ⟨bs, l', hrun, hr', hout', hset'⟩ := FiatState.Tracks.step hrow hr hout hset ha
      refine ⟨bs, l', hrun, fun row' hrow' => ?_⟩
      rw [fiatStep_rows, Table.after_apply, if_pos rfl, hrow, Option.map_some, Option.some.injEq] at hrow'
      exact ⟨hrow' ▸ hr', hout', hset'⟩
  · refine ⟨[], l, rfl, fun row hrow => ?_⟩
    rw [fiatStep_rows, Table.after_apply, if_neg hu] at hrow
    rw [(fiatStep_other hu).1, (fiatStep_other hu).2]
    exact ht row hrow

theorem FiatState.Fresh.tracks {s : FiatState} (h : s.Fresh) (u : Int64) :
    ∃ l, FiatState.Tracks u s l := by
  cases hrow : s.tables.fiatBalances u with
  | none => exact ⟨Ledger.fresh fiatGauge 0 (le_refl 0), fun row hrow' => by rw [hrow] at hrow'; cases hrow'⟩
  | some row =>
    obtain ⟨b, hb, rfl⟩ := h.rows hrow
    refine ⟨Ledger.fresh fiatGauge b.toInt hb, fun row' hrow' => ?_⟩
    rw [hrow, Option.some.injEq] at hrow'
    exact ⟨hrow' ▸ FiatBalance.represents_fresh hb, h.outstanding u, by rw [h.settled u]; rfl⟩

/-- Every reachable row holds the sums of a ledger. -/
theorem fiat_tracks {s s' : FiatState} {evs} (h : s.Fresh) (hg : fiatMachine.Guarded FiatEvent.Allowed s evs)
    (hrun : fiatMachine.run s evs = .some s') (u : Int64) : ∃ l, FiatState.Tracks u s' l := by
  obtain ⟨l, hl⟩ := h.tracks u
  obtain ⟨_, l', _, hl'⟩ := Machine.Refines.run (fiat_refines u) hl hg hrun
  exact ⟨l', hl'⟩

/-- **Main result.** In every state a run reaches, a user's row holds exactly the locks that are out and
exactly what the settled ones cost, and has not overdrawn the balance; a lock it refuses would have, and
leaves the tables as they were. -/
theorem fiat_ledger_invariant {s s' : FiatState} {evs} (h : s.Fresh)
    (hg : fiatMachine.Guarded FiatEvent.Allowed s evs) (hrun : fiatMachine.run s evs = .some s') {u row}
    (hrow : s'.tables.fiatBalances u = .some row) :
    row.overcharged = (s'.outstanding u).sum ∧ row.debited = (s'.settled u).sum ∧
      0 ≤ row.overcharged ∧ 0 ≤ row.debited ∧ row.committed ≤ row.usdBalance.toInt ∧
      ∀ i o : Int64, 0 ≤ i.toInt → 0 ≤ o.toInt → (handleLockUserFiatBalance s'.tables u i o).2 ≠ .ok true →
        (handleLockUserFiatBalance s'.tables u i o).1 = s'.tables ∧
          row.usdBalance.toInt < row.committed + i.toInt + o.toInt := by
  obtain ⟨l, hl⟩ := fiat_tracks h hg hrun u
  obtain ⟨hr, hout, hset⟩ := hl row hrow
  refine ⟨by rw [hr.held, hout], by rw [hr.spent, hset], hr.held ▸ l.held_sum_nonneg, hr.spent ▸ l.spent_nonneg,
    hr.committed_le, fun i o hi ho href => ⟨handleLockUserFiatBalance_refused href, ?_⟩⟩
  refine hr.lock_refused hi ho fun row' hlock => href ?_
  exact handleLockUserFiatBalance_granted.2 ⟨row, row', hrow, hlock⟩

/-- One user with a balance of 100, before any lock. -/
def fiatExample : FiatState where
  tables :=
    { fiatBalances := fun u => if u = 1 then .some (.ofBalance 100) else .none
      usagePerDay := fun _ => .none
      usagePerModel := fun _ => .none }
  outstanding := fun _ => 0
  settled := fun _ => []

def fiatExampleRun : List FiatEvent :=
  [.lockUserFiatBalance 1 10 20, .lockUserFiatBalance 1 30 40, .increaseUsdBalance 1 5,
    .updateStackNumTokensFiat 0 ⟨1, "m", 10, 7, 7, 20, 0, 0⟩]

theorem fiatExample_fresh : fiatExample.Fresh := by
  refine ⟨fun {u row} h => ⟨100, by decide, ?_⟩, fun _ => rfl, fun _ => rfl⟩
  simp only [fiatExample] at h
  split at h
  · exact (Option.some.inj h).symm
  · cases h

theorem fiatExample_guarded : fiatMachine.Guarded FiatEvent.Allowed fiatExample fiatExampleRun := by
  refine (Machine.guarded_cons rfl).2 ⟨⟨by decide, by decide⟩, ?_⟩
  refine (Machine.guarded_cons rfl).2 ⟨⟨by decide, by decide⟩, ?_⟩
  refine (Machine.guarded_cons rfl).2 ⟨show 0 ≤ (5 : Int64).toInt by decide, ?_⟩
  refine (Machine.guarded_cons rfl).2 ⟨⟨by decide, ?_, ?_⟩, trivial⟩
  · exact amounts_nonneg.2 ⟨by decide, by decide⟩
  · exact amounts_le.2 ⟨by decide, by decide⟩

theorem fiat_ledger_invariant_example :
    ∃ s', fiatMachine.run fiatExample fiatExampleRun = .some s' ∧
      s'.tables.fiatBalances 1 = .some ⟨105, 7, 0, 30, 40, 0⟩ ∧ s'.outstanding 1 = {(30, 40)} ∧
      ((30, 40) : Int × Int) = (s'.outstanding 1).sum := by
  have hrow : (fiatExampleRun.foldl fiatStep fiatExample).tables.fiatBalances 1 =
      .some ⟨105, 7, 0, 30, 40, 0⟩ := by decide
  refine ⟨fiatExampleRun.foldl fiatStep fiatExample, rfl, hrow, by decide, ?_⟩
  exact (fiat_ledger_invariant fiatExample_fresh fiatExample_guarded rfl hrow).1

end AtomaProxy
