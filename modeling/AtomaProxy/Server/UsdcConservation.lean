/-
USDC are conserved over every run of stack purchases and top-ups, where each
failure point is compensated exactly when no stack was bought.

For each user the balance refines a reservation ledger: a deduction reserves
the cost, a stack bought settles it at the cost, a refund settles it at
nothing. The steps that break this are conditions on a run: a transaction
executed whose event does not parse or is not stored is refunded, one that
panics without having been executed is not, and a price whose product wraps is
not the price deducted.
-/
import AtomaProxy.Server.AcquireStack
import AtomaProxy.State.CryptoBalances
import AtomaProxy.Base.Reservation

namespace AtomaProxy

open Base

/-- A call of `acquire_new_stack` past its deduction, and whether its stack was bought. -/
structure Acquisition where
  purchase : Purchase
  phase : Acquiring
  bought : Bool
  deriving DecidableEq

/-- The tables, the acquisitions in progress, and what a run remembers of each user: the balance it started
from with the top-ups since, and the costs of the stacks bought on chain. -/
structure UsdcState where
  balances : CryptoBalances
  tables : StackTables
  inProgress : Multiset Acquisition
  toppedUp : Int64 → Int
  spent : Int64 → Int

def UsdcState.start (balances : CryptoBalances) (tables : StackTables) : UsdcState :=
  ⟨balances, tables, 0, balances.usdc, fun _ => 0⟩

/-- What can happen. A statement that the database does not answer `fails`. -/
inductive UsdcEvent where
  | topUpBalance (userId amount : Int64)
  | deductFromUsdc (p : Purchase) (fails : Bool)
  | acquireNewStackEntry (a : Acquisition) (answers : EntryAnswers)
  | newStackAcquired (a : Acquisition) (fails : Bool)
  | refundUsdc (a : Acquisition) (fails : Bool)
  /-- the other statements on the stacks -/
  | otherTables (tables : StackTables)

/-- The acquisition goes on as its answer says. -/
def UsdcState.goOn (s : UsdcState) (purchase : Purchase) (bought : Bool) : Continued → UsdcState
  | .waits phase => { s with inProgress := ⟨purchase, phase, bought⟩ ::ₘ s.inProgress }
  | .ended _ => s

def UsdcState.spend (s : UsdcState) (p : Purchase) (bought : Bool) : UsdcState :=
  if bought then { s with spent := Function.update s.spent p.userId (s.spent p.userId + p.cost) } else s

def UsdcState.leave (s : UsdcState) (a : Acquisition) : UsdcState := { s with inProgress := s.inProgress.erase a }

def usdcStep (s : UsdcState) : UsdcEvent → Option UsdcState
  | .topUpBalance userId amount =>
    match topUpCryptoBalance s.balances userId amount with
    | .ok balances =>
      .some { s with balances, toppedUp := Function.update s.toppedUp userId (s.toppedUp userId + amount.toInt) }
    | .error _ => .some s
  | .deductFromUsdc p fails =>
    match answered fails (deductFromUsdc s.balances p.userId p.amount) with
    | .ok balances => .some ({ s with balances }.goOn p false (p.afterDeduct (.ok ())))
    | .error e => .some (s.goOn p false (p.afterDeduct (.error e)))
  | .acquireNewStackEntry a answers =>
    if a ∈ s.inProgress ∧ a.phase = .entry then
      .some (((s.spend a.purchase answers.bought).leave a).goOn a.purchase answers.bought
        (a.purchase.afterEntry (acquireNewStackEntry answers)))
    else .none
  | .newStackAcquired a fails =>
    match a.phase with
    | .newStackAcquired event =>
      if a ∈ s.inProgress then
        match answered fails (handleStackCreatedEvent s.tables event a.purchase.totalTokens.toInt64
            a.purchase.userId) with
        | .ok tables => .some (({ s with tables }.leave a).goOn a.purchase a.bought
            (a.purchase.afterNewStackAcquired event (.ok ())))
        | .error e => .some ((s.leave a).goOn a.purchase a.bought
            (a.purchase.afterNewStackAcquired event (.error e)))
      else .none
    | _ => .none
  | .refundUsdc a fails =>
    match a.phase with
    | .refund error =>
      if a ∈ s.inProgress then
        match answered fails (refundUsdc s.balances a.purchase.userId a.purchase.amount) with
        | .ok balances => .some (({ s with balances }.leave a).goOn a.purchase a.bought (Purchase.afterRefund error))
        | .error _ => .some ((s.leave a).goOn a.purchase a.bought (Purchase.afterRefund error))
      else .none
    | _ => .none
  | .otherTables tables => .some { s with tables }

def usdcMachine : Machine UsdcState UsdcEvent := ⟨usdcStep⟩

/-- The runs the result is about: a top-up's amount and a price are not negative, the callers ask for at most a
stack of units, and the contract creates stacks of the size asked for. -/
def UsdcEvent.Allowed : UsdcEvent → Prop
  | .topUpBalance _ amount => 0 ≤ amount.toInt
  | .deductFromUsdc p _ => 0 ≤ p.node.pricePerOneMillionComputeUnits.toInt ∧ p.totalTokens ≤ stackSizeToBuy
  | .acquireNewStackEntry _ answers =>
    ∀ json event, answers.parse json = .ok event → event.numComputeUnits = stackSizeToBuy
  | _ => True

/-- An acquisition that ends well or before it has bought anything: it does not panic without having been
executed, and the event of one that was executed is there and parses. -/
def EntryAnswers.Clean (answers : EntryAnswers) : Prop :=
  answers.prepared ≠ .panic ∧ (answers.prepared = .ok () →
    match answers.execution with
    | .panicked executed => executed = true
    | .succeeded events => ∃ json event, events.bind List.head? = .some json ∧ answers.parse json = .ok event)

/-- The condition: the product of a price does not wrap, an acquisition is clean, the stack bought is new to the
tables and the database answers its insertion, and so it does a refund, which the balance has room for. -/
def UsdcEvent.Compensated (s : UsdcState) : UsdcEvent → Prop
  | .deductFromUsdc p _ => stackSizeToBuy.toNat * p.node.pricePerOneMillionComputeUnits.toInt < 2 ^ 64
  | .acquireNewStackEntry _ answers => answers.Clean
  | .newStackAcquired a fails => fails = false ∧ ∀ event, a.phase = .newStackAcquired event →
      event.stackId ∉ s.tables.stackIds ∧ s.tables.rows event.stackSmallId.toInt64 = .none
  | .refundUsdc a fails => fails = false ∧ s.balances.usdc a.purchase.userId + a.purchase.cost < 2 ^ 63
  | _ => True

/-- The costs of a user's acquisitions that have not bought their stack. -/
def heldOf (inProgress : Multiset Acquisition) (userId : Int64) : Multiset Int :=
  (inProgress.filter fun a => a.purchase.userId = userId ∧ a.bought = false).map fun a => a.purchase.cost

/-- A user's balance has fallen by the costs of the stacks bought, and by those of the acquisitions that have
not come to an end; it is not negative; and nothing is being refunded for a stack that was bought. -/
structure UsdcState.Conserved (s : UsdcState) : Prop where
  balance : ∀ u, s.balances.usdc u = s.toppedUp u - s.spent u - (heldOf s.inProgress u).sum
  nonneg : ∀ u, 0 ≤ s.balances.usdc u
  refunds : ∀ a ∈ s.inProgress, ∀ e, a.phase = .refund e → a.bought = false

/-! ## What a step can do -/

theorem heldOf_cons (a : Acquisition) (m : Multiset Acquisition) (u : Int64) : heldOf (a ::ₘ m) u =
    if a.purchase.userId = u ∧ a.bought = false then a.purchase.cost ::ₘ heldOf m u else heldOf m u := by
  unfold heldOf
  split
  · next h => rw [Multiset.filter_cons_of_pos m h, Multiset.map_cons]
  · next h => rw [Multiset.filter_cons_of_neg m h]

/-- What is known of an acquisition in progress. -/
structure Acquisition.Well (a : Acquisition) : Prop where
  price : a.purchase.PriceFits
  tokens : a.purchase.totalTokens ≤ stackSizeToBuy
  phase : match a.phase with
    | .entry => a.bought = false
    | .newStackAcquired event => a.bought = true ∧ event.numComputeUnits = stackSizeToBuy
    | .refund _ => a.bought = false

theorem Purchase.cost_nonneg {p : Purchase} (h : p.PriceFits) : 0 ≤ p.cost :=
  Int.ediv_nonneg (Int.mul_nonneg (by decide) h.1) (by decide)

/-- The answer of a clean acquisition: bought with its event, or bought and panicked, or an error and not
bought. -/
theorem EntryAnswers.Clean.cases {answers : EntryAnswers} (h : answers.Clean) :
    (answers.bought = true ∧ ∃ json event, answers.parse json = .ok event ∧
        acquireNewStackEntry answers = .ok event) ∨
      (answers.bought = true ∧ acquireNewStackEntry answers = .panic) ∨
      (answers.bought = false ∧ ∃ e, acquireNewStackEntry answers = .err e) := by
  obtain ⟨hpanic, hok⟩ := h
  unfold bought acquireNewStackEntry
  cases hp : answers.prepared with
  | panic => exact absurd hp hpanic
  | err e => exact .inr (.inr ⟨rfl, e, rfl⟩)
  | ok _ =>
    have hex := hok hp
    cases he : answers.execution with
    | panicked executed =>
      rw [he] at hex
      exact .inr (.inl ⟨hex, rfl⟩)
    | succeeded events =>
      rw [he] at hex
      obtain ⟨json, event, hjson, hparse⟩ := hex
      refine .inl ⟨rfl, json, event, hparse, ?_⟩
      simp [hjson, hparse]

/-- A step that meets the condition: the balances and sums stay and nothing new is in progress; or a top-up; or
a deduction, which puts an acquisition in progress; or the end of one in progress, by a purchase, an error, the
storing of its stack or its refund. -/
inductive UsdcState.Does (s s' : UsdcState) : Prop where
  | nothing (balances : s'.balances = s.balances) (inProgress : s'.inProgress = s.inProgress)
      (toppedUp : s'.toppedUp = s.toppedUp) (spent : s'.spent = s.spent)
  | toppedUp (u : Int64) (amount b : Int64) (nonneg : 0 ≤ amount.toInt) (sum : b.toInt = s.balances.usdc u + amount.toInt)
      (eq : s' = { s with
        balances := Function.update s.balances u (.some ⟨b⟩)
        toppedUp := Function.update s.toppedUp u (s.toppedUp u + amount.toInt) })
  | deducted (p : Purchase) (b : Int64) (price : p.PriceFits) (tokens : p.totalTokens ≤ stackSizeToBuy)
      (row : (s.balances p.userId).isSome) (covered : p.cost ≤ s.balances.usdc p.userId)
      (sum : b.toInt = s.balances.usdc p.userId - p.cost)
      (eq : s' = { s with
        balances := Function.update s.balances p.userId (.some ⟨b⟩)
        inProgress := ⟨p, .entry, false⟩ ::ₘ s.inProgress })
  | acquired (a : Acquisition) (mem : a ∈ s.inProgress) (bought : a.bought = false) (next : List Acquisition)
      (well : ∀ a' ∈ next, a'.Well ∧ a'.bought = true ∧ a'.purchase = a.purchase)
      (eq : s' = { s with
        inProgress := next + s.inProgress.erase a
        spent := Function.update s.spent a.purchase.userId (s.spent a.purchase.userId + a.purchase.cost) })
  | failed (a : Acquisition) (mem : a ∈ s.inProgress) (bought : a.bought = false) (e : AtomaProxyError)
      (eq : s' = { s with inProgress := ⟨a.purchase, .refund e, false⟩ ::ₘ s.inProgress.erase a })
  | stored (a : Acquisition) (mem : a ∈ s.inProgress) (bought : a.bought = true) (tables : StackTables)
      (eq : s' = { s with tables, inProgress := s.inProgress.erase a })
  | refunded (a : Acquisition) (mem : a ∈ s.inProgress) (bought : a.bought = false) (b : Int64)
      (sum : b.toInt = s.balances.usdc a.purchase.userId + a.purchase.cost)
      (eq : s' = { s with
        balances := Function.update s.balances a.purchase.userId (.some ⟨b⟩)
        inProgress := s.inProgress.erase a })

/-- What is known of a state: of each acquisition in progress, and of its user's row. -/
structure UsdcState.Well (s : UsdcState) : Prop where
  acquisitions : ∀ a ∈ s.inProgress, a.Well ∧ (s.balances a.purchase.userId).isSome
  balances : ∀ u, 0 ≤ s.balances.usdc u

theorem units_fit {units : UInt64} (h : units ≤ stackSizeToBuy) :
    units.toInt64.toInt ≤ stackSizeToBuy.toInt64.toInt := by
  have hsize : stackSizeToBuy.toNat = 1000000 := rfl
  rw [UInt64.le_iff_toNat_le, hsize] at h
  rw [toInt_toInt64 (by omega), toInt_toInt64 (by omega), hsize]
  omega

/-- **Inversion.** A step that meets the condition is one of these. -/
theorem usdcStep_does {s s' : UsdcState} {ev} (hw : s.Well) (ha : ev.Allowed) (hc : ev.Compensated s)
    (h : usdcStep s ev = .some s') : s.Does s' := by
  cases ev with
  | topUpBalance u amount =>
    unfold usdcStep at h
    dsimp only at h
    split at h
    · next balances hok =>
      obtain ⟨_, b, hb, _, rfl⟩ := topUpCryptoBalance_ok.1 hok
      exact .toppedUp u amount b ha hb (Option.some.inj h).symm
    · cases h
      exact .nothing rfl rfl rfl rfl
  | deductFromUsdc p fails =>
    have hprice : p.PriceFits := ⟨ha.1, hc⟩
    unfold usdcStep at h
    dsimp only at h
    split at h
    · next balances hok =>
      unfold answered at hok
      split at hok
      · cases hok
      · obtain ⟨hrow, hcov, b, hb, rfl⟩ := deductFromUsdc_ok hok
        rw [p.amount_toInt hprice] at hcov hb
        exact .deducted p b hprice ha.2 hrow hcov hb (Option.some.inj h).symm
    · cases h
      exact .nothing rfl rfl rfl rfl
  | acquireNewStackEntry a answers =>
    unfold usdcStep at h
    dsimp only at h
    split at h
    · next hmem =>
      have hwell := (hw.acquisitions a hmem.1).1
      have hphase := hwell.phase
      rw [hmem.2] at hphase
      cases h
      rcases EntryAnswers.Clean.cases hc with ⟨hb, json, event, hparse, he⟩ | ⟨hb, he⟩ | ⟨hb, e, he⟩
      · rw [he, hb]
        refine .acquired a hmem.1 hphase [⟨a.purchase, .newStackAcquired event, true⟩] (fun a' ha' => ?_) rfl
        cases List.mem_singleton.1 ha'
        exact ⟨⟨hwell.price, hwell.tokens, rfl, ha json event hparse⟩, rfl, rfl⟩
      · rw [he, hb]
        exact .acquired a hmem.1 hphase [] nofun (by simp [UsdcState.goOn, UsdcState.leave, UsdcState.spend,
          Purchase.afterEntry])
      · rw [he, hb]
        exact .failed a hmem.1 hphase _ rfl
    · cases h
  | newStackAcquired a fails =>
    unfold usdcStep at h
    dsimp only at h
    split at h
    · next event hphase =>
      split at h
      · next hmem =>
        have hwell := (hw.acquisitions a hmem).1
        have hp := hwell.phase
        rw [hphase] at hp
        obtain ⟨hid, hrow⟩ := hc.2 event hphase
        obtain ⟨tables, hok⟩ := @handleStackCreatedEvent_of_new s.tables event a.purchase.totalTokens.toInt64
          a.purchase.userId hid hrow (by rw [hp.2]; exact units_fit hwell.tokens)
        rw [hc.1, answered, if_neg Bool.false_ne_true, hok] at h
        exact .stored a hmem hp.1 tables (Option.some.inj h).symm
      · cases h
    · cases h
  | refundUsdc a fails =>
    unfold usdcStep at h
    dsimp only at h
    split at h
    · next error hphase =>
      split at h
      · next hmem =>
        obtain ⟨hwell, hrow⟩ := hw.acquisitions a hmem
        have hp := hwell.phase
        rw [hphase] at hp
        have hcost := a.purchase.cost_nonneg hwell.price
        have hbal := hw.balances a.purchase.userId
        have hlt := hc.2
        rw [← a.purchase.amount_toInt hwell.price] at hcost hlt
        obtain ⟨b, hb, hok⟩ := refundUsdc_of_fits hrow (by omega) hlt
        rw [hc.1, answered, if_neg Bool.false_ne_true, hok] at h
        rw [a.purchase.amount_toInt hwell.price] at hb
        exact .refunded a hmem hp b hb (Option.some.inj h).symm
      · cases h
    · cases h
  | otherTables tables =>
    cases h
    exact .nothing rfl rfl rfl rfl

theorem UsdcState.Well.step {s s' : UsdcState} (hw : s.Well) (h : s.Does s') : s'.Well := by
  have herase : ∀ a, ∀ a' ∈ s.inProgress.erase a, a'.Well ∧ (s.balances a'.purchase.userId).isSome :=
    fun a a' ha' => hw.acquisitions a' (Multiset.mem_of_mem_erase ha')
  have hrows : ∀ (v : Int64) (row : CryptoBalance) (u : Int64), (s.balances u).isSome →
      (Function.update s.balances v (.some row) u).isSome := by
    intro v row u hu
    by_cases hv : u = v
    · rw [hv, Function.update_self]
      rfl
    · rw [Function.update_of_ne hv]
      exact hu
  cases h with
  | nothing hb hi _ _ => exact ⟨hi ▸ hb ▸ hw.acquisitions, hb ▸ hw.balances⟩
  | toppedUp v amount b h0 hb heq =>
    subst heq
    refine ⟨fun a ha => ⟨(hw.acquisitions a ha).1, hrows v _ _ (hw.acquisitions a ha).2⟩, fun u => ?_⟩
    show 0 ≤ CryptoBalances.usdc _ u
    have hv := hw.balances v
    rw [usdc_update]
    split
    · show 0 ≤ b.toInt
      omega
    · exact hw.balances u
  | deducted p b hprice htokens hrow hcov hb heq =>
    subst heq
    refine ⟨fun a ha => ?_, fun u => ?_⟩
    · rcases Multiset.mem_cons.1 ha with rfl | ha
      · exact ⟨⟨hprice, htokens, rfl⟩, hrows _ _ _ hrow⟩
      · exact ⟨(hw.acquisitions a ha).1, hrows _ _ _ (hw.acquisitions a ha).2⟩
    · show 0 ≤ CryptoBalances.usdc _ u
      rw [usdc_update]
      split
      · show 0 ≤ b.toInt
        omega
      · exact hw.balances u
  | acquired a hmem hbought next hnext heq =>
    subst heq
    refine ⟨fun a' ha' => ?_, hw.balances⟩
    rcases Multiset.mem_add.1 ha' with ha' | ha'
    · obtain ⟨hwell, _, hp⟩ := hnext a' (Multiset.mem_coe.1 ha')
      exact ⟨hwell, hp ▸ (hw.acquisitions a hmem).2⟩
    · exact herase a a' ha'
  | failed a hmem hbought e heq =>
    subst heq
    refine ⟨fun a' ha' => ?_, hw.balances⟩
    obtain ⟨hwell, hrow⟩ := hw.acquisitions a hmem
    rcases Multiset.mem_cons.1 ha' with rfl | ha'
    · exact ⟨⟨hwell.price, hwell.tokens, rfl⟩, hrow⟩
    · exact herase a a' ha'
  | stored a hmem hbought tables heq =>
    subst heq
    exact ⟨herase a, hw.balances⟩
  | refunded a hmem hbought b hb heq =>
    subst heq
    refine ⟨fun a' ha' => ⟨(herase a a' ha').1, hrows _ _ _ (herase a a' ha').2⟩, fun u => ?_⟩
    have hbal := hw.balances a.purchase.userId
    have hcost := a.purchase.cost_nonneg (hw.acquisitions a hmem).1.price
    show 0 ≤ CryptoBalances.usdc _ u
    rw [usdc_update]
    split
    · show 0 ≤ b.toInt
      omega
    · exact hw.balances u

/-! ## One ledger for each user -/

/-- USDC count as they are. -/
def usdcGauge : Gauge Int where
  size := AddMonoidHom.id Int
  nonneg := fun h => h

/-- User `u`'s balance is what a ledger has left, whose reservations are the acquisitions that have bought
nothing. -/
structure UsdcState.Tracks (u : Int64) (s : UsdcState) (l : Ledger usdcGauge) : Prop where
  well : s.Well
  limit : s.toppedUp u = l.limit
  spent : s.spent u = l.spent
  held : heldOf s.inProgress u = l.held
  balance : s.balances.usdc u = l.limit - (l.spent + l.held.sum)

/-- An acquisition that leaves, of another user or one that has bought its stack, was not held. -/
theorem heldOf_erase {m : Multiset Acquisition} {a : Acquisition} (hmem : a ∈ m) (u : Int64) : heldOf m u =
    if a.purchase.userId = u ∧ a.bought = false then a.purchase.cost ::ₘ heldOf (m.erase a) u
    else heldOf (m.erase a) u := by
  rw [← heldOf_cons, Multiset.cons_erase hmem]

theorem heldOf_bought {next : List Acquisition} (h : ∀ a ∈ next, a.bought = true) (m : Multiset Acquisition)
    (u : Int64) : heldOf (next + m) u = heldOf m u := by
  have hnone : Multiset.filter (fun a : Acquisition => a.purchase.userId = u ∧ a.bought = false) ↑next = 0 := by
    rw [Multiset.filter_eq_nil]
    intro a ha hb
    rw [h a (Multiset.mem_coe.1 ha)] at hb
    cases hb.2
  unfold heldOf
  rw [Multiset.filter_add, hnone, zero_add]

/-- An acquisition that bought nothing leaves, and of its price `c` is spent: its user's ledger settles it at `c`,
the other ledgers stay. -/
theorem UsdcState.Tracks.settle {u : Int64} {s s' : UsdcState} {l : Ledger usdcGauge} {a : Acquisition} {c : Int}
    (ht : s.Tracks u l) (hw' : s'.Well) (hmem : a ∈ s.inProgress) (hbought : a.bought = false) (hc : 0 ≤ c)
    (hle : c ≤ a.purchase.cost) (htop : s'.toppedUp = s.toppedUp)
    (hspent : s'.spent u = if u = a.purchase.userId then s.spent u + c else s.spent u)
    (hheld' : heldOf s'.inProgress u = heldOf (s.inProgress.erase a) u)
    (hbal : s'.balances.usdc u =
      if u = a.purchase.userId then s.balances.usdc u + (a.purchase.cost - c) else s.balances.usdc u) :
    ∃ bs l', (Ledger.machine usdcGauge).run l bs = .some l' ∧ s'.Tracks u l' := by
  have hheld := heldOf_erase hmem u
  rw [ht.held] at hheld
  by_cases hu : u = a.purchase.userId
  · rw [if_pos ⟨hu.symm, hbought⟩] at hheld
    rw [if_pos hu] at hspent hbal
    have hin : a.purchase.cost ∈ l.held := hheld ▸ Multiset.mem_cons_self _ _
    refine ⟨_, _, Ledger.run_settle hin hc hle, hw', (congrFun htop u).trans ht.limit, ?_, ?_, ?_⟩
    · rw [hspent, ht.spent]
      rfl
    · show heldOf _ _ = l.held.erase a.purchase.cost
      rw [hheld', hheld, Multiset.erase_cons_head]
    · show s'.balances.usdc u = l.limit - (l.spent + c + (l.held.erase a.purchase.cost).sum)
      rw [hbal, ht.balance, sum_erase hin]
      omega
  · rw [if_neg fun h => hu h.1.symm] at hheld
    rw [if_neg hu] at hspent hbal
    exact ⟨[], l, rfl, hw', (congrFun htop u).trans ht.limit, hspent.trans ht.spent, hheld'.trans hheld.symm,
      hbal.trans ht.balance⟩

/-- **One step, at most one ledger operation.** -/
theorem usdc_refines (u : Int64) : Machine.Refines usdcMachine (Ledger.machine usdcGauge) (UsdcState.Tracks u)
    fun s ev => ev.Allowed ∧ ev.Compensated s := by
  intro s l ev s' ht hg hstep
  have hdoes := usdcStep_does ht.well hg.1 hg.2 hstep
  have hw' := ht.well.step hdoes
  cases hdoes with
  | nothing hb hi htop hs =>
    exact ⟨[], l, rfl, hw', htop ▸ ht.limit, hs ▸ ht.spent, hi ▸ ht.held, hb ▸ ht.balance⟩
  | toppedUp v amount b h0 hb heq =>
    subst heq
    by_cases hu : u = v
    · subst hu
      refine ⟨_, _, Ledger.run_raise h0, hw', ?_, ht.spent, ht.held, ?_⟩
      · show Function.update s.toppedUp u _ u = l.limit + amount.toInt
        rw [Function.update_self, ht.limit]
      · rw [usdc_update, if_pos rfl]
        show b.toInt = l.limit + amount.toInt - (l.spent + l.held.sum)
        rw [hb, ht.balance]
        omega
    · refine ⟨[], l, rfl, hw', ?_, ht.spent, ht.held, ?_⟩
      · exact (Function.update_of_ne hu _ _).trans ht.limit
      · rw [usdc_update, if_neg hu]
        exact ht.balance
  | deducted p b hprice htokens hrow hcov hb heq =>
    subst heq
    by_cases hu : u = p.userId
    · subst hu
      have hneed : l.need p.cost ≤ l.limit := by
        have hbal := ht.balance
        show l.spent + l.held.sum + p.cost ≤ l.limit
        omega
      refine ⟨_, _, Ledger.run_reserve (Purchase.cost_nonneg hprice) hneed, hw', ht.limit, ht.spent, ?_, ?_⟩
      · rw [heldOf_cons, if_pos ⟨rfl, rfl⟩, ht.held]
        rfl
      · rw [usdc_update, if_pos rfl]
        show b.toInt = l.limit - (l.spent + (p.cost ::ₘ l.held).sum)
        rw [hb, ht.balance, Multiset.sum_cons]
        omega
    · refine ⟨[], l, rfl, hw', ht.limit, ht.spent, ?_, ?_⟩
      · rw [heldOf_cons, if_neg fun h => hu h.1.symm]
        exact ht.held
      · rw [usdc_update, if_neg hu]
        exact ht.balance
  | acquired a hmem hbought next hnext heq =>
    subst heq
    have hcost := Purchase.cost_nonneg (ht.well.acquisitions a hmem).1.price
    have hnew := heldOf_bought (fun a' ha' => (hnext a' ha').2.1) (s.inProgress.erase a)
    refine ht.settle hw' hmem hbought hcost le_rfl rfl ?_ (hnew u) ?_
    · show Function.update s.spent a.purchase.userId _ u = _
      rw [Function.update_apply]
      split
      · next hu => rw [hu]
      · rfl
    · rw [sub_self, add_zero, ite_self]
  | failed a hmem hbought e heq =>
    subst heq
    refine ⟨[], l, rfl, hw', ht.limit, ht.spent, ?_, ht.balance⟩
    rw [← ht.held, heldOf_cons, heldOf_erase hmem]
    simp only [hbought]
  | stored a hmem hbought tables heq =>
    subst heq
    refine ⟨[], l, rfl, hw', ht.limit, ht.spent, ?_, ht.balance⟩
    have hnot : ¬ (a.purchase.userId = u ∧ a.bought = false) := fun h => Bool.false_ne_true (h.2.symm.trans hbought)
    rw [← ht.held, heldOf_erase hmem, if_neg hnot]
  | refunded a hmem hbought b hb heq =>
    subst heq
    have hcost := Purchase.cost_nonneg (ht.well.acquisitions a hmem).1.price
    refine ht.settle hw' hmem hbought le_rfl hcost rfl ?_ rfl ?_
    · rw [add_zero, ite_self]
    · rw [usdc_update]
      split
      · next hu =>
        show b.toInt = _
        rw [hb, hu, sub_zero]
      · rfl

/-- A ledger for each user at the start. -/
theorem UsdcState.tracks_start {balances : CryptoBalances} (h : ∀ u, 0 ≤ balances.usdc u) (tables : StackTables)
    (u : Int64) : UsdcState.Tracks u (.start balances tables) (Ledger.fresh usdcGauge (balances.usdc u) (h u)) where
  well := ⟨fun a ha => absurd ha (Multiset.notMem_zero a), h⟩
  limit := rfl
  spent := rfl
  held := rfl
  balance := by
    show balances.usdc u = balances.usdc u - (0 + (0 : Multiset Int).sum)
    simp

/-- User 1 buys a stack at the price 5 for a request of 300 tokens. -/
def purchaseExample : Purchase := ⟨1, ⟨5, 5, 1000000, 7⟩, 300, "/v1/chat/completions"⟩

def stackEventExample : StackCreatedEvent := ⟨"owner", "0x1", 1, 5, 7, 1000000, 5⟩

/-- A transaction that is executed, with these events. -/
def entryAnswersExample (events : Option (List Value)) : EntryAnswers where
  prepared := .ok ()
  execution := .succeeded events
  parse := fun _ => .ok stackEventExample

def noTables : StackTables := ⟨fun _ => .none, [], ⟨fun _ => .none, fun _ => .none, [], []⟩⟩

def usdcRunExample : List UsdcEvent :=
  [.topUpBalance 1 12, .deductFromUsdc purchaseExample false,
    .acquireNewStackEntry ⟨purchaseExample, .entry, false⟩ (entryAnswersExample (.some [.null])),
    .newStackAcquired ⟨purchaseExample, .newStackAcquired stackEventExample, true⟩ false]

end AtomaProxy
