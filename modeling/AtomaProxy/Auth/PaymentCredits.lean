/-
Over whole runs of payment calls: a digest is credited at most once, with what
the proxy's wallet gained, and stays claimable until it is.

The calls of any users interleave between the recording of the digest, the
rest of the call and the handling of its top-up. The first two results hold of
every run. The third holds of the runs whose calls, once their digest is
recorded, all credit it: a call that ends otherwise has used the digest up.
-/
import AtomaProxy.Auth.WalletProof
import AtomaProxy.Base.Machine

namespace AtomaProxy

open Base

/-- A top-up, and the digest it is of. -/
structure Credit where
  digest : String
  userId : Int64
  amount : Int64
  deriving DecidableEq, Repr

/-- What the calls share, and what became of them. -/
structure PaymentState where
  digests : UsdcPaymentDigests
  balances : CryptoBalances
  /-- the calls that recorded their digest and have not ended -/
  inFlight : List PaymentCall
  /-- the top-ups sent and not handled -/
  queued : List Credit
  /-- the top-ups handled -/
  credits : List Credit

def PaymentState.empty : PaymentState := ⟨fun _ => .none, fun _ => .none, [], [], []⟩

inductive PaymentEvent where
  /-- a call's `InsertNewUsdcPaymentDigest` is handled -/
  | record (call : PaymentCall)
  /-- the rest of the call, for what it is answered -/
  | finish (call : PaymentCall) (answers : PaymentAnswers)
  /-- the next `TopUpBalance` is handled -/
  | topUp

/-- The credit that an event of a call of the digest is. -/
def AuthEvent.credit (digest : String) : AuthEvent → Option Credit
  | .topUpBalance userId amount => .some ⟨digest, userId, amount⟩
  | .updateSuiAddress _ _ => .none

section

variable (cfg : AuthConfig) (c : WalletCrypto)

/-- One step; a call whose digest is not recorded ends, and a top-up that fails is lost. -/
def paymentStep (s : PaymentState) : PaymentEvent → Option PaymentState
  | .record call =>
    match insertNewUsdcPaymentDigest s.digests call.transactionDigest with
    | .ok digests => .some { s with digests, inFlight := call :: s.inFlight }
    | .error _ => .some s
  | .finish call answers =>
    if call ∈ s.inFlight then
      .some { s with
        inFlight := s.inFlight.erase call
        queued := s.queued ++
          (claimBalance cfg c call answers).sent.filterMap (AuthEvent.credit call.transactionDigest) }
    else .none
  | .topUp =>
    match s.queued with
    | [] => .none
    | q :: rest =>
      match topUpCryptoBalance s.balances q.userId q.amount with
      | .ok balances => .some { s with balances, queued := rest, credits := q :: s.credits }
      | .error _ => .some { s with queued := rest }

def paymentMachine : Machine PaymentState PaymentEvent := ⟨paymentStep cfg c⟩

end

/-! ## What a step can do -/

variable {cfg : AuthConfig} {c : WalletCrypto} {s s' : PaymentState}

/-- A recording is refused, or it is of a digest that was not recorded. -/
theorem record_cases {call : PaymentCall} (h : paymentStep cfg c s (.record call) = .some s') :
    s' = s ∨ s.digests call.transactionDigest = .none ∧ s' = { s with
      digests := Function.update s.digests call.transactionDigest (.some ()), inFlight := call :: s.inFlight } := by
  unfold paymentStep at h
  dsimp only at h
  split at h
  · next digests hins =>
    obtain ⟨hnone, rfl⟩ := insertNewUsdcPaymentDigest_ok.1 hins
    exact .inr ⟨hnone, (Option.some.inj h).symm⟩
  · exact .inl (Option.some.inj h).symm

/-- A call in flight ends, with a credit sent where it is answered what that takes. -/
theorem finish_cases {call : PaymentCall} {answers} (h : paymentStep cfg c s (.finish call answers) = .some s') :
    call ∈ s.inFlight ∧
      ((∃ payment amount, Credits cfg c call answers payment amount ∧ s' = { s with
          inFlight := s.inFlight.erase call
          queued := s.queued ++ [⟨call.transactionDigest, call.userId, amount⟩] }) ∨
        ((∀ payment amount, ¬ Credits cfg c call answers payment amount) ∧
          s' = { s with inFlight := s.inFlight.erase call })) := by
  unfold paymentStep at h
  dsimp only at h
  split at h
  · next hmem =>
    refine ⟨hmem, ?_⟩
    rw [Option.some.injEq] at h
    by_cases hc : ∃ payment amount, Credits cfg c call answers payment amount
    · obtain ⟨payment, amount, hcredits⟩ := hc
      rw [claimBalance_of_credits hcredits] at h
      exact .inl ⟨payment, amount, hcredits, h.symm⟩
    · have hnone : (claimBalance cfg c call answers).sent = [] :=
        (claimBalance_cases cfg c call answers).resolve_left hc
      rw [hnone, List.filterMap_nil, List.append_nil] at h
      exact .inr ⟨fun payment amount hcr => hc ⟨payment, amount, hcr⟩, h.symm⟩
  · cases h

/-- The next top-up is handled, or it fails and is lost. -/
theorem topUp_cases (h : paymentStep cfg c s .topUp = .some s') : ∃ q rest, s.queued = q :: rest ∧
    ((∃ balances, topUpCryptoBalance s.balances q.userId q.amount = .ok balances ∧
        s' = { s with balances, queued := rest, credits := q :: s.credits }) ∨
      ((∃ e, topUpCryptoBalance s.balances q.userId q.amount = .error e) ∧ s' = { s with queued := rest })) := by
  unfold paymentStep at h
  dsimp only at h
  split at h
  · cases h
  · next q rest hq =>
    refine ⟨q, rest, hq, ?_⟩
    split at h
    · next balances hb => exact .inl ⟨balances, hb, (Option.some.inj h).symm⟩
    · next e he => exact .inr ⟨⟨e, he⟩, (Option.some.inj h).symm⟩

/-! ## The digest's account -/

/-- The calls, top-ups and credits of a digest. -/
def PaymentState.outstanding (s : PaymentState) (digest : String) : Nat :=
  s.inFlight.countP (fun call => call.transactionDigest = digest) +
    s.queued.countP (fun q => q.digest = digest) + s.credits.countP fun q => q.digest = digest

def PaymentState.recorded (s : PaymentState) (digest : String) : Nat := if (s.digests digest).isSome then 1 else 0

/-- The condition: a call that recorded its digest is answered what it takes to credit, and the top-up handled
next does not take the user's balance out of range. -/
def PaymentEvent.Credited (cfg : AuthConfig) (c : WalletCrypto) (s : PaymentState) : PaymentEvent → Prop
  | .record _ => True
  | .finish call answers => ∃ payment amount, Credits cfg c call answers payment amount
  | .topUp => ∀ q rest, s.queued = q :: rest → s.balances.usdc q.userId + q.amount.toInt < 2 ^ 63

/-- The balances and amounts of a state are not negative. -/
structure PaymentState.NonNegative (s : PaymentState) : Prop where
  balances : ∀ userId, 0 ≤ s.balances.usdc userId
  queued : ∀ q ∈ s.queued, 0 ≤ q.amount.toInt

theorem topUp_fits {t : CryptoBalances} {u a : Int64} (ht : 0 ≤ t.usdc u) (ha : 0 ≤ a.toInt)
    (h : t.usdc u + a.toInt < 2 ^ 63) : ∃ t', topUpCryptoBalance t u a = .ok t' := by
  have hin : InI64 (t.usdc u + a.toInt) := by
    unfold InI64
    omega
  exact ⟨_, topUpCryptoBalance_ok.2 ⟨ha, Int64.ofInt (t.usdc u + a.toInt), toInt_ofInt hin, by
    rw [toInt_ofInt hin]; omega, rfl⟩⟩

/-- No step gives a digest more than it records, and a credited one gives it as much. -/
theorem outstanding_step {ev} (h : paymentStep cfg c s ev = .some s') (d : String) :
    s'.outstanding d + s.recorded d ≤ s.outstanding d + s'.recorded d ∧ (s.NonNegative → ev.Credited cfg c s →
      s'.outstanding d + s.recorded d = s.outstanding d + s'.recorded d) := by
  cases ev with
  | record call =>
    rcases record_cases h with rfl | ⟨hnone, rfl⟩
    · exact ⟨le_rfl, fun _ _ => rfl⟩
    · suffices hk : PaymentState.outstanding _ d + s.recorded d = s.outstanding d + PaymentState.recorded _ d from
        ⟨hk.le, fun _ _ => hk⟩
      by_cases hd : call.transactionDigest = d
      · subst hd
        simp [PaymentState.outstanding, PaymentState.recorded, hnone]
        omega
      · simp [PaymentState.outstanding, PaymentState.recorded, hd, Function.update_of_ne (Ne.symm hd)]
  | finish call answers =>
    obtain ⟨hmem, hcases⟩ := finish_cases h
    have herase := (List.perm_cons_erase hmem).countP_eq fun call => decide (call.transactionDigest = d)
    rw [List.countP_cons] at herase
    rcases hcases with ⟨payment, amount, _, rfl⟩ | ⟨hnone, rfl⟩
    · suffices hk : PaymentState.outstanding _ d = s.outstanding d from ⟨by rw [hk]; rfl, fun _ _ => by rw [hk]; rfl⟩
      simp only [PaymentState.outstanding, herase, List.countP_append, List.countP_cons, List.countP_nil]
      omega
    · refine ⟨?_, fun _ hc => ?_⟩
      · simp only [PaymentState.outstanding, PaymentState.recorded]
        omega
      · obtain ⟨payment, amount, hcr⟩ := hc
        exact absurd hcr (hnone payment amount)
  | topUp =>
    obtain ⟨q, rest, hq, hcases⟩ := topUp_cases h
    rcases hcases with ⟨balances, _, rfl⟩ | ⟨⟨e, he⟩, rfl⟩
    · suffices hk : PaymentState.outstanding _ d = s.outstanding d from ⟨by rw [hk]; rfl, fun _ _ => by rw [hk]; rfl⟩
      simp only [PaymentState.outstanding, hq, List.countP_cons]
      omega
    · refine ⟨?_, fun hnn hc => ?_⟩
      · simp only [PaymentState.outstanding, PaymentState.recorded, hq, List.countP_cons]
        omega
      · obtain ⟨t', ht'⟩ := topUp_fits (hnn.balances q.userId) (hnn.queued q (hq ▸ List.mem_cons_self)) (hc q rest hq)
        rw [ht'] at he
        cases he

/-! ## Every run: at most once, and exactly -/

section

variable (cfg : AuthConfig) (c : WalletCrypto) (own : SuiAddress) (chain : String → List BalanceChange)

/-- What a call is answered is so: the balance changes are the transaction's, the wallet is the proxy's. -/
def PaymentEvent.Honest : PaymentEvent → Prop
  | .finish call answers =>
    (∀ i changes, answers.balanceChanges i = .ok (.some changes) → changes = chain call.transactionDigest) ∧
      ∀ wallet, answers.walletAddress = .ok wallet → wallet = own
  | _ => True

/-- The invariant of every run. -/
structure PaymentState.Tracked (s : PaymentState) : Prop where
  balances : ∀ userId, 0 ≤ s.balances.usdc userId
  exact : ∀ q, q ∈ s.queued ∨ q ∈ s.credits →
    0 ≤ q.amount.toInt ∧ q.amount.toInt = walletGain cfg.usdcPackageId own (chain q.digest)
  once : ∀ digest, s.outstanding digest ≤ s.recorded digest

/-- The invariant of the runs that meet the condition: what is recorded is on its way or credited. -/
structure PaymentState.Balanced (s : PaymentState) : Prop extends s.Tracked cfg own chain where
  all : ∀ digest, s.outstanding digest = s.recorded digest

/-- What the payments of a state are: a digest is credited at most once, with what the wallet gained, and one
without a call or a credit can be recorded, and is credited by a call that is answered what that takes. -/
structure PaymentState.Sound (s : PaymentState) : Prop where
  once : ∀ digest, s.credits.countP (fun q => q.digest = digest) ≤ 1
  exact : ∀ q ∈ s.credits, q.amount.toInt = walletGain cfg.usdcPackageId own (chain q.digest)
  claimable : ∀ digest, s.outstanding digest = 0 → s.digests digest = .none ∧
    ∀ call answers payment amount, call.transactionDigest = digest → Credits cfg c call answers payment amount →
      ∃ s', (paymentMachine cfg c).run s [.record call, .finish call answers] = .some s' ∧
        ⟨digest, call.userId, amount⟩ ∈ s'.queued

end

variable {own : SuiAddress} {chain : String → List BalanceChange}

theorem PaymentState.tracked_empty : PaymentState.empty.Tracked cfg own chain :=
  ⟨fun _ => le_rfl, fun _ h => (h.elim nofun nofun), fun _ => Nat.zero_le _⟩

/-- A call that credits does so with what the wallet gained. -/
theorem Credits.gain (hw : ∀ digest, ChangesWellFormed cfg.usdcPackageId (chain digest)) {call answers payment amount}
    (hh : PaymentEvent.Honest own chain (.finish call answers)) (h : Credits cfg c call answers payment amount) :
    0 ≤ amount.toInt ∧ amount.toInt = walletGain cfg.usdcPackageId own (chain call.transactionDigest) := by
  obtain ⟨j, changes, hj, hpay⟩ := fetchPayment_ok h.fetched
  cases hh.1 j changes hj
  obtain ⟨m, hmoney, hpos, hgain⟩ := walletGain_of_payment (hw call.transactionDigest) hpay
  cases hmoney.symm.trans (topUpAmount_ok h.converted)
  exact ⟨hpos, by rw [← hh.2 _ h.received, hgain]⟩

/-- **Step lemma.** -/
theorem PaymentState.Tracked.step (hw : ∀ digest, ChangesWellFormed cfg.usdcPackageId (chain digest)) {ev}
    (hs : s.Tracked cfg own chain) (hh : ev.Honest own chain) (h : paymentStep cfg c s ev = .some s') :
    s'.Tracked cfg own chain := by
  refine ⟨?_, ?_, fun d => ?_⟩
  · cases ev with
    | record call => rcases record_cases h with rfl | ⟨_, rfl⟩ <;> exact hs.balances
    | finish call answers =>
      rcases (finish_cases h).2 with ⟨_, _, _, rfl⟩ | ⟨_, rfl⟩ <;> exact hs.balances
    | topUp =>
      obtain ⟨q, rest, _, ⟨balances, hb, rfl⟩ | ⟨_, rfl⟩⟩ := topUp_cases h
      · obtain ⟨_, b, _, hpos, rfl⟩ := topUpCryptoBalance_ok.1 hb
        intro u
        show 0 ≤ CryptoBalances.usdc _ u
        rw [usdc_update]
        split
        · exact hpos
        · exact hs.balances u
      · exact hs.balances
  · cases ev with
    | record call => rcases record_cases h with rfl | ⟨_, rfl⟩ <;> exact hs.exact
    | finish call answers =>
      rcases (finish_cases h).2 with ⟨payment, amount, hcr, rfl⟩ | ⟨_, rfl⟩
      · intro q hq
        rcases hq with hq | hq
        · rcases List.mem_append.1 hq with hq | hq
          · exact hs.exact q (.inl hq)
          · cases List.mem_singleton.1 hq
            exact hcr.gain hw hh
        · exact hs.exact q (.inr hq)
      · exact hs.exact
    | topUp =>
      obtain ⟨q, rest, hq, ⟨balances, _, rfl⟩ | ⟨_, rfl⟩⟩ := topUp_cases h
      · intro q' hq'
        rcases hq' with hq' | hq'
        · exact hs.exact q' (.inl (hq ▸ List.mem_cons_of_mem q hq'))
        · rcases List.mem_cons.1 hq' with rfl | hq'
          · exact hs.exact q' (.inl (hq ▸ List.mem_cons_self))
          · exact hs.exact q' (.inr hq')
      · exact fun q' hq' => hs.exact q' (hq'.imp_left fun hmem => hq ▸ List.mem_cons_of_mem q hmem)
  · have hstep := (outstanding_step h d).1
    have honce := hs.once d
    omega

theorem PaymentState.Tracked.nonNegative (hs : s.Tracked cfg own chain) : s.NonNegative :=
  ⟨hs.balances, fun q hq => (hs.exact q (.inl hq)).1⟩

/-- Every run credits a digest at most once, counting the top-ups on their way, and with what the wallet gained. -/
theorem credited_once_exactly (hw : ∀ digest, ChangesWellFormed cfg.usdcPackageId (chain digest)) {evs}
    (hg : (paymentMachine cfg c).Guarded (fun _ ev => ev.Honest own chain) .empty evs)
    (hrun : (paymentMachine cfg c).run .empty evs = .some s) : s.Tracked cfg own chain :=
  Machine.run_invariant (fun hs hh h => hs.step hw hh h) PaymentState.tracked_empty hg hrun

/-- **Step lemma.** -/
theorem PaymentState.Balanced.step (hw : ∀ digest, ChangesWellFormed cfg.usdcPackageId (chain digest)) {ev}
    (hs : s.Balanced cfg own chain) (hh : ev.Honest own chain ∧ ev.Credited cfg c s)
    (h : paymentStep cfg c s ev = .some s') : s'.Balanced cfg own chain := by
  refine ⟨hs.toTracked.step hw hh.1 h, fun d => ?_⟩
  have hstep := (outstanding_step h d).2 hs.toTracked.nonNegative hh.2
  have hall := hs.all d
  omega

/-- A call of a digest that is not recorded, answered what it takes, credits it. -/
theorem run_credits {call answers payment amount} (hnone : s.digests call.transactionDigest = .none)
    (hcr : Credits cfg c call answers payment amount) :
    ∃ s', (paymentMachine cfg c).run s [.record call, .finish call answers] = .some s' ∧
      ⟨call.transactionDigest, call.userId, amount⟩ ∈ s'.queued := by
  have hins := insertNewUsdcPaymentDigest_ok.2 ⟨hnone, rfl⟩
  refine ⟨_, Machine.run_cons.2 ⟨_, by simp only [paymentMachine, paymentStep, hins]; rfl,
    Machine.run_cons.2 ⟨_, by simp only [paymentMachine, paymentStep, List.mem_cons_self, if_true,
      claimBalance_of_credits hcr]; rfl, rfl⟩⟩, ?_⟩
  exact List.mem_append_right _ (by simp [AuthEvent.credit])

/-- A transaction that pays the proxy's wallet a hundred. -/
def chainExample (digest : String) : List BalanceChange :=
  if digest = "D1" then
    [⟨.addressOwner ⟨"0xa"⟩, usdcCoin "0x5", -100⟩, ⟨.addressOwner ⟨"0xc"⟩, usdcCoin "0x5", 100⟩]
  else []

theorem chainExample_wellFormed (digest : String) :
    ChangesWellFormed authConfigExample.usdcPackageId (chainExample digest) := by
  unfold chainExample
  split
  · refine ⟨by decide, fun b hb _ _ _ => ?_⟩
    rcases List.mem_cons.1 hb with rfl | hb
    · rfl
    · cases List.mem_singleton.1 hb
      rfl
  · exact ⟨List.nodup_nil, nofun⟩

/-- A call that finds the transaction at the second try. -/
def paymentAnswersExample (isTheirWallet : Bool) : PaymentAnswers where
  digestParses := true
  balanceChanges := fun i => if i = 0 then .error "not found" else .ok (.some (chainExample "D1"))
  walletAddress := .ok ⟨"0xc"⟩
  confirmUser := fun _ => .ok isTheirWallet

def paymentCallExample (userId : Int64) : PaymentCall := ⟨userId, "D1", .none⟩

theorem paymentAnswersExample_honest (userId : Int64) (isTheirWallet : Bool) :
    PaymentEvent.Honest ⟨"0xc"⟩ chainExample
      (.finish (paymentCallExample userId) (paymentAnswersExample isTheirWallet)) := by
  refine ⟨fun i changes h => ?_, fun wallet h => ?_⟩
  · unfold paymentAnswersExample at h
    dsimp only at h
    split at h
    · cases h
    · cases h
      rfl
  · cases h
    rfl

theorem paymentExample_credits : Credits authConfigExample walletCryptoExample (paymentCallExample 1)
    (paymentAnswersExample true) ⟨⟨"0xa"⟩, ⟨"0xc"⟩, .some 100⟩ 100 := ⟨rfl, rfl, rfl, rfl, rfl⟩

def paymentRunExample : List PaymentEvent :=
  [.record (paymentCallExample 1), .finish (paymentCallExample 1) (paymentAnswersExample true), .topUp]

end AtomaProxy
