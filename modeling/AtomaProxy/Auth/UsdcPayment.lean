/-
`usdc_payment`: a user claims the USDC that a transaction paid the proxy.

The digest is recorded first, so that no two calls can credit it, and only
then is the transaction fetched and its payer confirmed. The part after the
recording is `claimBalance`; what the Sui node, the wallet and the state
manager answer it is its input. Sleeping between the tries is left out.
-/
import AtomaProxy.Auth.WalletSignature
import AtomaProxy.State.CryptoBalances

namespace AtomaProxy

open Base

def suiBalanceRetryCount : Nat := 5

/-- `TypeTag`, of a coin. -/
inductive TypeTag where
  | struct (address module name : String)
  | other
  deriving DecidableEq, Repr

inductive Owner where
  | addressOwner (address : SuiAddress)
  /-- an object, shared and immutable ones -/
  | other (text : String)
  deriving DecidableEq, Repr

structure BalanceChange where
  owner : Owner
  coinType : TypeTag
  amount : Int
  deriving DecidableEq, Repr

/-- The three mutable options of the scan. -/
structure PaymentScan where
  sender : Option SuiAddress
  receiver : Option SuiAddress
  moneyIn : Option Int
  deriving DecidableEq, Repr

def Owner.orElse (o : Owner) (old : Option SuiAddress) : Option SuiAddress :=
  match o with
  | .addressOwner address => .some address
  | .other _ => old

/-- The scan of one balance change: of a coin, the package alone is looked at. -/
def PaymentScan.step (usdcPackageId : String) (s : PaymentScan) (b : BalanceChange) : Except AuthError PaymentScan :=
  match b.coinType with
  | .other => .ok s
  | .struct address _ _ =>
    if address ≠ usdcPackageId then .ok s
    else if b.amount < 0 then
      if s.sender.isSome then .error .multipleSenders
      else .ok { s with sender := b.owner.orElse s.sender }
    else
      if s.receiver.isSome then .error .multipleReceivers
      else .ok { s with moneyIn := .some b.amount, receiver := b.owner.orElse s.receiver }

def PaymentScan.run (usdcPackageId : String) (s : PaymentScan) : List BalanceChange → Except AuthError PaymentScan
  | [] => .ok s
  | b :: bs => do run usdcPackageId (← s.step usdcPackageId b) bs

/-- What a transaction paid: from whom, to whom, how much. -/
structure Payment where
  sender : SuiAddress
  receiver : SuiAddress
  moneyIn : Option Int
  deriving DecidableEq, Repr

def paymentOf (usdcPackageId : String) (balanceChanges : List BalanceChange) : Except AuthError Payment := do
  let scan ← PaymentScan.run usdcPackageId ⟨.none, .none, .none⟩ balanceChanges
  match scan.sender, scan.receiver with
  | .some sender, .some receiver => .ok ⟨sender, receiver, scan.moneyIn⟩
  | _, _ => .error .senderOrReceiverNotFound

/-- What the service is configured with. -/
structure AuthConfig where
  usdcPackageId : String
  /-- the feature `google-oauth` -/
  googleOauth : Bool
  deriving DecidableEq, Repr

/-- What a call is answered after its digest is recorded. -/
structure PaymentAnswers where
  /-- `TransactionDigest::from_str` accepts the digest -/
  digestParses : Bool
  /-- `get_balance_changes`, at each try -/
  balanceChanges : Nat → Except String (Option (List BalanceChange))
  /-- `get_wallet_address` -/
  walletAddress : Except String SuiAddress
  /-- `ConfirmUser`, for the sender -/
  confirmUser : SuiAddress → Except AtomaStateManagerError Bool

/-- The loop over the tries left, from try `i`; `last` is the last answer. -/
def fetchBalanceChanges (answers : Nat → Except String (Option (List BalanceChange))) :
    Nat → Nat → Except String (Option (List BalanceChange)) → Except String (Option (List BalanceChange))
  | 0, _, last => last
  | tries + 1, i, _ =>
    match answers i with
    | .ok changes => .ok changes
    | .error e => fetchBalanceChanges answers tries (i + 1) (.error e)

/-- What a call asks for. -/
structure PaymentCall where
  userId : Int64
  transactionDigest : String
  zkProofSignature : Option String
  deriving DecidableEq, Repr

/-- The match on `zk_proof_signature`: the sender is the caller's, by a signature of the digest or by the
wallet registered. -/
def confirmPayer (cfg : AuthConfig) (c : WalletCrypto) (call : PaymentCall) (sender : SuiAddress)
    (answers : PaymentAnswers) : Ending AuthError Unit :=
  match call.zkProofSignature with
  | .some signature =>
    if cfg.googleOauth then do
      let address ← getSuiAddressFromSignature c signature call.transactionDigest
      if sender.text ≠ address.text then .err .paymentNotForThisUser else pure ()
    else .err .zkLoginNotEnabled
  | .none => do
    let isTheirWallet ← .ofExcept ((answers.confirmUser sender).mapError .atomaStateManagerError)
    if isTheirWallet then pure () else .err .paymentNotForThisUser

/-- `i64::try_from(money_in.unwrap())`. -/
def topUpAmount (moneyIn : Option Int) : Ending AuthError Int64 :=
  match moneyIn with
  | .none => .panic
  | .some amount =>
    match i64OfInt? amount with
    | .some amount => .ok amount
    | .none => .err (.anyhowError "Failed to convert amount: out of range integral type conversion attempted")

/-- The fetch and the scan: what the transaction paid. -/
def fetchPayment (cfg : AuthConfig) (answers : PaymentAnswers) : Except AuthError Payment := do
  let changes ← (fetchBalanceChanges answers.balanceChanges suiBalanceRetryCount 0
    (.error "No balance changes found")).mapError .anyhowError
  match changes with
  | .none => .error .noBalanceChangesFound
  | .some changes => paymentOf cfg.usdcPackageId changes

/-- `usdc_payment` once the digest is recorded. -/
def claimBalance (cfg : AuthConfig) (c : WalletCrypto) (call : PaymentCall) (answers : PaymentAnswers) :
    Eff AuthEvent AuthError Unit := do
  if !answers.digestParses then
    .panicked
  else
    let payment ← .ofExcept (fetchPayment cfg answers)
    let ownAddress ← .ofExcept (answers.walletAddress.mapError .anyhowError)
    if payment.receiver = ownAddress then
      .ofEnding (confirmPayer cfg c call payment.sender answers)
      let amount ← .ofEnding (topUpAmount payment.moneyIn)
      .send (.topUpBalance call.userId amount)
    else
      pure ()

/-- `usdc_payment`, for what the token's validation and `InsertNewUsdcPaymentDigest` answer. -/
def usdcPayment (cfg : AuthConfig) (c : WalletCrypto) (token : Except AuthError Int64) (transactionDigest : String)
    (zkProofSignature : Option String) (inserted : Except AtomaStateManagerError Unit) (answers : PaymentAnswers) :
    Eff AuthEvent AuthError Unit := do
  let userId ← .ofExcept token
  .ofExcept (inserted.mapError .atomaStateManagerError)
  claimBalance cfg c ⟨userId, transactionDigest, zkProofSignature⟩ answers

/-! ## What the scan finds -/

def usdcCoin (usdcPackageId : String) : TypeTag := .struct usdcPackageId "usdc" "USDC"

/-- What a wallet gained of USDC. -/
def walletGain (usdcPackageId : String) (own : SuiAddress) (changes : List BalanceChange) : Int :=
  ((changes.filter fun b => b.owner = .addressOwner own ∧ b.coinType = usdcCoin usdcPackageId).map
    BalanceChange.amount).sum

/-- A transaction's balance changes name each owner and coin once, and no coin of the USDC package beside USDC. -/
structure ChangesWellFormed (usdcPackageId : String) (changes : List BalanceChange) : Prop where
  nodup : (changes.map fun b => (b.owner, b.coinType)).Nodup
  usdc : ∀ b ∈ changes, ∀ module name, b.coinType = .struct usdcPackageId module name →
    b.coinType = usdcCoin usdcPackageId

section Scan

variable {pkg : String} {s s' : PaymentScan}

/-- A change that is not a gain leaves the receiver; a gain is refused where there is one. -/
theorem PaymentScan.step_cases {b : BalanceChange} (h : s.step pkg b = .ok s') :
    (s'.receiver = s.receiver ∧ s'.moneyIn = s.moneyIn) ∨
      ((∃ module name, b.coinType = .struct pkg module name) ∧ 0 ≤ b.amount ∧ s.receiver = .none ∧
        s'.moneyIn = .some b.amount ∧ s'.receiver = b.owner.orElse .none) := by
  unfold step at h
  split at h
  · cases h
    exact .inl ⟨rfl, rfl⟩
  · next address module name hcoin =>
    split at h
    · cases h
      exact .inl ⟨rfl, rfl⟩
    · next hpkg =>
      rw [not_not] at hpkg
      split at h
      · split at h
        · cases h
        · cases h
          exact .inl ⟨rfl, rfl⟩
      · next hamount =>
        split at h
        · cases h
        · next hr =>
          rw [Option.not_isSome_iff_eq_none] at hr
          cases h
          exact .inr ⟨⟨module, name, hpkg ▸ hcoin⟩, Int.not_lt.1 hamount, hr, rfl, by rw [hr]⟩

theorem PaymentScan.run_of_received {l : List BalanceChange} {r} (hr : s.receiver = .some r)
    (h : s.run pkg l = .ok s') : s'.receiver = .some r ∧ s'.moneyIn = s.moneyIn := by
  induction l generalizing s with
  | nil =>
    cases h
    exact ⟨hr, rfl⟩
  | cons b l ih =>
    obtain ⟨s₁, h₁, h⟩ := ok_bind_iff.1 h
    rcases PaymentScan.step_cases h₁ with ⟨hr₁, hm₁⟩ | ⟨_, _, hnone, _⟩
    · obtain ⟨hr', hm'⟩ := ih (hr₁.trans hr) h
      exact ⟨hr', hm'.trans hm₁⟩
    · rw [hr] at hnone
      cases hnone

/-- The receiver found is the owner of a gain, and the money found is that gain. -/
theorem PaymentScan.run_receiver {l : List BalanceChange} {own} (hnone : s.receiver = .none)
    (h : s.run pkg l = .ok s') (hown : s'.receiver = .some own) : ∃ b ∈ l, b.owner = .addressOwner own ∧
      (∃ module name, b.coinType = .struct pkg module name) ∧ 0 ≤ b.amount ∧ s'.moneyIn = .some b.amount := by
  induction l generalizing s with
  | nil =>
    cases h
    rw [hnone] at hown
    cases hown
  | cons b l ih =>
    obtain ⟨s₁, h₁, h⟩ := ok_bind_iff.1 h
    rcases PaymentScan.step_cases h₁ with ⟨hr₁, _⟩ | ⟨hcoin, hamount, _, hm₁, hr₁⟩
    · obtain ⟨b', hb', hrest⟩ := ih (hr₁.trans hnone) h
      exact ⟨b', List.mem_cons_of_mem b hb', hrest⟩
    · cases ho : b.owner with
      | other text =>
        rw [ho] at hr₁
        obtain ⟨b', hb', hrest⟩ := ih hr₁ h
        exact ⟨b', List.mem_cons_of_mem b hb', hrest⟩
      | addressOwner address =>
        rw [ho] at hr₁
        obtain ⟨hr', hm'⟩ := PaymentScan.run_of_received hr₁ h
        cases hr'.symm.trans hown
        exact ⟨b, List.mem_cons_self, ho, hcoin, hamount, hm'.trans hm₁⟩

/-- With keys that occur once, the entries of one key are one entry. -/
theorem sum_filter_of_nodup {α κ : Type _} [DecidableEq κ] {key : α → κ} (f : α → Int) {l : List α} {a : α}
    (hl : (l.map key).Nodup) (ha : a ∈ l) : ((l.filter fun x => key x = key a).map f).sum = f a := by
  induction l with
  | nil => cases ha
  | cons b l ih =>
    rw [List.map_cons, List.nodup_cons] at hl
    rcases List.mem_cons.1 ha with rfl | hmem
    · have hnone : (l.filter fun x => key x = key a) = [] := by
        rw [List.filter_eq_nil_iff]
        intro x hx hk
        exact hl.1 (of_decide_eq_true hk ▸ List.mem_map_of_mem hx)
      rw [List.filter_cons_of_pos (by simp), hnone]
      simp
    · have hne : key b ≠ key a := fun he => hl.1 (he ▸ List.mem_map_of_mem hmem)
      rw [List.filter_cons_of_neg (by simpa using hne)]
      exact ih hl.2 hmem

/-- The money found is what the receiver gained. -/
theorem walletGain_of_payment {changes : List BalanceChange} {payment : Payment}
    (hw : ChangesWellFormed pkg changes) (h : paymentOf pkg changes = .ok payment) :
    ∃ amount, payment.moneyIn = .some amount ∧ 0 ≤ amount ∧ walletGain pkg payment.receiver changes = amount := by
  obtain ⟨scan, hscan, h⟩ := ok_bind_iff.1 h
  split at h
  · next sender receiver hs hr =>
    cases h
    obtain ⟨b, hb, howner, ⟨module, name, hcoin⟩, hamount, hmoney⟩ := PaymentScan.run_receiver rfl hscan hr
    refine ⟨b.amount, hmoney, hamount, ?_⟩
    have hkey := sum_filter_of_nodup BalanceChange.amount hw.nodup hb
    simp only [Prod.mk.injEq, howner, hw.usdc b hb module name hcoin] at hkey
    exact hkey
  · cases h

end Scan

theorem fetchBalanceChanges_ok {answers} {tries i : Nat} {last changes}
    (h : fetchBalanceChanges answers tries i last = .ok changes) :
    last = .ok changes ∨ ∃ j, answers j = .ok changes := by
  induction tries generalizing i last with
  | zero => exact .inl h
  | succ tries ih =>
    unfold fetchBalanceChanges at h
    split at h
    · next changes' ha => exact .inr ⟨i, ha.trans h⟩
    · exact .inr ((ih h).resolve_left nofun)

theorem fetchPayment_ok {cfg : AuthConfig} {answers payment} (h : fetchPayment cfg answers = .ok payment) :
    ∃ j changes, answers.balanceChanges j = .ok (.some changes) ∧ paymentOf cfg.usdcPackageId changes = .ok payment := by
  obtain ⟨changes, hfetch, h⟩ := ok_bind_iff.1 h
  cases changes with
  | none => cases h
  | some changes =>
    rcases fetchBalanceChanges_ok (mapError_eq_ok.1 hfetch) with hlast | ⟨j, hj⟩
    · cases hlast
    · exact ⟨j, changes, hj, h⟩

theorem topUpAmount_ok {moneyIn : Option Int} {amount : Int64} (h : topUpAmount moneyIn = .ok amount) :
    moneyIn = .some amount.toInt := by
  cases moneyIn with
  | none => cases h
  | some m =>
    unfold topUpAmount at h
    dsimp only at h
    split at h
    · next a ha =>
      cases h
      rw [i64OfInt?_eq_some.1 ha]
    · cases h

/-! ## When a call credits -/

/-- The call is answered what it takes to credit: the transaction paid the proxy's wallet, the payer is confirmed,
and the amount fits. -/
structure Credits (cfg : AuthConfig) (c : WalletCrypto) (call : PaymentCall) (answers : PaymentAnswers)
    (payment : Payment) (amount : Int64) : Prop where
  digestParses : answers.digestParses = true
  fetched : fetchPayment cfg answers = .ok payment
  received : answers.walletAddress = .ok payment.receiver
  confirmed : confirmPayer cfg c call payment.sender answers = .ok ()
  converted : topUpAmount payment.moneyIn = .ok amount

theorem claimBalance_of_credits {cfg c call answers payment amount} (h : Credits cfg c call answers payment amount) :
    claimBalance cfg c call answers = ⟨[.topUpBalance call.userId amount], .ok ()⟩ := by
  unfold claimBalance
  simp [h.digestParses, h.fetched, h.received, h.confirmed, h.converted, Except.mapError, Eff.send]

/-- A call sends a credit where it is answered that, and nothing where it is not. -/
theorem claimBalance_cases (cfg c call answers) :
    (∃ payment amount, Credits cfg c call answers payment amount) ∨ (claimBalance cfg c call answers).sent = [] := by
  unfold claimBalance
  cases hd : answers.digestParses with
  | false => exact .inr rfl
  | true =>
    cases hp : fetchPayment cfg answers with
    | error e => exact .inr rfl
    | ok payment =>
      cases hw : answers.walletAddress with
      | error e => exact .inr rfl
      | ok ownAddress =>
        by_cases hr : payment.receiver = ownAddress
        · cases hc : confirmPayer cfg c call payment.sender answers with
          | err e => exact .inr (by simp [hr, hc, Except.mapError])
          | panic => exact .inr (by simp [hr, hc, Except.mapError])
          | ok _ =>
            cases ha : topUpAmount payment.moneyIn with
            | err e => exact .inr (by simp [hr, hc, ha, Except.mapError])
            | panic => exact .inr (by simp [hr, hc, ha, Except.mapError])
            | ok amount => exact .inl ⟨payment, amount, hd, hp, hr ▸ hw, hc, ha⟩
        · exact .inr (by simp [hr, Except.mapError])

end AtomaProxy
