/-
Whose payments are credited. A user registers a wallet with a signature that
names the user, and a payment is credited to the user whose wallet paid it, as
the state manager confirms, or to one who has a signature of the wallet's over
the digest.

Registrations, confirmations and the calls that claim payments interleave, and
a user may register another wallet at any time; so what a credit rests on is
the wallet that was the user's when the payer was confirmed.
-/
import AtomaProxy.Auth.PaymentCredits
import AtomaProxy.Base.Channel
import AtomaProxy.Base.Log
import Mathlib.Data.List.Induction

namespace AtomaProxy

open Base

/-! ## The column -/

/-- The column `sui_address` of `users`, by id. -/
abbrev SuiAddresses := Table Int64 (Option String)

namespace SuiAddresses

/-- `update_sui_address`, and whether there is such a user. -/
def updateSuiAddress (t : SuiAddresses) (userId : Int64) (suiAddress : String) : Bool × SuiAddresses :=
  match t userId with
  | .none => (false, t)
  | .some _ => (true, Function.update t userId (.some (.some suiAddress)))

/-- `get_sui_address`. -/
def getSuiAddress (t : SuiAddresses) (userId : Int64) : Option String := (t userId).join

/-- `confirm_user`. -/
def confirmUser (t : SuiAddresses) (suiAddress : String) (userId : Int64) : Bool := t userId = .some (.some suiAddress)

/-- The row of a new user, who has no wallet yet. -/
def addUser (t : SuiAddresses) (userId : Int64) : SuiAddresses :=
  match t userId with
  | .none => Function.update t userId (.some .none)
  | .some _ => t

end SuiAddresses

/-! ## The state manager and the calls -/

inductive WalletEvent where
  | updateSuiAddress (userId : Int64) (suiAddress : String)
  | confirmUser (suiAddress : String) (userId : Int64)
  deriving DecidableEq, Repr

/-- An event that was handled, and what its statement did. -/
inductive HandledWalletEvent where
  | registered (userId : Int64) (suiAddress : String)
  /-- an update of no row -/
  | noUser (userId : Int64)
  | confirmed (suiAddress : String) (userId : Int64) (isTheirWallet : Bool)
  | failed (event : WalletEvent)
  deriving DecidableEq, Repr

/-- The registration that an event of the authentication is. -/
def AuthEvent.registration : AuthEvent → Option WalletEvent
  | .updateSuiAddress userId suiAddress => .some (.updateSuiAddress userId suiAddress)
  | .topUpBalance _ _ => .none

/-- What a call asks before it credits: whether the wallet that paid the proxy's is its user's, unless it comes with a
signature. -/
def confirmAsked (cfg : AuthConfig) (call : PaymentCall) (answers : PaymentAnswers) : Option (SuiAddress × Int64) :=
  match fetchPayment cfg answers, answers.walletAddress, call.zkProofSignature with
  | .ok payment, .ok ownAddress, .none =>
    if answers.digestParses && payment.receiver = ownAddress then .some (payment.sender, call.userId) else .none
  | _, _, _ => .none

structure DepositServer where
  payments : PaymentState
  users : SuiAddresses
  events : Channel WalletEvent
  /-- the events handled so far -/
  handled : List HandledWalletEvent

def DepositServer.start : DepositServer := ⟨.empty, fun _ => .none, .fresh, []⟩

inductive DepositStep where
  /-- a user is stored, with an id of the sequence -/
  | register (userId : Int64)
  /-- a request to register a wallet, for what its token is validated as -/
  | updateSuiAddress (token : Except AuthError Int64) (signature : String)
  /-- a call comes to the question whose wallet paid -/
  | confirmUser (call : PaymentCall) (answers : PaymentAnswers)
  | handleEvent (fails : Bool)
  | payment (event : PaymentEvent)

namespace DepositServer

/-- The state manager's statement for an event, and what it did. -/
def handleWalletEvent (t : SuiAddresses) (fails : Bool) (event : WalletEvent) : SuiAddresses × HandledWalletEvent :=
  if fails then (t, .failed event)
  else match event with
  | .updateSuiAddress userId suiAddress =>
    match t.updateSuiAddress userId suiAddress with
    | (true, t') => (t', .registered userId suiAddress)
    | (false, t') => (t', .noUser userId)
  | .confirmUser suiAddress userId => (t, .confirmed suiAddress userId (t.confirmUser suiAddress userId))

/-- A call goes on with an answer that the state manager gave to its question, or with an error. -/
def Answered (cfg : AuthConfig) (handled : List HandledWalletEvent) : PaymentEvent → Bool
  | .finish call answers =>
    match confirmAsked cfg call answers with
    | .none => true
    | .some (sender, userId) =>
      match answers.confirmUser sender with
      | .ok isTheirWallet => .confirmed sender.text userId isTheirWallet ∈ handled
      | .error _ => true
  | _ => true

def step (cfg : AuthConfig) (c : WalletCrypto) (s : DepositServer) : DepositStep → Option DepositServer
  | .register userId => .some { s with users := s.users.addUser userId }
  | .updateSuiAddress token signature =>
    let sent := (AtomaProxy.updateSuiAddress c token signature).sent.filterMap AuthEvent.registration
    .some { s with events := s.events.sendAll sent }
  | .confirmUser call answers =>
    let asked := (confirmAsked cfg call answers).map fun (sender, userId) => .confirmUser sender.text userId
    if call ∈ s.payments.inFlight then .some { s with events := s.events.sendAll asked.toList } else .none
  | .handleEvent fails =>
    s.events.recv.map fun (event, events) =>
      let (users, handled) := handleWalletEvent s.users fails event
      { s with users, events, handled := s.handled ++ [handled] }
  | .payment event =>
    if Answered cfg s.handled event then (paymentStep cfg c s.payments event).map fun payments => { s with payments }
    else .none

end DepositServer

def depositMachine (cfg : AuthConfig) (c : WalletCrypto) : Machine DepositServer DepositStep := ⟨DepositServer.step cfg c⟩

/-! ## What the events handled say -/

/-- The wallet of a user, after an event that was handled. -/
def registeredAfter (userId : Int64) (wallet : Option String) : HandledWalletEvent → Option String
  | .registered user suiAddress => if user = userId then .some suiAddress else wallet
  | _ => wallet

/-- The wallet of a user: the last one that was registered. -/
def registeredWallet (userId : Int64) (handled : List HandledWalletEvent) : Option String :=
  handled.foldl (registeredAfter userId) .none

theorem registeredWallet_concat (userId : Int64) (handled : List HandledWalletEvent) (h : HandledWalletEvent) :
    registeredWallet userId (handled ++ [h]) = registeredAfter userId (registeredWallet userId handled) h := by
  rw [registeredWallet, List.foldl_append]
  rfl

theorem mem_of_registeredWallet {userId : Int64} {suiAddress : String} {handled : List HandledWalletEvent}
    (h : registeredWallet userId handled = .some suiAddress) : .registered userId suiAddress ∈ handled := by
  induction handled using List.reverseRecOn with
  | nil => cases h
  | append_singleton handled e ih =>
    rw [registeredWallet_concat] at h
    unfold registeredAfter at h
    split at h
    · next user address =>
      split at h
      · next huser =>
        cases h
        exact List.mem_append_right _ (huser ▸ List.mem_cons_self)
      · exact List.mem_append_left _ (ih h)
    · exact List.mem_append_left _ (ih h)

/-- What the events before one say of it: a confirmation is of the wallet registered then. -/
def HandledWalletEvent.AccountedFor (before : List HandledWalletEvent) : HandledWalletEvent → Prop
  | .confirmed suiAddress userId isTheirWallet =>
    isTheirWallet = true → registeredWallet userId before = .some suiAddress
  | _ => True

/-! ## What holds of a run -/

section

variable {cfg : AuthConfig} {c : WalletCrypto} {steps : List DepositStep} {s s' : DepositServer}

/-- A request of the user to register the wallet came with the wallet's signature, which names the user. -/
def Proved (c : WalletCrypto) (steps : List DepositStep) (userId : Int64) (suiAddress : String) : Prop :=
  ∃ signature address, .updateSuiAddress (.ok userId) signature ∈ steps ∧
    getSuiAddressFromSignature c signature (registrationMessage userId) = .ok address ∧ address.text = suiAddress

/-- The wallet was the user's, by its signature, when the payer was confirmed; or a signature of the wallet's over the
digest came with the call. -/
def PayerProved (c : WalletCrypto) (steps : List DepositStep) (handled : List HandledWalletEvent) (call : PaymentCall)
    (payer : SuiAddress) : Prop :=
  match call.zkProofSignature with
  | .some proof => getSuiAddressFromSignature c proof call.transactionDigest = .ok payer
  | .none => ∃ before after, handled = before ++ .confirmed payer.text call.userId true :: after ∧
      registeredWallet call.userId before = .some payer.text ∧ Proved c steps call.userId payer.text

/-- A top-up is of a call that was answered what it takes to credit, and whose payer was proved to be its user's. -/
def CreditProved (cfg : AuthConfig) (c : WalletCrypto) (steps : List DepositStep) (handled : List HandledWalletEvent)
    (q : Credit) : Prop :=
  ∃ call answers payment, .payment (.finish call answers) ∈ steps ∧ call.transactionDigest = q.digest ∧
    call.userId = q.userId ∧ Credits cfg c call answers payment q.amount ∧
      PayerProved c steps handled call payment.sender

structure DepositServer.Follows (cfg : AuthConfig) (c : WalletCrypto) (steps : List DepositStep) (s : DepositServer) :
    Prop where
  waiting : ∀ userId suiAddress, .updateSuiAddress userId suiAddress ∈ s.events.queue → Proved c steps userId suiAddress
  registered : ∀ userId suiAddress, .registered userId suiAddress ∈ s.handled → Proved c steps userId suiAddress
  users : ∀ userId, s.users.getSuiAddress userId = registeredWallet userId s.handled
  accounted : Justified HandledWalletEvent.AccountedFor s.handled
  credits : ∀ q ∈ s.payments.queued ++ s.payments.credits, CreditProved cfg c steps s.handled q

theorem Proved.append (h : Proved c steps userId suiAddress) (a : DepositStep) :
    Proved c (steps ++ [a]) userId suiAddress := by
  obtain ⟨signature, address, hmem, hproof⟩ := h
  exact ⟨signature, address, List.mem_append_left _ hmem, hproof⟩

theorem PayerProved.append {handled : List HandledWalletEvent} {call : PaymentCall} {payer : SuiAddress}
    (h : PayerProved c steps handled call payer) (a : DepositStep) (more : List HandledWalletEvent) :
    PayerProved c (steps ++ [a]) (handled ++ more) call payer := by
  unfold PayerProved at h ⊢
  split at h
  · exact h
  · obtain ⟨before, after, hall, hwallet, hproved⟩ := h
    exact ⟨before, after ++ more, by rw [hall, List.append_assoc, List.cons_append], hwallet, hproved.append a⟩

theorem CreditProved.append {handled : List HandledWalletEvent} {q : Credit} (h : CreditProved cfg c steps handled q)
    (a : DepositStep) (more : List HandledWalletEvent) : CreditProved cfg c (steps ++ [a]) (handled ++ more) q := by
  obtain ⟨call, answers, payment, hmem, hdigest, huser, hcredits, hproved⟩ := h
  exact ⟨call, answers, payment, List.mem_append_left _ hmem, hdigest, huser, hcredits, hproved.append a more⟩

/-- What a request sends registers the wallet that signed it, for the user of its token. -/
theorem sent_updateSuiAddress {token : Except AuthError Int64} {signature : String} {event : AuthEvent}
    (h : event ∈ (updateSuiAddress c token signature).sent) : ∃ userId address, token = .ok userId ∧
      getSuiAddressFromSignature c signature (registrationMessage userId) = .ok address ∧
        event = .updateSuiAddress userId address.text := by
  unfold updateSuiAddress at h
  cases token with
  | error e => cases h
  | ok userId =>
    rw [Eff.ofExcept_ok_bind] at h
    cases haddress : getSuiAddressFromSignature c signature (registrationMessage userId) with
    | err e =>
      rw [haddress] at h
      cases h
    | panic =>
      rw [haddress] at h
      cases h
    | ok address =>
      rw [haddress] at h
      exact ⟨userId, address, rfl, haddress, List.mem_singleton.1 h⟩

theorem proved_of_updateSuiAddress {token : Except AuthError Int64} {signature : String} {userId : Int64}
    {suiAddress : String} (h : .updateSuiAddress userId suiAddress ∈
      (updateSuiAddress c token signature).sent.filterMap AuthEvent.registration) :
    Proved c (steps ++ [.updateSuiAddress token signature]) userId suiAddress := by
  obtain ⟨event, hevent, hregistration⟩ := List.mem_filterMap.1 h
  obtain ⟨user, address, rfl, haddress, rfl⟩ := sent_updateSuiAddress hevent
  cases hregistration
  exact ⟨signature, address, List.mem_append_right _ List.mem_cons_self, haddress, rfl⟩

/-! ## What a step keeps -/

namespace SuiAddresses

variable {t : SuiAddresses}

theorem getSuiAddress_addUser (t : SuiAddresses) (user userId : Int64) :
    (t.addUser user).getSuiAddress userId = t.getSuiAddress userId := by
  unfold addUser getSuiAddress
  cases hrow : t user with
  | some row => rfl
  | none =>
    dsimp only
    by_cases huser : userId = user
    · rw [huser, Function.update_self, hrow]
      rfl
    · rw [Function.update_of_ne huser]

theorem updateSuiAddress_true {t' : SuiAddresses} {user : Int64} {suiAddress : String}
    (h : t.updateSuiAddress user suiAddress = (true, t')) (userId : Int64) :
    t'.getSuiAddress userId = if user = userId then .some suiAddress else t.getSuiAddress userId := by
  unfold updateSuiAddress at h
  split at h
  · cases h
  · cases h
    unfold getSuiAddress
    rw [Function.update_apply]
    by_cases huser : user = userId
    · rw [if_pos huser.symm, if_pos huser]
      rfl
    · rw [if_neg fun h => huser h.symm, if_neg huser]

theorem updateSuiAddress_false {t' : SuiAddresses} {user : Int64} {suiAddress : String}
    (h : t.updateSuiAddress user suiAddress = (false, t')) : t' = t := by
  unfold updateSuiAddress at h
  split at h
  · cases h
    rfl
  · cases h

theorem getSuiAddress_of_confirmUser {suiAddress : String} {userId : Int64}
    (h : t.confirmUser suiAddress userId = true) : t.getSuiAddress userId = .some suiAddress := by
  rw [getSuiAddress, of_decide_eq_true h]
  rfl

end SuiAddresses

namespace DepositServer

/-- The wallets follow the events, and the log accounts for the one that is handled. -/
theorem handleWalletEvent_spec {t : SuiAddresses} {handled : List HandledWalletEvent}
    (h : ∀ userId, t.getSuiAddress userId = registeredWallet userId handled) (fails : Bool) (event : WalletEvent) :
    (∀ userId, (handleWalletEvent t fails event).1.getSuiAddress userId =
        registeredWallet userId (handled ++ [(handleWalletEvent t fails event).2])) ∧
      (handleWalletEvent t fails event).2.AccountedFor handled ∧
      ∀ userId suiAddress, (handleWalletEvent t fails event).2 = .registered userId suiAddress →
        event = .updateSuiAddress userId suiAddress := by
  unfold handleWalletEvent
  split
  · exact ⟨fun userId => by rw [registeredWallet_concat]; exact h userId, trivial, nofun⟩
  · cases event with
    | confirmUser suiAddress userId =>
      refine ⟨fun userId => by rw [registeredWallet_concat]; exact h userId, fun htheirs => ?_, nofun⟩
      rw [← h userId]
      exact SuiAddresses.getSuiAddress_of_confirmUser htheirs
    | updateSuiAddress user suiAddress =>
      dsimp only
      split
      · next t' hupdate =>
        refine ⟨fun userId => ?_, trivial, fun userId address he => ?_⟩
        · rw [registeredWallet_concat, SuiAddresses.updateSuiAddress_true hupdate, h userId]
          rfl
        · cases he
          rfl
      · next t' hupdate =>
        obtain rfl := SuiAddresses.updateSuiAddress_false hupdate
        exact ⟨fun userId => by rw [registeredWallet_concat]; exact h userId, trivial, nofun⟩

/-- A step after which the payments, the wallets and the log are the same. -/
theorem Follows.of_events (h : s.Follows cfg c steps) {a : DepositStep} {events : Channel WalletEvent}
    (hevents : ∀ userId suiAddress, .updateSuiAddress userId suiAddress ∈ events.queue →
      .updateSuiAddress userId suiAddress ∈ s.events.queue ∨ Proved c (steps ++ [a]) userId suiAddress) :
    Follows cfg c (steps ++ [a]) { s with events } where
  waiting userId suiAddress hmem :=
    (hevents userId suiAddress hmem).elim (fun hold => (h.waiting userId suiAddress hold).append a) id
  registered userId suiAddress hmem := (h.registered userId suiAddress hmem).append a
  users := h.users
  accounted := h.accounted
  credits q hq := List.append_nil s.handled ▸ (h.credits q hq).append a []

/-- A payment that is credited was answered with what the state manager had confirmed. -/
theorem Follows.credit (h : s.Follows cfg c steps) {call : PaymentCall} {answers : PaymentAnswers} {payment : Payment}
    {amount : Int64} (hanswered : Answered cfg s.handled (.finish call answers) = true)
    (hcredits : Credits cfg c call answers payment amount) :
    CreditProved cfg c (steps ++ [.payment (.finish call answers)]) s.handled ⟨call.transactionDigest, call.userId, amount⟩ := by
  refine ⟨call, answers, payment, List.mem_append_right _ List.mem_cons_self, rfl, rfl, hcredits, ?_⟩
  have hpayer := confirmPayer_ok hcredits.confirmed
  unfold PayerProved
  cases hz : call.zkProofSignature with
  | some proof =>
    rw [hz] at hpayer
    exact hpayer
  | none =>
    rw [hz] at hpayer
    dsimp only at hpayer
    have hasked : confirmAsked cfg call answers = .some (payment.sender, call.userId) := by
      unfold confirmAsked
      rw [hcredits.fetched, hcredits.received, hz, hcredits.digestParses]
      exact if_pos (by rw [Bool.true_and, decide_eq_true rfl])
    dsimp only [Answered] at hanswered
    rw [hasked] at hanswered
    dsimp only at hanswered
    rw [hpayer] at hanswered
    obtain ⟨before, after, hall⟩ := List.append_of_mem (of_decide_eq_true hanswered)
    have hwallet : registeredWallet call.userId before = .some payment.sender.text := h.accounted before _ after hall rfl
    refine ⟨before, after, hall, hwallet, (h.registered _ _ ?_).append _⟩
    rw [hall]
    exact List.mem_append_left _ (mem_of_registeredWallet hwallet)

theorem Follows.payment (h : s.Follows cfg c steps) {event : PaymentEvent} {payments : PaymentState}
    (hanswered : Answered cfg s.handled event = true) (hstep : paymentStep cfg c s.payments event = .some payments) :
    Follows cfg c (steps ++ [.payment event]) { s with payments } := by
  have hold : ∀ q ∈ s.payments.queued ++ s.payments.credits,
      CreditProved cfg c (steps ++ [.payment event]) s.handled q := fun q hq =>
    List.append_nil s.handled ▸ (h.credits q hq).append (.payment event) []
  refine ⟨fun userId suiAddress hmem => (h.waiting userId suiAddress hmem).append _,
    fun userId suiAddress hmem => (h.registered userId suiAddress hmem).append _, h.users, h.accounted, ?_⟩
  cases event with
  | record call =>
    rcases record_cases hstep with rfl | ⟨_, rfl⟩
    · exact hold
    · exact hold
  | finish call answers =>
    obtain ⟨_, ⟨payment, amount, hcredits, rfl⟩ | ⟨_, rfl⟩⟩ := finish_cases hstep
    · intro q hq
      rw [List.append_assoc] at hq
      rcases List.mem_append.1 hq with hq | hq
      · exact hold q (List.mem_append_left _ hq)
      · rcases List.mem_cons.1 hq with rfl | hq
        · exact h.credit hanswered hcredits
        · exact hold q (List.mem_append_right _ hq)
    · exact hold
  | topUp =>
    obtain ⟨q, rest, hqueued, ⟨balances, _, rfl⟩ | ⟨_, rfl⟩⟩ := topUp_cases hstep
    · intro q' hq'
      refine hold q' ?_
      rw [hqueued, List.cons_append]
      exact List.perm_middle.mem_iff.1 hq'
    · intro q' hq'
      refine hold q' ?_
      rw [hqueued, List.cons_append]
      exact List.mem_cons_of_mem q hq'

theorem Follows.handleEvent (h : s.Follows cfg c steps) {fails : Bool} {event : WalletEvent} {events : Channel WalletEvent}
    (hrecv : s.events.recv = .some (event, events)) :
    Follows cfg c (steps ++ [.handleEvent fails])
      { s with
        users := (handleWalletEvent s.users fails event).1
        events
        handled := s.handled ++ [(handleWalletEvent s.users fails event).2] } := by
  obtain ⟨husers, haccounted, hregistered⟩ := handleWalletEvent_spec h.users fails event
  have hqueue : s.events.queue = event :: events.queue := by
    unfold Channel.recv at hrecv
    split at hrecv
    · cases hrecv
    · next hq =>
      cases hrecv
      exact hq
  refine ⟨fun userId suiAddress hmem => ?_, fun userId suiAddress hmem => ?_, husers, h.accounted.concat haccounted,
    fun q hq => (h.credits q hq).append _ _⟩
  · exact (h.waiting userId suiAddress (hqueue ▸ List.mem_cons_of_mem event hmem)).append _
  · rcases List.mem_append.1 hmem with hmem | hmem
    · exact (h.registered userId suiAddress hmem).append _
    · have hevent := hregistered userId suiAddress (List.mem_singleton.1 hmem).symm
      exact (h.waiting userId suiAddress (by rw [hqueue, hevent]; exact List.mem_cons_self)).append _

theorem Follows.step (h : s.Follows cfg c steps) {a : DepositStep}
    (hstep : (depositMachine cfg c).step s a = .some s') : s'.Follows cfg c (steps ++ [a]) := by
  cases a with
  | register user =>
    obtain rfl := Option.some.inj hstep
    exact ⟨fun userId suiAddress hmem => (h.waiting userId suiAddress hmem).append _,
      fun userId suiAddress hmem => (h.registered userId suiAddress hmem).append _,
      fun userId => (SuiAddresses.getSuiAddress_addUser s.users user userId).trans (h.users userId), h.accounted,
      fun q hq => List.append_nil s.handled ▸ (h.credits q hq).append _ []⟩
  | updateSuiAddress token signature =>
    obtain rfl := Option.some.inj hstep
    exact h.of_events fun userId suiAddress hmem => (Channel.mem_queue_sendAll hmem).imp_right proved_of_updateSuiAddress
  | confirmUser call answers =>
    dsimp only [depositMachine, DepositServer.step] at hstep
    split at hstep
    · obtain rfl := Option.some.inj hstep
      refine h.of_events fun userId suiAddress hmem => .inl ((Channel.mem_queue_sendAll hmem).resolve_right fun hasked => ?_)
      obtain ⟨asked, _, hevent⟩ := Option.map_eq_some_iff.1 (Option.mem_toList.1 hasked)
      cases hevent
    · cases hstep
  | handleEvent fails =>
    obtain ⟨⟨event, events⟩, hrecv, rfl⟩ := Option.map_eq_some_iff.1 hstep
    exact h.handleEvent hrecv
  | payment event =>
    dsimp only [depositMachine, DepositServer.step] at hstep
    split at hstep
    · next hanswered =>
      obtain ⟨payments, hpayment, rfl⟩ := Option.map_eq_some_iff.1 hstep
      exact h.payment hanswered hpayment
    · cases hstep

theorem follows_start : start.Follows cfg c [] where
  waiting := nofun
  registered := nofun
  users := fun _ => rfl
  accounted := justified_nil
  credits := nofun

end DepositServer

/-- **Main result.** However registrations, confirmations and payment calls interleave and fail: the wallet of a user
is the last one that was registered, by a signature of it that names the user; and every top-up is of a payment whose
payer was the wallet of its user when it was confirmed, or signed the digest. -/
theorem credited_payer_proved (hrun : (depositMachine cfg c).run .start steps = .some s) :
    (∀ userId suiAddress, s.users.getSuiAddress userId = .some suiAddress →
      registeredWallet userId s.handled = .some suiAddress ∧ Proved c steps userId suiAddress) ∧
    ∀ q ∈ s.payments.queued ++ s.payments.credits, CreditProved cfg c steps s.handled q := by
  have h : s.Follows cfg c steps := Machine.run_history (fun hfollows => hfollows.step) DepositServer.follows_start hrun
  refine ⟨fun userId suiAddress haddress => ?_, h.credits⟩
  rw [h.users userId] at haddress
  exact ⟨haddress, h.registered userId suiAddress (mem_of_registeredWallet haddress)⟩

end

/-- The library of signatures that are their key followed by the message, with one of the user 1's registration. -/
def registrationCryptoExample : WalletCrypto :=
  let signed := [1] ++ (registrationMessage 1).toUTF8.data.toList
  { walletCryptoExample with
    userSignatureFromBase64 := fun s => if s = "signed" then .ok (.simple ⟨.ed25519, signed, [1]⟩) else .error "invalid" }

/-- The user 1 registers the wallet that paid, and claims the payment. -/
def depositsExample : List DepositStep :=
  [.register 1, .updateSuiAddress (.ok 1) "signed", .handleEvent false, .payment (.record (paymentCallExample 1)),
    .confirmUser (paymentCallExample 1) (paymentAnswersExample true), .handleEvent false,
    .payment (.finish (paymentCallExample 1) (paymentAnswersExample true)), .payment .topUp]

theorem credited_payer_proved_example : ∃ s,
    (depositMachine authConfigExample registrationCryptoExample).run .start depositsExample = .some s ∧
      CreditProved authConfigExample registrationCryptoExample depositsExample s.handled ⟨"D1", 1, 100⟩ := by
  have hcredits : ((depositMachine authConfigExample registrationCryptoExample).run .start depositsExample).map
      (fun s => s.payments.credits) = .some [⟨"D1", 1, 100⟩] := by decide
  obtain ⟨s, hrun, hcredit⟩ := Option.map_eq_some_iff.1 hcredits
  refine ⟨s, hrun, (credited_payer_proved hrun).2 _ (List.mem_append_right _ ?_)⟩
  rw [hcredit]
  exact List.mem_cons_self

end AtomaProxy
