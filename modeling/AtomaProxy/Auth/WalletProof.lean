/-
What a signature proves of a wallet, and where it does not.

A simple signature that is accepted verifies under the key its address is
derived from. Of a zkLogin signature only the inner signature is verified, so
it proves the address it names exactly where its proof happens to hold; and
its issuer details can make the call panic. Both are conditions on the
signature string.
-/
import AtomaProxy.Auth.UsdcPayment

namespace AtomaProxy

open Base

/-- That a zkLogin proof binds an ephemeral key to an issuer and an address seed, up to an epoch. -/
abbrev ZkProofBinds := (inputs : ZkLoginInputs) → (maxEpoch : UInt64) → (scheme : SimpleScheme) →
  (ephemeralKey iss addressSeed : List UInt8) → Prop

/-- The library's two parsers of a simple public key agree. -/
def WalletCrypto.KeysParse (c : WalletCrypto) : Prop :=
  ∀ scheme bytes, c.schemeKeyFromBytes scheme bytes = .ok () → c.publicKeyFromBytes scheme bytes = .ok ()

section

variable (cfg : AuthConfig) (c : WalletCrypto) (binds : ZkProofBinds)

/-- The signature verifies on the message's hash. -/
def VerifiesOn (s : SimpleSignature) (message : String) : Prop :=
  ∃ hash, personalMessageHash c message = .ok hash ∧
    c.verify s.scheme.toSignatureScheme s.publicKey hash s.signature = .ok ()

/-- The message is signed with the credentials of the address: with the key it is derived from, or with a key
that a proof binds to the issuer and the address seed it is derived from. -/
inductive SignedWithCredentials (address : SuiAddress) (signature message : String) : Prop where
  | simple (s : SimpleSignature) (parsed : c.userSignatureFromBase64 signature = .ok (.simple s))
      (verified : VerifiesOn c s message) (derived : address = c.suiAddress (.simple s.scheme s.publicKey))
  | zkLogin (a : ZkLoginAuthenticator) (identity : ZkLoginIdentity)
      (parsed : c.userSignatureFromBase64 signature = .ok (.zkLogin a)) (verified : VerifiesOn c a.signature message)
      (identified : zkLoginIdentity c a.inputs = .ok identity)
      (derived : address = c.suiAddress (.zkLogin identity.publicIdentifier))
      (bound : binds a.inputs a.maxEpoch a.signature.scheme a.signature.publicKey identity.iss identity.addressSeed)

/-- A signature and a message for which the code does not panic, an address is answered only where its
credentials signed the message, and so neither registered nor credited with a payment of it without them. -/
structure ProvesWallet (signature message : String) : Prop where
  noPanic : getSuiAddressFromSignature c signature message ≠ .panic
  signed : ∀ address, getSuiAddressFromSignature c signature message = .ok address →
    SignedWithCredentials c binds address signature message
  registers : ∀ userId address, registrationMessage userId = message →
    .updateSuiAddress userId address.text ∈ (updateSuiAddress c (.ok userId) signature).sent →
      SignedWithCredentials c binds address signature message
  claims : ∀ call answers payment, fetchPayment cfg answers = .ok payment →
    (claimBalance cfg c call answers).sent ≠ [] →
      match call.zkProofSignature with
      | .some proof => proof = signature → call.transactionDigest = message →
          SignedWithCredentials c binds payment.sender signature message
      | .none => answers.confirmUser payment.sender = .ok true

/-- What the code would have to check of a zkLogin signature: that its details can be taken apart and name an
issuer, and that its proof holds where its inner signature verifies. -/
def ZkLoginChecked (signature message : String) : Prop :=
  ∀ a hash addressSeed, c.userSignatureFromBase64 signature = .ok (.zkLogin a) →
    personalMessageHash c message = .ok hash → c.bn254FromStr a.inputs.addressSeed = .ok addressSeed →
      ¬ CutsTooMuch a.inputs.issBase64Details.value a.inputs.issBase64Details.indexMod4 ∧
      ∀ text, decodeBase64Url a.inputs.issBase64Details.value a.inputs.issBase64Details.indexMod4 = .ok text →
        ∃ iss, captureIss text = .some iss ∧ ∀ publicIdentifier,
          c.zkLoginPublicIdentifier iss addressSeed = .ok publicIdentifier → verifySimple c a.signature hash = .ok () →
            binds a.inputs a.maxEpoch a.signature.scheme a.signature.publicKey iss addressSeed

end

/-! ## What the functions can end with -/

variable {cfg : AuthConfig} {c : WalletCrypto} {binds : ZkProofBinds} {signature message : String}

@[simp] theorem fastCrypto_eq_ok {α} {x : Except String α} {a} : fastCrypto x = .ok a ↔ x = .ok a := by
  cases x <;> simp [fastCrypto, Except.mapError]

theorem verifySimple_eq_ok {s : SimpleSignature} {hash} : verifySimple c s hash = .ok () ↔
    c.schemeKeyFromBytes s.scheme.toSignatureScheme s.publicKey = .ok () ∧
      c.schemeSignatureFromBytes s.scheme.toSignatureScheme s.signature = .ok () ∧
        c.verify s.scheme.toSignatureScheme s.publicKey hash s.signature = .ok () := by
  simp [verifySimple, ok_bind_iff, Unique.exists_iff]

theorem simplePublicKey_of_verified (hk : c.KeysParse) {s : SimpleSignature} {hash}
    (h : verifySimple c s hash = .ok ()) : simplePublicKey c s = .ok (.simple s.scheme s.publicKey) := by
  rw [simplePublicKey, hk _ _ (verifySimple_eq_ok.1 h).1]

theorem zkLoginIdentity_eq_ok {inputs : ZkLoginInputs} {identity} : zkLoginIdentity c inputs = .ok identity ↔
    c.bn254FromStr inputs.addressSeed = .ok identity.addressSeed ∧
      (∃ text, decodeBase64Url inputs.issBase64Details.value inputs.issBase64Details.indexMod4 = .ok text ∧
        captureIss text = .some identity.iss) ∧
      c.zkLoginPublicIdentifier identity.iss identity.addressSeed = .ok identity.publicIdentifier := by
  unfold zkLoginIdentity
  simp only [Ending.bind_eq_ok, Ending.ofExcept_eq_ok, fastCrypto_eq_ok]
  constructor
  · intro h
    obtain ⟨seed, hseed, text, htext, h⟩ := h
    split at h
    · cases h
    · next iss hiss =>
      simp only [Ending.bind_eq_ok, Ending.ofExcept_eq_ok, mapError_eq_ok, Ending.pure_eq, Ending.ok.injEq] at h
      obtain ⟨publicIdentifier, hid, rfl⟩ := h
      exact ⟨hseed, ⟨text, htext, hiss⟩, hid⟩
  · intro h
    obtain ⟨hseed, ⟨text, htext, hiss⟩, hid⟩ := h
    refine ⟨_, hseed, text, htext, ?_⟩
    rw [hiss]
    simp only [hid, Except.mapError, Ending.ofExcept_ok, Ending.ok_bind, Ending.pure_eq]

theorem zkLoginIdentity_eq_panic {inputs : ZkLoginInputs} : zkLoginIdentity c inputs = .panic ↔
    ∃ seed, c.bn254FromStr inputs.addressSeed = .ok seed ∧
      (CutsTooMuch inputs.issBase64Details.value inputs.issBase64Details.indexMod4 ∨
        ∃ text, decodeBase64Url inputs.issBase64Details.value inputs.issBase64Details.indexMod4 = .ok text ∧
          captureIss text = .none) := by
  unfold zkLoginIdentity
  simp only [Ending.bind_eq_panic, Ending.ofExcept_ne_panic, false_or, Ending.ofExcept_eq_ok, fastCrypto_eq_ok,
    decodeBase64Url_eq_panic]
  refine exists_congr fun seed => and_congr_right fun _ => or_congr_right (exists_congr fun text =>
    and_congr_right fun _ => ?_)
  cases captureIss text with
  | none => simp
  | some iss => simp [Ending.bind_eq_panic]

/-- The call of a simple signature. -/
theorem getSuiAddress_simple {s : SimpleSignature} (hs : c.userSignatureFromBase64 signature = .ok (.simple s))
    (hk : c.KeysParse) :
    getSuiAddressFromSignature c signature message ≠ .panic ∧
      ∀ address, getSuiAddressFromSignature c signature message = .ok address →
        VerifiesOn c s message ∧ address = c.suiAddress (.simple s.scheme s.publicKey) := by
  unfold getSuiAddressFromSignature
  simp only [hs, Except.mapError, Ending.ofExcept_ok, Ending.ok_bind]
  cases hh : personalMessageHash c message with
  | error e => simp
  | ok hash =>
    cases hv : verifySimple c s hash with
    | error e => simp [hv]
    | ok _ =>
      simp only [hv, Ending.ofExcept_ok, Ending.ok_bind, simplePublicKey_of_verified hk hv, Ending.pure_eq, ne_eq,
        reduceCtorEq, not_false_eq_true, Ending.ok.injEq, true_and]
      intro address h
      exact ⟨⟨hash, hh, (verifySimple_eq_ok.1 hv).2.2⟩, h.symm⟩

/-- The call of a zkLogin signature. -/
theorem getSuiAddress_zkLogin {a : ZkLoginAuthenticator}
    (ha : c.userSignatureFromBase64 signature = .ok (.zkLogin a)) :
    (getSuiAddressFromSignature c signature message = .panic ↔
      (∃ hash, personalMessageHash c message = .ok hash) ∧ zkLoginIdentity c a.inputs = .panic) ∧
    ∀ address, getSuiAddressFromSignature c signature message = .ok address ↔
      ∃ hash identity, personalMessageHash c message = .ok hash ∧ zkLoginIdentity c a.inputs = .ok identity ∧
        verifySimple c a.signature hash = .ok () ∧ address = c.suiAddress (.zkLogin identity.publicIdentifier) := by
  unfold getSuiAddressFromSignature
  simp only [ha, Except.mapError, Ending.ofExcept_ok, Ending.ok_bind]
  cases hh : personalMessageHash c message with
  | error e => simp
  | ok hash =>
    cases hi : zkLoginIdentity c a.inputs with
    | err e => simp
    | panic => simp
    | ok identity =>
      cases hv : verifySimple c a.signature hash with
      | error e => simp [hv]
      | ok _ => simp [hv, eq_comm]

theorem getSuiAddress_other (h : ∀ s, c.userSignatureFromBase64 signature ≠ .ok (.simple s))
    (h' : ∀ a, c.userSignatureFromBase64 signature ≠ .ok (.zkLogin a)) :
    ∃ e, getSuiAddressFromSignature c signature message = .err e := by
  unfold getSuiAddressFromSignature
  cases hp : c.userSignatureFromBase64 signature with
  | error e => exact ⟨_, rfl⟩
  | ok userSignature =>
    simp only [Except.mapError, Ending.ofExcept_ok, Ending.ok_bind]
    cases personalMessageHash c message with
    | error e => exact ⟨_, rfl⟩
    | ok hash =>
      cases userSignature with
      | simple s => exact absurd hp (h s)
      | zkLogin a => exact absurd hp (h' a)
      | other => exact ⟨_, rfl⟩

/-! ## The result -/

/-- What is answered is signed, where the zkLogin signatures are as they would have to be. -/
theorem signedWithCredentials (hk : c.KeysParse) (hz : ZkLoginChecked c binds signature message) {address}
    (h : getSuiAddressFromSignature c signature message = .ok address) :
    SignedWithCredentials c binds address signature message := by
  by_cases hs : ∃ s, c.userSignatureFromBase64 signature = .ok (.simple s)
  · obtain ⟨s, hs⟩ := hs
    obtain ⟨hv, hd⟩ := (getSuiAddress_simple hs hk).2 address h
    exact .simple s hs hv hd
  · by_cases ha : ∃ a, c.userSignatureFromBase64 signature = .ok (.zkLogin a)
    · obtain ⟨a, ha⟩ := ha
      obtain ⟨hash, identity, hh, hi, hv, hd⟩ := ((getSuiAddress_zkLogin ha).2 address).1 h
      obtain ⟨hseed, ⟨text, htext, hiss⟩, hid⟩ := zkLoginIdentity_eq_ok.1 hi
      obtain ⟨iss, hiss', hbinds⟩ := (hz a hash identity.addressSeed ha hh hseed).2 text htext
      have hsame : iss = identity.iss := Option.some.inj (hiss'.symm.trans hiss)
      subst hsame
      exact .zkLogin a identity ha ⟨hash, hh, (verifySimple_eq_ok.1 hv).2.2⟩ hi hd (hbinds _ hid hv)
    · obtain ⟨e, he⟩ := @getSuiAddress_other c signature message (fun s hs' => hs ⟨s, hs'⟩) fun a ha' => ha ⟨a, ha'⟩
      rw [he] at h
      cases h

theorem getSuiAddress_ne_panic (hk : c.KeysParse) (hz : ZkLoginChecked c binds signature message) :
    getSuiAddressFromSignature c signature message ≠ .panic := by
  intro h
  by_cases hs : ∃ s, c.userSignatureFromBase64 signature = .ok (.simple s)
  · obtain ⟨s, hs⟩ := hs
    exact (getSuiAddress_simple hs hk).1 h
  · by_cases ha : ∃ a, c.userSignatureFromBase64 signature = .ok (.zkLogin a)
    · obtain ⟨a, ha⟩ := ha
      obtain ⟨⟨hash, hh⟩, hp⟩ := (getSuiAddress_zkLogin ha).1.1 h
      obtain ⟨seed, hseed, hbad⟩ := zkLoginIdentity_eq_panic.1 hp
      obtain ⟨hcut, hiss⟩ := hz a hash seed ha hh hseed
      rcases hbad with hbad | ⟨text, htext, hnone⟩
      · exact hcut hbad
      · obtain ⟨iss, hsome, _⟩ := hiss text htext
        rw [hnone] at hsome
        cases hsome
    · obtain ⟨e, he⟩ := @getSuiAddress_other c signature message (fun s hs' => hs ⟨s, hs'⟩) fun a ha' => ha ⟨a, ha'⟩
      rw [he] at h
      cases h

/-- A registration is of the address that its signature is answered with. -/
theorem mem_updateSuiAddress {userId : Int64} {address : SuiAddress}
    (h : .updateSuiAddress userId address.text ∈ (updateSuiAddress c (.ok userId) signature).sent) :
    getSuiAddressFromSignature c signature (registrationMessage userId) = .ok address := by
  unfold updateSuiAddress at h
  rw [Eff.ofExcept_ok_bind] at h
  cases hg : getSuiAddressFromSignature c signature (registrationMessage userId) with
  | err e =>
    rw [hg, Eff.ofEnding_err_bind] at h
    cases h
  | panic =>
    rw [hg, Eff.ofEnding_panic_bind] at h
    cases h
  | ok other =>
    rw [hg, Eff.ofEnding_ok_bind] at h
    simp only [Eff.sent_send, List.mem_singleton, AuthEvent.updateSuiAddress.injEq, true_and] at h
    rw [show other = address from congrArg SuiAddress.mk h.symm]

/-- A payer who is confirmed is the wallet of the signature, or the wallet registered. -/
theorem confirmPayer_ok {call : PaymentCall} {sender answers} (h : confirmPayer cfg c call sender answers = .ok ()) :
    match call.zkProofSignature with
    | .some proof => getSuiAddressFromSignature c proof call.transactionDigest = .ok sender
    | .none => answers.confirmUser sender = .ok true := by
  unfold confirmPayer at h
  cases hz : call.zkProofSignature with
  | none =>
    simp only [hz, Ending.bind_eq_ok, Ending.ofExcept_eq_ok, mapError_eq_ok] at h
    obtain ⟨theirs, hc, h⟩ := h
    cases theirs with
    | false => cases h
    | true => exact hc
  | some proof =>
    simp only [hz] at h
    split at h
    · obtain ⟨address, ha, h⟩ := Ending.bind_eq_ok.1 h
      split at h
      · cases h
      · next heq =>
        rw [ne_eq, not_not] at heq
        show getSuiAddressFromSignature c proof call.transactionDigest = .ok sender
        rw [ha, show sender = address from congrArg SuiAddress.mk heq]
    · cases h

/-- **Main result.** Whatever the libraries answer, a signature proves the wallet exactly where its zkLogin
authenticator, if it is one, is as the code would have to check. -/
theorem proves_wallet_iff (hk : c.KeysParse) :
    ProvesWallet cfg c binds signature message ↔ ZkLoginChecked c binds signature message := by
  constructor
  · intro h a hash seed ha hh hseed
    constructor
    · intro hcut
      exact h.noPanic ((getSuiAddress_zkLogin ha).1.2 ⟨⟨hash, hh⟩, zkLoginIdentity_eq_panic.2 ⟨seed, hseed, .inl hcut⟩⟩)
    · intro text htext
      cases hiss : captureIss text with
      | none =>
        exact absurd ((getSuiAddress_zkLogin ha).1.2
          ⟨⟨hash, hh⟩, zkLoginIdentity_eq_panic.2 ⟨seed, hseed, .inr ⟨text, htext, hiss⟩⟩⟩) h.noPanic
      | some iss =>
        refine ⟨iss, rfl, fun publicIdentifier hid hv => ?_⟩
        have hi : zkLoginIdentity c a.inputs = .ok ⟨iss, seed, publicIdentifier⟩ :=
          zkLoginIdentity_eq_ok.2 ⟨hseed, ⟨text, htext, hiss⟩, hid⟩
        cases h.signed _ (((getSuiAddress_zkLogin ha).2 _).2 ⟨hash, _, hh, hi, hv, rfl⟩) with
        | simple s parsed => cases ha.symm.trans parsed
        | zkLogin a' identity parsed verified identified derived bound =>
          cases ha.symm.trans parsed
          cases hi.symm.trans identified
          exact bound
  · intro hz
    refine ⟨getSuiAddress_ne_panic hk hz, fun address => signedWithCredentials hk hz, ?_, ?_⟩
    · intro userId address hm hmem
      subst hm
      exact signedWithCredentials hk hz (mem_updateSuiAddress hmem)
    · intro call answers payment hp hsent
      rcases claimBalance_cases cfg c call answers with ⟨payment', amount, hcredits⟩ | hnone
      · cases hp.symm.trans hcredits.fetched
        have hpayer := confirmPayer_ok hcredits.confirmed
        cases hz' : call.zkProofSignature with
        | none =>
          rw [hz'] at hpayer
          exact hpayer
        | some proof =>
          rw [hz'] at hpayer
          intro hproof hmessage
          subst hproof hmessage
          exact signedWithCredentials hk hz hpayer
      · exact absurd hnone hsent

/-- A zkLogin signature of the message "hi" with the key, of the issuer "a" and the address seed 7. -/
def zkLoginExample (key : List UInt8) : ZkLoginAuthenticator where
  inputs := ⟨[], ⟨"ImlzcyI6ImEi", 0⟩, "", "7"⟩
  maxEpoch := 1
  signature := ⟨.ed25519, key ++ [104, 105], key⟩

/-- A library in which a signature is its key followed by the message, with two signatures of one identity. -/
def walletCryptoExample : WalletCrypto where
  signatureFromStr := fun _ => .error "unsupported"
  publicKeyFromBytes := fun _ _ => .ok ()
  schemeKeyFromBytes := fun _ _ => .ok ()
  schemeSignatureFromBytes := fun _ _ => .ok ()
  verify := fun _ key message signature => if signature = key ++ message then .ok () else .error "signature error"
  userSignatureFromBase64 := fun s =>
    if s = "genuine" then .ok (.zkLogin (zkLoginExample [1]))
    else if s = "forged" then .ok (.zkLogin (zkLoginExample [2]))
    else .error "invalid base64"
  bcsPersonalMessage := .ok
  blake2b := id
  bn254FromStr := fun s => if s = "7" then .ok [7] else .error "invalid field element"
  zkLoginPublicIdentifier := fun iss seed => .ok (iss ++ seed)
  suiAddress := fun key =>
    match key with
    | .simple _ _ => ⟨"0xa"⟩
    | .zkLogin _ => ⟨"0xb"⟩

def authConfigExample : AuthConfig := ⟨"0x5", true⟩

/-- Its proofs bind one ephemeral key. -/
def zkProofExample : ZkProofBinds := fun _ _ _ key _ _ => key = [1]

theorem keysParse_example : walletCryptoExample.KeysParse := fun _ _ _ => rfl

theorem proves_wallet_example : ProvesWallet authConfigExample walletCryptoExample zkProofExample "genuine" "hi" := by
  refine (proves_wallet_iff keysParse_example).2 fun a hash seed ha _ hseed => ?_
  cases ha
  refine ⟨by decide, fun text htext => ?_⟩
  have hdecoded : decodeBase64Url "ImlzcyI6ImEi" 0 = .ok (ascii "\"iss\":\"a\"") := by decide
  cases hdecoded.symm.trans htext
  exact ⟨ascii "a", by decide, fun _ _ _ => rfl⟩

/-- An attacker's key beside another's inputs is answered with the other's address. -/
theorem proves_wallet_fails : ¬ ∀ (cfg : AuthConfig) (c : WalletCrypto) (binds : ZkProofBinds)
    (signature message : String), c.KeysParse → ProvesWallet cfg c binds signature message := by
  intro h
  have hsigned := (h authConfigExample walletCryptoExample zkProofExample "forged" "hi" keysParse_example).signed
    ⟨"0xb"⟩ (by decide)
  cases hsigned with
  | simple s parsed => cases parsed
  | zkLogin a identity parsed verified identified derived bound =>
    cases parsed
    have hkey : ([2] : List UInt8) = [1] := bound
    exact absurd hkey (by decide)

end AtomaProxy
