/-
Whether an accepted response is the response of the node it was asked of.

The verification accepts what is signed with the key that the signature
itself carries, whoever's key that is: the node's own key is not among its
arguments. So it shows who signed only where the carried key is the node's.
What it does not accept it rejects with an error, but for a hash that is not
base64, where it panics.

The Blake2b hash and the signature schemes are parameters: what is assumed of
them is that no other value has the hash of the one at hand, and that a
message is signed with a key only by the key's holder.
-/
import AtomaProxy.Server.VerifyResponse

namespace AtomaProxy

open Base

/-- A public key, of its scheme. -/
structure NodeKey where
  scheme : SignatureScheme
  bytes : List UInt8
  deriving DecidableEq, Repr

def Signature.key (s : Signature) : NodeKey := ⟨s.scheme, s.publicKeyBytes⟩

/-- The schemes that the match on the scheme has an arm for. -/
def SignatureScheme.isSupported : SignatureScheme → Bool
  | .ed25519 | .secp256k1 | .secp256r1 => true
  | _ => false

/-- The payload's hash is its own, and its signature is one of the hash with the key that it carries. -/
structure SelfSigned (c : ResponseCrypto) (payload : Value) (hash : List UInt8) (s : Signature) : Prop where
  hashText : ∃ text, (payload.index "response_hash").asStr = .some text ∧ c.decodeBase64 text = .some hash
  hashed : c.blake2 payload.unsigned = hash
  signatureText : ∃ text, (payload.index "signature").asStr = .some text ∧ c.signatureFromStr text = .ok s
  key : c.publicKeyFromBytes s.scheme s.publicKeyBytes = .ok ()
  supported : s.scheme.isSupported = true
  schemeKey : c.schemeKeyFromBytes s.scheme s.publicKeyBytes = .ok ()
  schemeSignature : c.schemeSignatureFromBytes s.scheme s.signatureBytes = .ok ()
  verified : c.verify s.scheme s.publicKeyBytes hash s.signatureBytes = .ok ()

/-! ## What is accepted -/

theorem orInvalid_eq_ok {α} {pre : String} {x : Except String α} {a : α} : orInvalid pre x = .ok a ↔ x = .ok a :=
  mapError_eq_ok

theorem verifyScheme_eq_ok {c : ResponseCrypto} {s : Signature} {hash : List UInt8} {keyText signatureText : String}
    {verifyText : String → String} :
    verifyScheme c s hash keyText signatureText verifyText = .ok () ↔
      c.schemeKeyFromBytes s.scheme s.publicKeyBytes = .ok () ∧
        c.schemeSignatureFromBytes s.scheme s.signatureBytes = .ok () ∧
        c.verify s.scheme s.publicKeyBytes hash s.signatureBytes = .ok () := by
  unfold verifyScheme
  rw [ok_bind_iff]
  simp only [ok_bind_iff, orInvalid_eq_ok, mapError_eq_ok]
  constructor
  · intro h
    obtain ⟨_, hk, _, hs, hv⟩ := h
    exact ⟨hk, hs, hv⟩
  · intro h
    exact ⟨(), h.1, (), h.2.1, h.2.2⟩

/-- A match with an arm for each supported scheme. -/
theorem verifyDecoded_eq_ok {c : ResponseCrypto} {payload : Value} {hash : List UInt8} :
    verifyDecoded c payload true hash = .ok () ↔
      c.blake2 payload.unsigned = hash ∧ ∃ text, (payload.index "signature").asStr = .some text ∧ ∃ s,
        c.signatureFromStr text = .ok s ∧ c.publicKeyFromBytes s.scheme s.publicKeyBytes = .ok () ∧
        s.scheme.isSupported = true ∧ c.schemeKeyFromBytes s.scheme s.publicKeyBytes = .ok () ∧
        c.schemeSignatureFromBytes s.scheme s.signatureBytes = .ok () ∧
        c.verify s.scheme s.publicKeyBytes hash s.signatureBytes = .ok () := by
  unfold verifyDecoded verifyResponseHash
  by_cases hhash : c.blake2 payload.unsigned = hash
  · rw [if_pos hhash]
    simp only [if_true, hhash, true_and]
    cases (payload.index "signature").asStr with
    | none => exact ⟨(nomatch ·), fun ⟨_, h, _⟩ => (nomatch h)⟩
    | some text =>
      show (orInvalid _ _ >>= fun signature => _) = _ ↔ _
      simp only [ok_bind_iff, orInvalid_eq_ok, Option.some.injEq, exists_eq_left']
      refine exists_congr fun s => and_congr_right fun _ => ?_
      constructor
      · intro h
        obtain ⟨_, hkey, h⟩ := h
        refine ⟨hkey, ?_⟩
        cases hs : s.scheme with
        | ed25519 | secp256k1 | secp256r1 =>
          rw [hs] at h
          exact ⟨rfl, hs ▸ verifyScheme_eq_ok.1 h⟩
        | _ =>
          rw [hs] at h
          cases h
      · intro h
        obtain ⟨hkey, hsupported, h⟩ := h
        refine ⟨(), hkey, ?_⟩
        cases hs : s.scheme with
        | ed25519 | secp256k1 | secp256r1 => exact verifyScheme_eq_ok.2 h
        | _ =>
          rw [hs] at hsupported
          cases hsupported
  · rw [if_neg hhash]
    exact ⟨(nomatch ·), fun h => absurd h.1 hhash⟩

/-- **What the verification accepts**: payloads that are signed with the key they carry. -/
theorem verifyResponse_eq_ok {c : ResponseCrypto} {payload : Value} :
    verifyResponseHashAndSignature c payload true = .ok () ↔ ∃ hash s, SelfSigned c payload hash s := by
  unfold verifyResponseHashAndSignature
  constructor
  · intro h
    split at h
    · cases h
    · next text htext =>
      split at h
      · cases h
      · next hash hhash =>
        rw [Ending.ofExcept_eq_ok] at h
        obtain ⟨hhashed, sigText, h1, s, h2, h3, h4, h5, h6, h7⟩ := verifyDecoded_eq_ok.1 h
        exact ⟨hash, s, ⟨text, htext, hhash⟩, hhashed, ⟨sigText, h1, h2⟩, h3, h4, h5, h6, h7⟩
  · intro h
    obtain ⟨hash, s, h⟩ := h
    obtain ⟨text, htext, hhash⟩ := h.hashText
    obtain ⟨sigText, h1, h2⟩ := h.signatureText
    rw [htext]
    dsimp only
    rw [hhash]
    exact Ending.ofExcept_eq_ok.2 (verifyDecoded_eq_ok.2 ⟨h.hashed, sigText, h1, s, h2, h.key, h.supported,
      h.schemeKey, h.schemeSignature, h.verified⟩)

/-- The hash and the signature of a payload are each one. -/
theorem SelfSigned.unique {c : ResponseCrypto} {payload : Value} {hash hash' : List UInt8} {s s' : Signature}
    (h : SelfSigned c payload hash s) (h' : SelfSigned c payload hash' s') : hash = hash' ∧ s = s' := by
  obtain ⟨text, ht, hs⟩ := h.signatureText
  obtain ⟨text', ht', hs'⟩ := h'.signatureText
  rw [ht, Option.some.injEq] at ht'
  subst ht'
  rw [hs, Except.ok.injEq] at hs'
  exact ⟨h.hashed.symm.trans h'.hashed, hs'⟩

/-! ## Authenticity -/

/-- A signature that is valid under a key is one that the key's holder made: `signed` says which messages. -/
def ResponseCrypto.Unforgeable (c : ResponseCrypto) (signed : NodeKey → List UInt8 → Prop) : Prop :=
  ∀ scheme key message signature, c.verify scheme key message signature = .ok () → signed ⟨scheme, key⟩ message

/-- No other value has the hash of this one. -/
def ResponseCrypto.CollisionFree (c : ResponseCrypto) (v : Value) : Prop := ∀ w, c.blake2 w = c.blake2 v → w = v

/-- What an accepted payload has to be: hashed by its hash, which the node signed with its key, and the only one
that is accepted with this hash and signature. -/
structure FromNode (c : ResponseCrypto) (nodeKey : NodeKey) (signed : NodeKey → List UInt8 → Prop)
    (payload : Value) : Prop where
  hash : ∃ text, (payload.index "response_hash").asStr = .some text ∧
    c.decodeBase64 text = .some (c.blake2 payload.unsigned)
  signature : ∃ text s, (payload.index "signature").asStr = .some text ∧ c.signatureFromStr text = .ok s ∧
    s.key = nodeKey ∧
    c.verify nodeKey.scheme nodeKey.bytes (c.blake2 payload.unsigned) s.signatureBytes = .ok ()
  made : signed nodeKey (c.blake2 payload.unsigned)
  only : ∀ payload', payload'.index "response_hash" = payload.index "response_hash" →
    payload'.index "signature" = payload.index "signature" →
    verifyResponseHashAndSignature c payload' true = .ok () → payload'.unsigned = payload.unsigned

/-- The payload is accepted only if it is from the node, and rejected with an error if not. -/
structure Authentic (c : ResponseCrypto) (nodeKey : NodeKey) (signed : NodeKey → List UInt8 → Prop)
    (payload : Value) : Prop where
  accepted : verifyResponseHashAndSignature c payload true = .ok () → FromNode c nodeKey signed payload
  rejected : verifyResponseHashAndSignature c payload true ≠ .ok () →
    ∃ e, verifyResponseHashAndSignature c payload true = .err e

/-- No other payload is accepted with its hash and signature, whoever's key it carries. -/
theorem SelfSigned.only {c : ResponseCrypto} {payload payload' : Value} {hash : List UInt8} {s : Signature}
    (h : SelfSigned c payload hash s) (hfree : c.CollisionFree payload.unsigned)
    (hhash : payload'.index "response_hash" = payload.index "response_hash")
    (hok : verifyResponseHashAndSignature c payload' true = .ok ()) : payload'.unsigned = payload.unsigned := by
  obtain ⟨hash', s', h'⟩ := verifyResponse_eq_ok.1 hok
  obtain ⟨text, ht, hd⟩ := h.hashText
  obtain ⟨text', ht', hd'⟩ := h'.hashText
  rw [hhash, ht, Option.some.injEq] at ht'
  subst ht'
  rw [hd, Option.some.injEq] at hd'
  exact hfree _ (by rw [h'.hashed, h.hashed, hd'])

/-- The Blake2b hash of the empty object's text, and its base64. -/
def emptyObjectHash : List UInt8 := [192, 157, 165, 34, 218, 194, 97, 195, 210, 86, 98, 48, 190, 209, 13, 47, 62, 241,
  63, 142, 118, 84, 87, 108, 18, 232, 87, 224, 127, 120, 96, 152]

def emptyObjectHashText : String := "wJ2lItrCYcPSVmIwvtENLz7xP452VFdsEuhX4H94YJg="

/-- Two holders of keys who both signed that hash. -/
def holdersExample : List Signature := [⟨.ed25519, [1], [11]⟩, ⟨.ed25519, [2], [22]⟩]

def signedExample (key : NodeKey) (message : List UInt8) : Prop :=
  key ∈ holdersExample.map Signature.key ∧ message = emptyObjectHash

def authenticCryptoExample : ResponseCrypto where
  signatureFromStr := fun text =>
    if text = "node" then .ok ⟨.ed25519, [1], [11]⟩
    else if text = "other" then .ok ⟨.ed25519, [2], [22]⟩
    else .error "invalid signature"
  publicKeyFromBytes := fun _ _ => .ok ()
  schemeKeyFromBytes := fun _ _ => .ok ()
  schemeSignatureFromBytes := fun _ _ => .ok ()
  verify := fun scheme key message signature =>
    if ⟨scheme, key, signature⟩ ∈ holdersExample ∧ message = emptyObjectHash then .ok () else .error "signature error"
  decodeBase64 := fun text => if text = emptyObjectHashText then .some emptyObjectHash else .none
  blake2 := fun v =>
    match v with
    | .object [] => emptyObjectHash
    | _ => []

/-- The empty object, with its hash and a signature. -/
def payloadExample (signature : String) : Value :=
  .object [("response_hash", .string emptyObjectHashText), ("signature", .string signature)]

theorem collisionFree_example (signature : String) :
    authenticCryptoExample.CollisionFree (payloadExample signature).unsigned := by
  intro w hw
  have hself : (payloadExample signature).unsigned = .object [] := rfl
  have hne : ([] : List UInt8) ≠ emptyObjectHash := by decide
  rw [hself] at hw ⊢
  cases w with
  | object members =>
    cases members with
    | nil => rfl
    | cons m members => exact absurd hw hne
  | _ => exact absurd hw hne

theorem unforgeable_example : authenticCryptoExample.Unforgeable signedExample := by
  intro scheme key message signature h
  by_cases hv : ⟨scheme, key, signature⟩ ∈ holdersExample ∧ message = emptyObjectHash
  · exact ⟨List.mem_map_of_mem hv.1, hv.2⟩
  · dsimp only [authenticCryptoExample] at h
    rw [if_neg hv] at h
    cases h

end AtomaProxy
