/-
`verify_response_hash_and_signature`: a node's answer carries a hash of itself
and a signature of that hash.

The base64 text of the hash is decoded with `unwrap`: an answer whose
`response_hash` is a string that is not base64 does not fail verification, it
panics. Every other malformed answer is an error.
-/
import AtomaProxy.Auth.SuiCrypto
import AtomaProxy.Server.Settlement
import AtomaProxy.Server.Value

namespace AtomaProxy

open Base

/-- What the verification rests on beside the signatures: base64, and the Blake2b hash of a value's text. -/
structure ResponseCrypto extends SuiCrypto where
  decodeBase64 : String → Option (List UInt8)
  blake2 : Value → List UInt8

def invalidResponse (message : String) : AtomaProxyError :=
  .internalError message (.some "Invalid response from inference service") "verify_signature"

def orInvalid {α} (pre : String) (x : Except String α) : Except AtomaProxyError α :=
  x.mapError fun e => invalidResponse (pre ++ e)

/-- The object without its hash and signature. -/
def Value.unsigned : Value → Value
  | .object members => .object (members.filter fun m => m.1 != "response_hash" && m.1 != "signature")
  | v => v

/-- `verify_response_hash`. -/
def verifyResponseHash (c : ResponseCrypto) (value : Value) (responseHash : List UInt8) :
    Except AtomaProxyError Unit :=
  if c.blake2 value.unsigned = responseHash then .ok ()
  else .error (invalidResponse "Response hash does not match")

/-- One arm of the match on the scheme: the texts it fails with say what the key and the signature are. -/
def verifyScheme (c : ResponseCrypto) (signature : Signature) (responseHash : List UInt8)
    (keyText signatureText : String) (verifyText : String → String) : Except AtomaProxyError Unit := do
  orInvalid keyText (c.schemeKeyFromBytes signature.scheme signature.publicKeyBytes)
  orInvalid signatureText (c.schemeSignatureFromBytes signature.scheme signature.signatureBytes)
  (c.verify signature.scheme signature.publicKeyBytes responseHash signature.signatureBytes).mapError
    fun e => invalidResponse (verifyText e)

/-- The verification once the hash is decoded. -/
def verifyDecoded (c : ResponseCrypto) (payload : Value) (verifyHash : Bool) (responseHash : List UInt8) :
    Except AtomaProxyError Unit := do
  if verifyHash then
    verifyResponseHash c payload responseHash
  let .some nodeSignature := (payload.index "signature").asStr
    | .error (invalidResponse "Missing signature in payload")
  let signature ← orInvalid "Failed to create signature: " (c.signatureFromStr nodeSignature)
  orInvalid "Failed to create public key: " (c.publicKeyFromBytes signature.scheme signature.publicKeyBytes)
  match signature.scheme with
  | .ed25519 =>
    verifyScheme c signature responseHash "Failed to create public key: " "Failed to create ed25519 signature: "
      fun e => "Failed to verify ed25519 signature: " ++ e
  | .secp256k1 =>
    verifyScheme c signature responseHash "Failed to create secp256k1 public key: "
      "Failed to create secp256k1 signature: " fun _ => "Failed to verify secp256k1 signature"
  | .secp256r1 =>
    verifyScheme c signature responseHash "Failed to create secp256r1 public key: "
      "Failed to create secp256r1 signature: " fun _ => "Failed to verify secp256r1 signature"
  | _ => .error (invalidResponse "Currently unsupported signature scheme")

/-- `verify_response_hash_and_signature`: `STANDARD.decode(response_hash).unwrap()` comes first. -/
def verifyResponseHashAndSignature (c : ResponseCrypto) (payload : Value) (verifyHash : Bool) :
    Ending AtomaProxyError Unit :=
  match (payload.index "response_hash").asStr with
  | .none => .err (invalidResponse "Missing response_hash in payload")
  | .some text =>
    match c.decodeBase64 text with
    | .none => .panic
    | .some responseHash => .ofExcept (verifyDecoded c payload verifyHash responseHash)

theorem verifyScheme_errors {c : ResponseCrypto} {signature : Signature} {responseHash : List UInt8}
    {keyText signatureText : String} {verifyText : String → String} :
    ErrorsAre (fun e => ∃ message, e = invalidResponse message)
      (verifyScheme c signature responseHash keyText signatureText verifyText) :=
  (errorsAre_mapError fun _ => ⟨_, rfl⟩).bind fun _ _ =>
    (errorsAre_mapError fun _ => ⟨_, rfl⟩).bind fun _ _ => errorsAre_mapError fun _ => ⟨_, rfl⟩

/-- Every error of the verification says that the answer is invalid. -/
theorem verifyDecoded_errors {c : ResponseCrypto} {payload : Value} {verifyHash : Bool} {responseHash : List UInt8} :
    ErrorsAre (fun e => ∃ message, e = invalidResponse message)
      (verifyDecoded c payload verifyHash responseHash) := by
  have hrest : ∀ u : Unit, ErrorsAre (fun e => ∃ message, e = invalidResponse message)
      (verifyDecoded c payload false responseHash) := by
    intro _
    unfold verifyDecoded
    dsimp only [Bool.false_eq_true, if_false]
    cases (payload.index "signature").asStr with
    | none => exact errorsAre_error ⟨_, rfl⟩
    | some nodeSignature =>
      refine (errorsAre_mapError fun _ => ⟨_, rfl⟩).bind fun signature _ => ?_
      refine (errorsAre_mapError fun _ => ⟨_, rfl⟩).bind fun _ _ => ?_
      cases signature.scheme with
      | ed25519 | secp256k1 | secp256r1 => exact verifyScheme_errors
      | _ => exact errorsAre_error ⟨_, rfl⟩
  cases verifyHash with
  | false => exact hrest ()
  | true =>
    refine ErrorsAre.bind ?_ fun u _ => hrest u
    unfold verifyResponseHash
    split
    · exact errorsAre_ok _
    · exact errorsAre_error ⟨_, rfl⟩

theorem verifyResponse_err {c : ResponseCrypto} {v : Value} {verifyHash : Bool} {e : AtomaProxyError}
    (h : verifyResponseHashAndSignature c v verifyHash = .err e) : ∃ message, e = invalidResponse message := by
  unfold verifyResponseHashAndSignature at h
  split at h
  · cases h
    exact ⟨_, rfl⟩
  · split at h
    · cases h
    · next responseHash _ =>
      cases hv : verifyDecoded c v verifyHash responseHash with
      | ok a => rw [hv] at h; cases h
      | error e' =>
        rw [hv] at h
        cases h
        exact verifyDecoded_errors e hv

/-- The answer's hash is a string that is not base64. -/
def Value.badResponseHash (c : ResponseCrypto) (v : Value) : Bool :=
  match (v.index "response_hash").asStr with
  | .none => false
  | .some text => (c.decodeBase64 text).isNone

/-- The verification panics on such an answer and on no other. -/
theorem verifyResponse_panic {c : ResponseCrypto} {v : Value} {verifyHash} :
    verifyResponseHashAndSignature c v verifyHash = .panic ↔ v.badResponseHash c = true := by
  unfold verifyResponseHashAndSignature Value.badResponseHash
  cases (v.index "response_hash").asStr with
  | none => simp
  | some text => cases h : c.decodeBase64 text <;> simp [h]

end AtomaProxy
