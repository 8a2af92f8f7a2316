/-
`get_sui_address_from_signature`: the Sui address whose wallet signed a
message, and `update_sui_address`, which registers it for a user.

A simple signature names the key it is checked with, and the address is that
key's. A zkLogin signature is checked with the key of its inner simple
signature, and the address is that of the issuer and the address seed in its
inputs; nothing looks at the proof that binds the two.
-/
import AtomaProxy.Auth.IssDetails
import AtomaProxy.Auth.SuiCrypto

namespace AtomaProxy

open Base

/-- An address is its text. -/
structure SuiAddress where
  text : String
  deriving DecidableEq, Repr

inductive SimpleScheme where
  | ed25519
  | secp256k1
  | secp256r1
  deriving DecidableEq, Repr

def SimpleScheme.toSignatureScheme : SimpleScheme → SignatureScheme
  | .ed25519 => .ed25519
  | .secp256k1 => .secp256k1
  | .secp256r1 => .secp256r1

structure SimpleSignature where
  scheme : SimpleScheme
  signature : List UInt8
  publicKey : List UInt8
  deriving DecidableEq, Repr

/-- A slice of a base64url text. -/
structure IssBase64Details where
  value : String
  indexMod4 : UInt8
  deriving DecidableEq, Repr

structure ZkLoginInputs where
  proofPoints : List UInt8
  issBase64Details : IssBase64Details
  headerBase64 : String
  addressSeed : String
  deriving DecidableEq, Repr

structure ZkLoginAuthenticator where
  inputs : ZkLoginInputs
  maxEpoch : UInt64
  signature : SimpleSignature
  deriving DecidableEq, Repr

inductive UserSignature where
  | simple (signature : SimpleSignature)
  | zkLogin (authenticator : ZkLoginAuthenticator)
  /-- multisig and passkey -/
  | other
  deriving DecidableEq, Repr

/-- A `PublicKey` that an address is derived from. -/
inductive PublicKey where
  | simple (scheme : SimpleScheme) (bytes : List UInt8)
  | zkLogin (publicIdentifier : List UInt8)
  deriving DecidableEq, Repr

/-- The libraries' functions beside the schemes' own. -/
structure WalletCrypto extends SuiCrypto where
  /-- `UserSignature::from_base64` -/
  userSignatureFromBase64 : String → Except String UserSignature
  /-- `bcs::to_bytes` of the personal message with its intent -/
  bcsPersonalMessage : List UInt8 → Except String (List UInt8)
  blake2b : List UInt8 → List UInt8
  /-- `Bn254FrElement::from_str` -/
  bn254FromStr : String → Except String (List UInt8)
  /-- `ZkLoginPublicIdentifier::new` -/
  zkLoginPublicIdentifier : List UInt8 → List UInt8 → Except String (List UInt8)
  /-- `SuiAddress::from(&PublicKey)` -/
  suiAddress : PublicKey → SuiAddress

def fastCrypto {α} (x : Except String α) : Except AuthError α := x.mapError .fastCryptoError

/-- `personal_message_hash`. -/
def personalMessageHash (c : WalletCrypto) (msg : String) : Except AuthError (List UInt8) :=
  ((c.bcsPersonalMessage msg.toUTF8.data.toList).mapError .bcsError).map c.blake2b

/-- Who a zkLogin signature says it is of. -/
structure ZkLoginIdentity where
  iss : List UInt8
  addressSeed : List UInt8
  publicIdentifier : List UInt8

/-- The zkLogin arm: what it takes out of the inputs. -/
def zkLoginIdentity (c : WalletCrypto) (inputs : ZkLoginInputs) : Ending AuthError ZkLoginIdentity := do
  let addressSeed ← .ofExcept (fastCrypto (c.bn254FromStr inputs.addressSeed))
  let text ← decodeBase64Url inputs.issBase64Details.value inputs.issBase64Details.indexMod4
  match captureIss text with
  | .none => .panic
  | .some iss =>
    let publicIdentifier ← .ofExcept ((c.zkLoginPublicIdentifier iss addressSeed).mapError .suiError)
    pure ⟨iss, addressSeed, publicIdentifier⟩

/-- One arm of the match on a simple signature, of its scheme: the key and the signature parsed, the signature
verified. -/
def verifySimple (c : WalletCrypto) (s : SimpleSignature) (messageHash : List UInt8) : Except AuthError Unit := do
  fastCrypto (c.schemeKeyFromBytes s.scheme.toSignatureScheme s.publicKey)
  fastCrypto (c.schemeSignatureFromBytes s.scheme.toSignatureScheme s.signature)
  fastCrypto (c.verify s.scheme.toSignatureScheme s.publicKey messageHash s.signature)

/-- `PublicKey::try_from_bytes(scheme, pk.as_bytes()).unwrap()`. -/
def simplePublicKey (c : WalletCrypto) (s : SimpleSignature) : Ending AuthError PublicKey :=
  match c.publicKeyFromBytes s.scheme.toSignatureScheme s.publicKey with
  | .ok () => .ok (.simple s.scheme s.publicKey)
  | .error _ => .panic

/-- `get_sui_address_from_signature`. -/
def getSuiAddressFromSignature (c : WalletCrypto) (signature message : String) : Ending AuthError SuiAddress := do
  let userSignature ← .ofExcept ((c.userSignatureFromBase64 signature).mapError fun _ =>
    .failedToParseSignature signature)
  let messageHash ← .ofExcept (personalMessageHash c message)
  match userSignature with
  | .zkLogin a =>
    let identity ← zkLoginIdentity c a.inputs
    .ofExcept (verifySimple c a.signature messageHash)
    pure (c.suiAddress (.zkLogin identity.publicIdentifier))
  | .simple s =>
    .ofExcept (verifySimple c s messageHash)
    let publicKey ← simplePublicKey c s
    pure (c.suiAddress publicKey)
  | .other => .err (.failedToParseSignature "Unsupported signature")

/-- The events the modelled authentication functions send and do not wait for. -/
inductive AuthEvent where
  | updateSuiAddress (userId : Int64) (suiAddress : String)
  | topUpBalance (userId amount : Int64)
  deriving DecidableEq, Repr

/-- What a user signs to register a wallet. -/
def registrationMessage (userId : Int64) : String :=
  "Sign this message to prove you are the owner of this wallet. User ID: " ++ toString userId

/-- `update_sui_address`, for what the validation of the token answers. -/
def updateSuiAddress (c : WalletCrypto) (token : Except AuthError Int64) (signature : String) :
    Eff AuthEvent AuthError Unit := do
  let userId ← .ofExcept token
  let suiAddress ← .ofEnding (getSuiAddressFromSignature c signature (registrationMessage userId))
  .send (.updateSuiAddress userId suiAddress.text)

end AtomaProxy
