/-
Sui signatures as the repository's code takes them apart. The schemes' own
algorithms are a third-party library: parsing a signature and its parts, and
verifying one, are parameters.
-/
import AtomaProxy.Base.Bytes

namespace AtomaProxy

/-- `SignatureScheme`. -/
inductive SignatureScheme where
  | ed25519
  | secp256k1
  | secp256r1
  | bls12381
  | multiSig
  | zkLoginAuthenticator
  | passkeyAuthenticator
  deriving DecidableEq, Repr

/-- A simple `Signature`: its scheme, the public key it carries and the signature proper. -/
structure Signature where
  scheme : SignatureScheme
  publicKeyBytes : List UInt8
  signatureBytes : List UInt8
  deriving DecidableEq, Repr

/-- The library's functions, each failing with a text. -/
structure SuiCrypto where
  /-- `Signature::from_str` -/
  signatureFromStr : String → Except String Signature
  /-- `PublicKey::try_from_bytes` -/
  publicKeyFromBytes : SignatureScheme → List UInt8 → Except String Unit
  /-- `from_bytes` of the scheme's own key and signature types -/
  schemeKeyFromBytes : SignatureScheme → List UInt8 → Except String Unit
  schemeSignatureFromBytes : SignatureScheme → List UInt8 → Except String Unit
  /-- `public_key.verify(message, &signature)` of the scheme -/
  verify : SignatureScheme → List UInt8 → List UInt8 → List UInt8 → Except String Unit

end AtomaProxy
