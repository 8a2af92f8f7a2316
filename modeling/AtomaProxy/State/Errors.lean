/-
The errors of the state manager that its modelled statements and handlers end
with, and how a statement's error becomes one.
-/
import AtomaProxy.Base.Table

namespace AtomaProxy

open Base

/-- `AtomaStateRemoteAttestationError`, without the verifiers' own errors. -/
inductive AtomaStateRemoteAttestationError where
  | failedToAttestRemote
  | failedToRetrieveContractNonce
  | failedToDecode (evidenceType : String)
  | topologyCheckFailed (checkType : String)
  deriving DecidableEq, Repr

/-- `AtomaStateManagerError`. -/
inductive AtomaStateManagerError where
  | databaseConnectionError (e : SqlError)
  | stackNotFound
  | attestationNodeNotFound (attestationNodeId : Int64)
  | invalidMerkleLeafLength
  | invalidCommittedStackProofLength
  | jsonParseError (text : String)
  | channelSendError
  | insufficientBalance
  | compressionError (text : String)
  | remoteAttestationError (e : AtomaStateRemoteAttestationError)
  | invalidTimestamp
  | invalidCountry (country : String)
  | invalidUrl (url : String)
  | nodeNotFound
  | nodeSmallIdOwnershipVerificationFailed
  deriving DecidableEq, Repr

/-- `?` on the result of a query. -/
def query {α} (x : Except SqlError α) : Except AtomaStateManagerError α :=
  x.mapError .databaseConnectionError

@[simp] theorem query_eq_ok {α} {x : Except SqlError α} {a} : query x = .ok a ↔ x = .ok a := by
  cases x <;> simp [query, Except.mapError]

@[simp] theorem query_ok {α} (a : α) : query (.ok a) = .ok a := rfl

/-- A statement that the database does not answer `fails`. -/
def answered {α} (fails : Bool) (x : Except AtomaStateManagerError α) : Except AtomaStateManagerError α :=
  if fails then query (.error .unavailable) else x

@[simp] theorem answered_false {α} (x : Except AtomaStateManagerError α) : answered false x = x := rfl

@[simp] theorem answered_eq_ok {α} {fails : Bool} {x : Except AtomaStateManagerError α} {a} :
    answered fails x = .ok a ↔ fails = false ∧ x = .ok a := by
  cases fails with
  | false => rw [answered_false, eq_self_iff_true, true_and]
  | true => exact ⟨fun h => (nomatch h), fun h => absurd h.1 Bool.noConfusion⟩

end AtomaProxy
