/-
The errors of the authentication service that its modelled functions end with.
An error of a library is the text it carries.
-/
import AtomaProxy.State.Errors

namespace AtomaProxy

/-- `AuthError`. -/
inductive AuthError where
  | jsonWebTokenError (text : String)
  | notRefreshToken
  | atomaStateManagerError (e : AtomaStateManagerError)
  | invalidRefreshToken
  | revokedToken
  | failedToParseSignature (text : String)
  | bcsError (text : String)
  | fastCryptoError (text : String)
  | anyhowError (text : String)
  | noBalanceChangesFound
  | multipleSenders
  | multipleReceivers
  | senderOrReceiverNotFound
  | paymentNotForThisUser
  | zkLoginNotEnabled
  | suiError (text : String)
  deriving DecidableEq, Repr

end AtomaProxy
