/-
`AtomaProxyError`, its code and status, and the two texts made from it: the
one the client is answered with and the one that is logged.
-/
import AtomaProxy.State.Errors

namespace AtomaProxy

inductive AtomaProxyError where
  | requestError (message endpoint : String)
  | authError (authError endpoint : String)
  | internalError (message : String) (clientMessage : Option String) (endpoint : String)
  | balanceError (message endpoint : String)
  | notFound (message endpoint : String)
  | notImplemented (message endpoint : String)
  | serviceUnavailable (message endpoint : String)
  | locked (message endpoint : String)
  | unavailableStack (message endpoint : String)
  | tooManyRequests (message endpoint : String)
  | fiatPaymentsOnly (message endpoint : String)
  deriving DecidableEq, Repr

namespace AtomaProxyError

def errorCode : AtomaProxyError → String
  | requestError .. => "REQUEST_ERROR"
  | authError .. => "AUTH_ERROR"
  | internalError .. => "INTERNAL_ERROR"
  | notFound .. => "NOT_FOUND"
  | notImplemented .. => "NOT_IMPLEMENTED"
  | serviceUnavailable .. => "SERVICE_UNAVAILABLE"
  | balanceError .. => "BALANCE_ERROR"
  | locked .. => "LOCKED"
  | unavailableStack .. => "UNAVAILABLE_STACK"
  | tooManyRequests .. => "TOO_MANY_REQUESTS"
  | fiatPaymentsOnly .. => "FIAT_PAYMENTS_ONLY"

def statusCode : AtomaProxyError → Nat
  | fiatPaymentsOnly .. | requestError .. => 400
  | authError .. => 401
  | internalError .. => 500
  | notFound .. => 404
  | notImplemented .. => 501
  | serviceUnavailable .. => 503
  | balanceError .. => 402
  | locked .. => 423
  | unavailableStack .. => 425
  | tooManyRequests .. => 429

def clientMessage : AtomaProxyError → String
  | requestError message _ => "Request error: " ++ message
  | authError .. => "Authentication failed"
  | internalError _ clientMessage _ => clientMessage.getD "Internal server error occurred"
  | notFound .. => "Resource not found"
  | notImplemented .. => "Endpoint not implemented"
  | serviceUnavailable .. => "Service unavailable"
  | balanceError .. => "Insufficient balance"
  | locked .. => "Locked"
  | unavailableStack .. => "Stack unavailable"
  | tooManyRequests .. => "Too many requests"
  | fiatPaymentsOnly .. => "Only fiat payments are supported"

/-- The error as it is printed. -/
def display : AtomaProxyError → String
  | requestError message _ => "Invalid request: " ++ message
  | authError text _ => "Authentication error: " ++ text
  | internalError message _ _ => "Internal server error: " ++ message
  | balanceError message _ => "Insufficient balance: " ++ message
  | notFound message _ => "Resource not found: " ++ message
  | notImplemented message _ => "Endpoint not implemented: " ++ message
  | serviceUnavailable message _ => "Service unavailable: " ++ message
  | locked message _ => "Locked: " ++ message
  | unavailableStack message _ => "Stack unavailable: " ++ message
  | tooManyRequests message _ => "Too many requests: " ++ message
  | fiatPaymentsOnly .. => "Only fiat payments are supported"

def endpoint : AtomaProxyError → String
  | requestError _ e | authError _ e | internalError _ _ e | notFound _ e | notImplemented _ e
  | serviceUnavailable _ e | balanceError _ e | locked _ e | unavailableStack _ e | tooManyRequests _ e
  | fiatPaymentsOnly _ e => e

/-- Every status an error is answered with is a client's or a server's error. -/
theorem statusCode_range (e : AtomaProxyError) : 400 ≤ e.statusCode ∧ e.statusCode < 600 := by
  cases e <;> simp only [statusCode] <;> omega

end AtomaProxyError

/-- What `send_event_with_response` makes of the state manager's answer to an event. -/
def stateManagerReply {α} (eventName endpoint : String) (reply : Except AtomaStateManagerError α) :
    Except AtomaProxyError α :=
  reply.mapError fun e =>
    match e with
    | .insufficientBalance => .balanceError "Insufficient balance to lock compute units" endpoint
    | _ => .internalError ("Failed to get " ++ eventName ++ " result") .none endpoint

/-- `StatusCode::is_success`. -/
def isSuccess (status : Nat) : Bool := 200 ≤ status && status < 300

/-- A status as it is printed: its number and its canonical reason. -/
def statusText (status : Nat) (reason : Option String) : String :=
  toString status ++ " " ++ reason.getD "<unknown status code>"

/-- `handle_status_code_error`, for a status that is not a success: what the node's answer is turned into. -/
def handleStatusCodeError (status : Nat) (reason : Option String) (endpoint : String) : AtomaProxyError :=
  let error := reason.getD "Unknown error"
  let text := "Inference service returned status code error " ++ statusText status reason
  match status with
  | 401 => .authError error endpoint
  | 500 => .internalError ("Inference service returned internal server error: " ++ error) (.some text) endpoint
  | 400 => .internalError ("Inference service returned bad request error: " ++ error) (.some error) endpoint
  | 423 => .locked ("Inference service returned locked error: " ++ error) endpoint
  | 425 => .unavailableStack ("Inference service returned too early error: " ++ error) endpoint
  | 429 => .tooManyRequests ("Inference service returned too many requests error: " ++ error) endpoint
  | _ => .internalError ("Inference service returned non-success error: " ++ error) (.some text) endpoint

end AtomaProxy
