/-!
# Failures

`GatewayError` is what the caller of a request sees, and says whether the user has to log in again.
`RefreshError` is why a refresh cycle failed; every caller that waits on the cycle is told the same.
-/

namespace BearerClient

/-- Why a request has no payload. -/
inductive GatewayError where
  /-- There is no session to send the request under. -/
  | notAuthenticated
  /-- The request's time budget is used up. -/
  | timeout (afterMs : Nat)
  /-- The exchange broke before the response was complete. -/
  | network (message : String)
  /-- The session could not be refreshed, or was rejected after the refresh. -/
  | sessionExpired
  /-- The backend answered with a status outside 200 to 299. -/
  | requestFailed (status : Nat) (message : String)
  /-- The backend's successful answer is not what the caller asked for. -/
  | invalidResponse (message : String)
  /-- The request could not be built, or the session store failed. -/
  | internal (message : String)
  deriving DecidableEq, Repr

namespace GatewayError

/-- The wording of a failure. -/
def message : GatewayError → String
  | notAuthenticated => "No token found. Login first."
  | timeout afterMs => "Request timed out after " ++ toString afterMs ++ "ms"
  | network message => "Network error: " ++ message
  | sessionExpired => "Session expired. Please log in again."
  | requestFailed status message => "Request failed (" ++ toString status ++ "): " ++ message
  | invalidResponse message => "Invalid response: " ++ message
  | internal message => "Internal error: " ++ message

/-- Whether only a new login can help. -/
def requiresLogin : GatewayError → Bool
  | notAuthenticated | sessionExpired => true
  | _ => false

/-- The status of the response that was a failure. -/
def status? : GatewayError → Option Nat
  | requestFailed status _ => some status
  | _ => none

end GatewayError

/-- Why a refresh cycle gave no token. -/
inductive RefreshError where
  /-- There was no session. -/
  | noSession
  /-- The session had no refresh token. -/
  | missingRefreshToken
  /-- The backend refused the refresh token. -/
  | rejected (status : Nat) (message : String)
  /-- The exchange broke before the response was complete. -/
  | transport (message : String)
  /-- The backend's successful answer holds no usable tokens. -/
  | malformed (message : String)
  /-- The session store failed. -/
  | store (message : String)
  /-- The cycle broke down without a result. -/
  | aborted
  deriving DecidableEq, Repr

/-- The wording of a failed refresh. -/
def RefreshError.message : RefreshError → String
  | noSession => "no session to refresh"
  | missingRefreshToken => "session has no refresh token"
  | rejected status message => "refresh rejected: " ++ toString status ++ " - " ++ message
  | transport message => "refresh transport failed: " ++ message
  | malformed message => "refresh response malformed: " ++ message
  | store message => "session store failed during refresh: " ++ message
  | aborted => "refresh cycle ended without a result"

end BearerClient
