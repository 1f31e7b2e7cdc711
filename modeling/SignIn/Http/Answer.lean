import SignIn.Http.CookiePolicy
import SignIn.Json.Value

/-!
# Answers

Every answer is a JSON object of three members: whether it is a success, the data, and the error. An
error has a code, of which the status follows.
-/

namespace SignIn.Http

inductive ErrorCode
  | invalidCredentials
  | invalidSession
  | csrfMismatch
  | badRequest
  | notFound
  | internalError
  deriving DecidableEq, Repr

namespace ErrorCode

def name : ErrorCode → String
  | invalidCredentials => "InvalidCredentials"
  | invalidSession => "InvalidSession"
  | csrfMismatch => "CsrfMismatch"
  | badRequest => "BadRequest"
  | notFound => "NotFound"
  | internalError => "InternalError"

def message : ErrorCode → String
  | invalidCredentials => Rejection.invalid.message
  | invalidSession => "Not signed in"
  | csrfMismatch => "Missing or invalid CSRF token"
  | badRequest => "Malformed request"
  | notFound => "Not found"
  | internalError => serverErrorMessage

def status : ErrorCode → Nat
  | invalidCredentials | invalidSession => 401
  | csrfMismatch => 403
  | badRequest => 400
  | notFound => 404
  | internalError => 500

/-- The code for a fault. The reason of an internal one is not told. -/
def ofFault : AuthError → ErrorCode
  | .invalidSession => invalidSession
  | .csrfMismatch => csrfMismatch
  | .store _ | .internal _ => internalError

def ofRejection : Rejection → ErrorCode
  | .invalid => invalidCredentials

end ErrorCode

structure Answer where
  status : Nat
  contentType : String
  setCookies : List String
  body : Json

namespace Answer

def ofJson (status : Nat) (setCookies : List String) (body : Json) : Answer :=
  ⟨status, "application/json", setCookies, body⟩

/-- A success with data. -/
def success (setCookies : List String) (data : Json) : Answer :=
  ofJson 200 setCookies (.object [("success", .bool true), ("data", data), ("error", .null)])

/-- A failure with a message. -/
def failure (code : ErrorCode) (message : String) : Answer :=
  ofJson code.status [] (.object [("success", .bool false), ("data", .null),
    ("error", .object [("code", .text code.name), ("title", .text Rejection.title),
      ("message", .text message)])])

/-- The data about a session. -/
def sessionJson (info : SessionInfo) : Json :=
  .object [("user_id", .text info.userId.text), ("username", .text info.username),
    ("expires_at", .text info.expiresAt.text)]

end Answer

end SignIn.Http
