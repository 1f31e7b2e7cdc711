import SignIn.Text.Quoted

/-!
# Faults

Why a request about sessions failed. A wrong password is no fault: it is an answer.
-/

namespace SignIn

inductive AuthError
  | invalidSession
  | csrfMismatch
  | store (reason : String)
  | internal (reason : String)
  deriving DecidableEq, Repr

namespace AuthError

def message : AuthError → String
  | invalidSession => "session invalid or expired"
  | csrfMismatch => "csrf token does not match session"
  | store reason => s!"store error: {reason}"
  | internal reason => s!"internal error: {reason}"

/-- The form for logs. -/
def debugText : AuthError → String
  | invalidSession => "InvalidSession"
  | csrfMismatch => "CsrfMismatch"
  | store reason => s!"Store({Text.quoted reason})"
  | internal reason => s!"InternalError({Text.quoted reason})"

/-- Whether the fault is the service's own, and not to be taken for a refusal. -/
def isInternal : AuthError → Bool
  | store _ | internal _ => true
  | invalidSession | csrfMismatch => false

end AuthError

end SignIn
