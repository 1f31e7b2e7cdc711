import SignIn.Service.Basic
import SignIn.Http.Request

/-!
# Cookies handed out

A session is handed out in two cookies: the session token, which scripts cannot read, and the CSRF
token, which the page sends back in a header. Both are taken back by two empty cookies that end at
once.
-/

namespace SignIn.Http

/-- Whether cookies are for secure connections only, and how long they last. -/
structure CookiePolicy where
  secure : Bool
  maxAge : Duration
  deriving DecidableEq, Repr

namespace CookiePolicy

/-- The cookie of the session token. -/
def sessionName : String := "session"

/-- The cookie of the CSRF token. -/
def csrfName : String := "X-CSRF"

/-- The header in which the CSRF token is sent back. -/
def csrfHeader : String := "x-csrf"

def attributes (policy : CookiePolicy) (maxAge : Nat) (httpOnly : Bool) : String :=
  s!"Path=/; Max-Age={maxAge}; SameSite=Lax" ++ (if httpOnly then "; HttpOnly" else "") ++
    (if policy.secure then "; Secure" else "")

/-- The two cookies with given values. -/
def pair (policy : CookiePolicy) (session csrf : String) (maxAge : Nat) : List String :=
  [s!"{sessionName}={session}; {policy.attributes maxAge true}",
    s!"{csrfName}={csrf}; {policy.attributes maxAge false}"]

/-- Whether a text can be sent as the value of a header. -/
def isSendable (text : String) : Bool := (Utf8.encode text).all Request.isHeaderByte

/-- The cookies that hand a session out, if the tokens can be sent. -/
def issue (policy : CookiePolicy) (session : SessionToken) (csrf : CsrfToken) :
    Option (List String) :=
  let cookies := policy.pair session.text csrf.text policy.maxAge.seconds
  if cookies.all isSendable then some cookies else none

/-- The cookies that take a session back. -/
def clear (policy : CookiePolicy) : List String := policy.pair "" "" 0

end CookiePolicy

end SignIn.Http
