import SignIn.Http.Answer
import SignIn.Http.Cookies
import SignIn.Json.Texts

/-!
# Routes

Three paths are served: one to sign in, one to sign out and one to ask whose session it is. A
request is tried on all of them in turn until one answers. What the others refused it for is
weighed together: a code counts first, then a malformed body, then a wrong media type, and all else
is not found.
-/

namespace SignIn.Http

/-- Why a route does not answer a request. -/
inductive Refusal
  | notFound
  | methodNotAllowed
  | noLength
  | tooLong
  | wrongMediaType
  | malformedBody (reason : String)
  | unreadableHeader
  | code (code : ErrorCode)
  deriving DecidableEq, Repr

/-- A route takes a request, or refuses it. -/
abbrev Route (σ : Type) : Type := Request → StateM σ (Except Refusal Answer)

namespace Route

variable {σ : Type}

/-- The names of a request to sign in. -/
def loginShape : Json.Shape 2 := ⟨"SigninRequest", #v["username", "password"]⟩

/-- The most bytes that a body may be said to have. -/
def maxLength : Nat := 16384

/-- Checks the method, and then the last part of the path. -/
def checkLine (method name : String) (request : Request) : Except Refusal Unit :=
  if request.method ≠ ascii method then .error .methodNotAllowed
  else if request.segments ≠ [ascii "api", ascii "v1", ascii name] then .error .notFound
  else .ok ()

/-- The credentials in the body of a request. -/
def readLogin (request : Request) : Except Refusal Login := do
  match request.contentLength? with
  | none => .error .noLength
  | some length =>
    if maxLength < length then .error .tooLong
    else if ¬request.mayBeJson then .error .wrongMediaType
    else
      match Json.readRecord loginShape request.body with
      | .ok fields => .ok ⟨fields[0], fields[1]⟩
      | .error fault => .error (.malformedBody (fault.message request.body))

/-- The session token in the cookies of a request. -/
def readSession (request : Request) : Except Refusal SessionToken :=
  match request.cookieValue? CookiePolicy.sessionName with
  | some text => if text.isEmpty then .error (.code .invalidSession) else .ok ⟨text⟩
  | none => .error (.code .invalidSession)

/-- The CSRF token in a header of a request. -/
def readCsrf (request : Request) : Except Refusal (Option CsrfToken) :=
  match request.value? CookiePolicy.csrfHeader with
  | none => .ok none
  | some value =>
    if value.all Request.isTextByte then .ok ((Utf8.decode value).map CsrfToken.mk)
    else .error .unreadableHeader

/-- An answer to what an attempt gave. A fault becomes its code. -/
def answer {α : Type} (attempt : Attempt σ α) (success : α → Except Refusal Answer) :
    StateM σ (Except Refusal Answer) := fun state =>
  match attempt.perform state with
  | (.ok a, state) => (success a, state)
  | (.error error, state) => (.error (.code (.ofFault error)), state)

/-- The answer to credentials. -/
def signInAnswer (policy : CookiePolicy) : SignInAnswer → Except Refusal Answer
  | .rejected reason => .error (.code (.ofRejection reason))
  | .authenticated issued =>
    match policy.issue issued.session issued.csrf with
    | some cookies => .ok (.success cookies (Answer.sessionJson issued.info))
    | none => .error (.code .internalError)

/-- Signs in with the credentials in the body. -/
def signIn (service : Service σ) (policy : CookiePolicy) (draw : Draw) :
    Route (Service.State σ) := fun request =>
  match checkLine "POST" "signin" request *> readLogin request with
  | .error refusal => pure (.error refusal)
  | .ok login => answer (service.signIn draw login) (signInAnswer policy)

/-- Ends the session in the cookies. -/
def signOut (service : Service σ) (policy : CookiePolicy) (draw : Draw) :
    Route (Service.State σ) := fun request =>
  let tokens := do
    checkLine "POST" "signout" request
    let session ← readSession request
    let csrf ← readCsrf request
    return (session, csrf)
  match tokens with
  | .error refusal => pure (.error refusal)
  | .ok (_, none) => pure (.error (.code .csrfMismatch))
  | .ok (session, some csrf) =>
    answer (service.signOut draw.now session csrf) fun _ => .ok (.success policy.clear .null)

/-- Tells whose session is in the cookies. -/
def whoAmI (service : Service σ) (draw : Draw) : Route (Service.State σ) := fun request =>
  match checkLine "GET" "whoami" request *> readSession request with
  | .error refusal => pure (.error refusal)
  | .ok session =>
    answer (service.whoIs draw.now session) fun info => .ok (.success [] (Answer.sessionJson info))

/-- Tries routes in turn, and gathers refusals while none answers. -/
def firstOf (request : Request) : List (Route σ) → StateM σ (Except (List Refusal) Answer)
  | [] => pure (.error [])
  | route :: routes => do
    match ← route request with
    | .ok answer => return .ok answer
    | .error refusal =>
      match ← firstOf request routes with
      | .ok answer => return .ok answer
      | .error refusals => return .error (refusal :: refusals)

/-- The code in a refusal. -/
def code? : Refusal → Option ErrorCode
  | .code code => some code
  | _ => none

/-- What is malformed in a body. -/
def malformed? : Refusal → Option String
  | .malformedBody reason => some reason
  | _ => none

/-- The answer where every route refused. -/
def recover (refusals : List Refusal) : Answer :=
  match refusals.findSome? code?, refusals.findSome? malformed? with
  | some code, _ => .failure code code.message
  | none, some reason =>
    .failure .badRequest s!"Malformed request: Request body deserialize error: {reason}"
  | none, none =>
    if refusals.contains .wrongMediaType then .failure .badRequest "Expected a JSON body"
    else if refusals.contains .methodNotAllowed ∨ refusals.all (· = .notFound) then
      .failure .notFound ErrorCode.notFound.message
    else .failure .internalError ErrorCode.internalError.message

end Route

/-- Answers one request. -/
def handle {σ : Type} (service : Service σ) (policy : CookiePolicy) (draw : Draw)
    (request : Request) : StateM (Service.State σ) Answer := do
  if request.segments.take 2 ≠ [ascii "api", ascii "v1"] then return Route.recover [.notFound]
  let routes := [Route.signIn service policy draw, Route.signOut service policy draw,
    Route.whoAmI service draw]
  match ← Route.firstOf request routes with
  | .ok answer => return answer
  | .error refusals => return Route.recover refusals

end SignIn.Http
