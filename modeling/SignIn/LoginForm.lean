import SignIn.Service.Basic

/-!
# The login form

Two fields and a dialog for failures. The dialog stays until it is dismissed or a field is edited,
and only a new failure brings it back.
-/

namespace SignIn

inductive Dialog
  | hidden
  | shown (title description : String)
  | dismissed
  deriving DecidableEq, Repr

structure LoginForm where
  username : String
  password : String
  dialog : Dialog
  deriving DecidableEq, Repr

namespace LoginForm

/-- An empty form without a dialog. -/
def empty : LoginForm := ⟨"", "", .hidden⟩

def isDialogVisible (form : LoginForm) : Bool :=
  match form.dialog with
  | .shown _ _ => true
  | _ => false

def setUsername (form : LoginForm) (text : String) : LoginForm := ⟨text, form.password, .hidden⟩

def setPassword (form : LoginForm) (text : String) : LoginForm := ⟨form.username, text, .hidden⟩

/-- Adds text at the end of the username. -/
def typeUsername (form : LoginForm) (text : String) : LoginForm :=
  form.setUsername (form.username ++ text)

/-- Adds text at the end of the password. -/
def typePassword (form : LoginForm) (text : String) : LoginForm :=
  form.setPassword (form.password ++ text)

/-- Closes the dialog if it is shown. -/
def dismiss (form : LoginForm) : LoginForm :=
  if form.isDialogVisible then { form with dialog := .dismissed } else form

/-- What the form presents to sign in. -/
def login (form : LoginForm) : Login := ⟨form.username, form.password⟩

/-- The dialog after an outcome. -/
def dialogAfter : Except AuthError SignInAnswer → Dialog
  | .ok (.authenticated _) => .hidden
  | .ok (.rejected reason) => .shown Rejection.title reason.message
  | .error _ => .shown Rejection.title serverErrorMessage

/-- The session of an outcome, if one was handed out. -/
def issuedBy : Except AuthError SignInAnswer → Option IssuedSession
  | .ok (.authenticated issued) => some issued
  | _ => none

/-- Takes an outcome in, and gives the session that was handed out. -/
def apply (form : LoginForm) (outcome : Except AuthError SignInAnswer) :
    Option IssuedSession × LoginForm :=
  (issuedBy outcome, { form with dialog := dialogAfter outcome })

/-- Presents the two fields to the service. -/
def submit {σ : Type} (form : LoginForm) (service : Service σ) (draw : Draw)
    (state : Service.State σ) : (Option IssuedSession × LoginForm) × Service.State σ :=
  let (outcome, state) := (service.signIn draw form.login).perform state
  (form.apply outcome, state)

end LoginForm

end SignIn
