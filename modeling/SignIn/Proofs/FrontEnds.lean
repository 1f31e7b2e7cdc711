import SignIn.LoginForm
import SignIn.Proofs.InternalFaults
import SignIn.Proofs.JsonRoundTrip
import SignIn.Proofs.NotFound
import SignIn.Proofs.StartedServer

/-!
# Three ways to sign in

Credentials may be given to the service itself, typed into the login form, or sent in a request. All
three make the same call, so from the same state and with the same draw they leave the same state,
and what the form shows and what the request is answered tell the same outcome
(`signIn_everywhere`). It does not matter in which pieces the form was filled in
(`LoginForm.login_typed`), nor how the JSON text of the credentials is spelled
(`Http.Request.PostsLogin.readLogin`).
-/

namespace SignIn

namespace LoginForm

inductive Piece
  | username (text : String)
  | password (text : String)

namespace Piece

def username? : Piece → Option String
  | username text => some text
  | password _ => none

def password? : Piece → Option String
  | username _ => none
  | password text => some text

/-- Pieces that make these credentials when they are typed in this order. -/
def Make (pieces : List Piece) (login : Login) : Prop :=
  String.join (pieces.filterMap username?) = login.username ∧
    String.join (pieces.filterMap password?) = login.password

end Piece

def type (form : LoginForm) : Piece → LoginForm
  | .username text => form.typeUsername text
  | .password text => form.typePassword text

/-- A fresh form after pieces were typed one after the other. -/
def typed (pieces : List Piece) : LoginForm := pieces.foldl type empty

theorem foldl_type (pieces : List Piece) (form : LoginForm) :
    (pieces.foldl type form).login =
      ⟨form.username ++ String.join (pieces.filterMap Piece.username?),
        form.password ++ String.join (pieces.filterMap Piece.password?)⟩ := by
  induction pieces generalizing form with
  | nil => simp [login]
  | cons piece pieces ih =>
    rw [List.foldl_cons, ih]
    rcases piece with text | text <;>
      simp [type, typeUsername, typePassword, setUsername, setPassword, List.filterMap_cons,
        Piece.username?, Piece.password?, String.append_assoc]

theorem login_typed {pieces : List Piece} {login : Login} (h : Piece.Make pieces login) :
    (typed pieces).login = login := by
  rw [typed, foldl_type, h.1, h.2]
  simp [empty]

end LoginForm

namespace Service

open Attempt

variable {σ : Type}

/-- All that a sign-in calls fails with faults of the service's own only. -/
structure FailsInternally (service : Service σ) : Prop where
  findUser : ∀ username, (service.users.find username).FailsOnly (·.isInternal = true)
  hash : ∀ salt password, (service.hasher.hash salt password).FailsOnly (·.isInternal = true)
  verify : ∀ password hash, (service.hasher.verify password hash).FailsOnly (·.isInternal = true)
  save : ∀ token session seconds,
    (service.sessions.save token session seconds).FailsOnly (·.isInternal = true)

theorem failsOnly_orFault {α : Type} {P : AuthError → Prop} {attempt : Attempt σ α}
    (h : attempt.FailsOnly P) {fault : Option AuthError}
    (hf : ∀ error, fault = some error → P error) : (attempt.orFault fault).FailsOnly P := by
  rcases fault with _ | error
  · exact h
  · rintro s _ ⟨⟩
    exact hf error rfl

namespace FailsInternally

variable {service : Service σ} (h : service.FailsInternally)

include h

theorem interrupted {faults : Call → Option AuthError}
    (hfaults : ∀ call error, faults call = some error → error.isInternal = true) :
    (service.interrupted faults).FailsInternally where
  findUser username := failsOnly_orFault (h.findUser username) (hfaults _)
  hash salt password := failsOnly_orFault (h.hash salt password) (hfaults _)
  verify password hash := failsOnly_orFault (h.verify password hash) (hfaults _)
  save token session seconds := failsOnly_orFault (h.save token session seconds) (hfaults _)

theorem signIn (draw : Draw) (login : Login) :
    (service.signIn draw login).FailsOnly (·.isInternal = true) := by
  refine failsOnly_signIn ?_ h.findUser h.hash h.verify h.save login
  exact fun _ => rfl

end FailsInternally

/-- The stores that can be chosen and the hasher have no other faults. -/
theorem failsInternally_world [Causes] (cost : HashCost) (csrfKey : CsrfKey) (ttl : Duration) :
    (ofWorld cost csrfKey ttl).FailsInternally where
  findUser username := (UserBackend.failsOnly_find (fun _ => rfl) username).within _ _
  hash _ _ := .pure _
  verify password hash := by
    exact Argon2.failsOnly_verify (fun _ => rfl) (fun _ => rfl) cost password hash
  save _ _ _ := (SessionBackend.failsOnly_save (fun _ => rfl) _ _ _ _).within _ _

end Service

namespace SessionInfo

/-- What is told about a session, with its end as it is written. -/
def carried (info : SessionInfo) : SessionInfo :=
  { info with expiresAt := info.expiresAt.carried }

/-- An end whose nanoseconds go past 10⁹ only at the end of a minute is told as it is. -/
theorem carried_eq_iff {info : SessionInfo} : info.carried = info ↔ info.expiresAt.IsProper := by
  obtain ⟨userId, username, expiresAt⟩ := info
  simp only [carried, mk.injEq, true_and, Instant.carried_eq_iff]

end SessionInfo

namespace Http

open Service

/-- A request to sign in with these credentials, in any spelling of their JSON object. -/
structure Request.PostsLogin (request : Request) (login : Login) : Prop where
  asked : request.IsFor "POST" "signin"
  sized : ∃ length, request.contentLength? = some length ∧ length ≤ 16384
  json : request.mayBeJson = true
  body : ∃ members text, request.body = Utf8.encode text ∧ Json.IsObject members text.toList ∧
    members.Perm [("username", login.username), ("password", login.password)]

theorem Request.PostsLogin.readLogin {request : Request} {login : Login}
    (h : request.PostsLogin login) : Route.readLogin request = .ok login := by
  obtain ⟨length, told, allowed⟩ := h.sized
  obtain ⟨members, text, body, spelled, order⟩ := h.body
  have short : ¬Route.maxLength < length := Nat.not_lt.2 allowed
  have read : Json.readRecord Route.loginShape request.body =
      .ok #v[login.username, login.password] := by
    rw [body, Utf8.encode_eq]
    exact Json.readRecord_spelled spelled order (by decide)
  rw [Route.readLogin, told]
  dsimp only
  rw [if_neg short, if_neg (not_not_intro h.json), read]
  rfl

variable {σ : Type}

theorem sessionJson_eq_iff {a b : SessionInfo} :
    Answer.sessionJson a = Answer.sessionJson b ↔ a.carried = b.carried := by
  have userId : a.userId.text = b.userId.text ↔ a.userId = b.userId := by
    refine ⟨fun same => ?_, congrArg _⟩
    have read := congrArg UserId.ofText? same
    rwa [UserId.ofText?_text, UserId.ofText?_text, Option.some.injEq] at read
  simp [Answer.sessionJson, SessionInfo.carried, userId, Instant.text_eq_iff]

/-- What the form shows and gives and what a request is answered, for one outcome of a sign-in. -/
inductive Tells (policy : CookiePolicy) :
    Except AuthError SignInAnswer → Option IssuedSession → Dialog → Answer → Prop
  | authenticated {issued : IssuedSession} {cookies : List String}
      (sent : policy.issue issued.session issued.csrf = some cookies) :
      Tells policy (.ok (.authenticated issued)) (some issued) .hidden
        (.success cookies (Answer.sessionJson issued.info))
  | rejected (reason : Rejection) :
      Tells policy (.ok (.rejected reason)) none (.shown "Error" reason.message)
        (.failure .invalidCredentials reason.message)
  | failed (error : AuthError) :
      Tells policy (.error error) none (.shown "Error" "Server error")
        (.failure .internalError "Server error")

namespace Tells

variable {policy : CookiePolicy} {outcome : Except AuthError SignInAnswer}
  {given : Option IssuedSession} {dialog : Dialog} {answer : Answer}
  (h : Tells policy outcome given dialog answer)

include h

/-- Who signed in is told so in every way, and who did not is not. -/
theorem authenticated_iff :
    (∀ issued, outcome = .ok (.authenticated issued) ↔ given = some issued) ∧
      ((∃ issued, outcome = .ok (.authenticated issued)) ↔ dialog = .hidden) ∧
      ((∃ issued, outcome = .ok (.authenticated issued)) ↔ answer.status = 200) ∧
      ∀ info, (∃ issued, outcome = .ok (.authenticated issued) ∧
          issued.info.carried = info.carried) ↔
        answer.body = .object [("success", .bool true), ("data", Answer.sessionJson info),
          ("error", .null)] := by
  cases h with
  | authenticated sent =>
    refine ⟨fun issued => by simp, by simp, iff_of_true ⟨_, rfl⟩ rfl, fun info => ?_⟩
    simp [Answer.success, Answer.ofJson, sessionJson_eq_iff]
  | rejected | failed =>
    exact ⟨fun issued => by simp, by simp, iff_of_false (by simp) (of_decide_eq_true rfl),
      fun info => by simp [Answer.failure, Answer.ofJson]⟩

theorem rejected_iff :
    ((∃ reason, outcome = .ok (.rejected reason)) ↔
        dialog = .shown "Error" "Incorrect username or password.") ∧
      ((∃ reason, outcome = .ok (.rejected reason)) ↔
        answer.status = 401 ∧ answer.Names "InvalidCredentials") := by
  cases h with
  | authenticated | failed =>
    exact ⟨by simp, iff_of_false (by simp) fun refused => absurd refused.1 (of_decide_eq_true rfl)⟩
  | rejected reason =>
    cases reason
    exact ⟨iff_of_true ⟨_, rfl⟩ rfl, iff_of_true ⟨_, rfl⟩ ⟨rfl, _, rfl⟩⟩

theorem failed_iff :
    ((∃ error, outcome = .error error) ↔ dialog = .shown "Error" "Server error") ∧
      ((∃ error, outcome = .error error) ↔
        answer.status = 500 ∧ answer.Names "InternalError") := by
  cases h with
  | authenticated sent =>
    exact ⟨by simp, iff_of_false (by simp) fun failed => absurd failed.1 (of_decide_eq_true rfl)⟩
  | rejected reason =>
    cases reason
    exact ⟨by simp [Rejection.message],
      iff_of_false (by simp) fun failed => absurd failed.1 (of_decide_eq_true rfl)⟩
  | failed error => exact ⟨iff_of_true ⟨_, rfl⟩ rfl, iff_of_true ⟨_, rfl⟩ ⟨rfl, _, rfl⟩⟩

/-- The dialog shows the error of the answer. -/
theorem shown_iff (title description : String) :
    dialog = .shown title description ↔ ∃ name, answer.body =
      .object [("success", .bool false), ("data", .null), ("error", .object [("code", .text name),
        ("title", .text title), ("message", .text description)])] := by
  cases h <;> simp [Answer.success, Answer.failure, Answer.ofJson, Rejection.title]

end Tells

section Outcome

variable {service : Service σ} (h : service.FailsInternally) {policy : CookiePolicy} {draw : Draw}
  {login : Login} {request : Request} {s : State σ}

include h

theorem tells_signIn (form : LoginForm) :
    let outcome := ((service.signIn draw login).perform s).1
    Tells policy outcome (form.apply outcome).1 (form.apply outcome).2.dialog
      (answerTo policy (outcome.map .signIn)) := by
  intro outcome
  rcases given : outcome with error | issued | reason
  · have code : ErrorCode.ofFault error = .internalError := by
      have internal : error.isInternal = true := h.signIn draw login s error given
      cases error with
      | store | internal => rfl
      | invalidSession | csrfMismatch => cases internal
    change Tells policy _ none (.shown "Error" "Server error")
      (.failure (.ofFault error) (ErrorCode.message (.ofFault error)))
    rw [code]
    exact .failed error
  · obtain ⟨cookies, sent⟩ := issue_signIn policy given
    change Tells policy _ (some issued) .hidden (answerTo policy (.ok (.signIn
      (.authenticated issued))))
    rw [answerTo, sent]
    exact .authenticated sent
  · cases reason
    exact .rejected .invalid

end Outcome

/-- Credentials are given to the service itself, typed into a fresh form in any pieces, or posted in
any spelling of their JSON object, while any calls fail with faults of the service's own. All three
leave the same state. They tell the same outcome: a session with its user, name and end, as it is
written, or a refusal, or a fault, and the dialog of the form shows the title and the message of the
error that the request is answered. -/
theorem signIn_everywhere (service : Service σ) (faults : Call → Option AuthError)
    (policy : CookiePolicy) (draw : Draw) (login : Login) (pieces : List LoginForm.Piece)
    (request : Request) (s : State σ) (h : service.FailsInternally)
    (hfaults : ∀ call error, faults call = some error → error.isInternal = true)
    (made : LoginForm.Piece.Make pieces login) (posted : request.PostsLogin login) :
    let service := service.interrupted faults
    let called := (service.signIn draw login).perform s
    let submitted := (LoginForm.typed pieces).submit service draw s
    let answered := (handle service policy draw request).run s
    let outcome := called.1
    let given := submitted.1.1
    let dialog := submitted.1.2.dialog
    let answer := answered.1
    (submitted.2 = called.2 ∧ answered.2 = called.2) ∧
      ((∀ issued, outcome = .ok (.authenticated issued) ↔ given = some issued) ∧
        ((∃ issued, outcome = .ok (.authenticated issued)) ↔ dialog = .hidden) ∧
        ((∃ issued, outcome = .ok (.authenticated issued)) ↔ answer.status = 200) ∧
        ∀ info, (∃ issued, outcome = .ok (.authenticated issued) ∧
          issued.info.carried = info.carried) ↔
          answer.body = .object [("success", .bool true), ("data", Answer.sessionJson info),
            ("error", .null)]) ∧
      (((∃ reason, outcome = .ok (.rejected reason)) ↔
          dialog = .shown "Error" "Incorrect username or password.") ∧
        ((∃ reason, outcome = .ok (.rejected reason)) ↔
          answer.status = 401 ∧ answer.Names "InvalidCredentials")) ∧
      (((∃ error, outcome = .error error) ↔ dialog = .shown "Error" "Server error") ∧
        ((∃ error, outcome = .error error) ↔
          answer.status = 500 ∧ answer.Names "InternalError")) ∧
      ∀ title description, dialog = .shown title description ↔ ∃ name, answer.body =
        .object [("success", .bool false), ("data", .null), ("error", .object [("code", .text name),
          ("title", .text title), ("message", .text description)])] := by
  intro service called submitted answered outcome given dialog answer
  have filled : (LoginForm.typed pieces).login = login := LoginForm.login_typed made
  have step : request.step draw = .ok (.signIn draw login) :=
    Request.step_signIn posted.asked posted.readLogin
  have submit : submitted = ((LoginForm.typed pieces).apply outcome, called.2) := by
    change (LoginForm.typed pieces).submit service draw s = _
    rw [LoginForm.submit, filled]
  have answers : answered = (answerTo policy (outcome.map .signIn), called.2) := by
    change (handle service policy draw request).run s = _
    rw [handle_step step, Service.take, Attempt.perform_bind_pure]
  have tells : Tells policy outcome given dialog answer := by
    change Tells policy outcome submitted.1.1 submitted.1.2.dialog answered.1
    rw [submit, answers]
    exact tells_signIn (h.interrupted hfaults) (LoginForm.typed pieces)
  exact ⟨⟨congrArg Prod.snd submit, congrArg Prod.snd answers⟩, tells.authenticated_iff,
    tells.rejected_iff, tells.failed_iff, tells.shown_iff⟩

section Sample

attribute [local instance] Causes.plain

theorem failsInternally_sample : sampleService.FailsInternally where
  findUser _ _ _ failed := nomatch failed
  hash _ _ := .pure _
  verify _ _ := .pure _
  save _ _ _ _ _ failed := nomatch failed

/-- A user whose password has a character beyond the first 65536. -/
def smilingUser : Credential := { sampleUser with passwordHash := "se😀" }

def smilingStart : State (Roster × Registry) := ⟨none, .ofCredentials [smilingUser], .empty⟩

/-- The credentials of that user, the password first, with escapes and blanks. -/
def spelledLogin : String :=
  "\x7b \x22password\x22 : \x22s\\u0065\\uD83d\\uDE00\x22,\n\x22username\x22:\x22alice\x22\x7d"

def spelledRequest : Request :=
  ⟨ascii "POST", ascii "/api/v1/signin", [(ascii "content-type", ascii "application/json"),
    (ascii "content-length", ascii "57")], Utf8.encode spelledLogin⟩

def typedLogin : List LoginForm.Piece :=
  [.password "s", .username "ali", .password "", .username "ce", .password "e😀"]

open Json in
theorem isObject_spelledLogin :
    IsObject [("password", "se😀"), ("username", "alice")] spelledLogin.toList := by
  have letter : Spells 'e' ['\\', 'u', '0', '0', '6', '5'] :=
    .unit ⟨0, 0, 6, 5, by decide, by decide⟩
  have smile : Spells '😀' (['\\', 'u', 'D', '8', '3', 'd'] ++ ['\\', 'u', 'D', 'E', '0', '0']) :=
    .pair ⟨13, 8, 3, 13, by decide, rfl⟩ ⟨13, 14, 0, 0, by decide, rfl⟩ (by decide) (by decide)
      (by decide)
  have password : IsText "se😀" "\x22s\\u0065\\uD83d\\uDE00\x22".toList :=
    ⟨[['s'], _, _], .cons (spells_escapedChar 's') (.cons letter (.cons smile .nil)), by decide⟩
  have space : IsBlanks [' '] := by simp [IsBlanks]
  have line : IsBlanks ['\n'] := by simp [IsBlanks]
  have first : IsMember ("password", "se😀") _ := ⟨_, _, [' '], [' '], [' '], [],
    isText_textChars "password", password, space, space, space, isBlanks_nil, rfl⟩
  have second : IsMember ("username", "alice") _ := ⟨_, _, ['\n'], [], [], [],
    isText_textChars "username", isText_textChars "alice", line, isBlanks_nil, isBlanks_nil,
    isBlanks_nil, rfl⟩
  exact ⟨_, [], [], .cons first (.cons second .nil), isBlanks_nil, isBlanks_nil, by decide⟩

theorem posts_spelledRequest : spelledRequest.PostsLogin ⟨"alice", "se😀"⟩ where
  asked := by decide +kernel
  sized := ⟨57, by decide +kernel⟩
  json := by decide +kernel
  body := ⟨_, spelledLogin, rfl, isObject_spelledLogin, .swap _ _ _⟩

/-- A service of which no store can be reached. -/
def storelessService : Service World :=
  (ofWorld .standard ⟨[]⟩ (.ofSeconds 10)).interrupted fun _ => some (.store "unreachable")

def worldStart : State World := ⟨none, .memory (.ofCredentials [smilingUser]), .memory .empty⟩

/-- The user is let in by the form and by the request, and where the stores cannot be reached, both
tell a fault. -/
theorem signIn_everywhere_sample :
    LoginForm.Piece.Make typedLogin ⟨"alice", "se😀"⟩ ∧
      ((LoginForm.typed typedLogin).submit (sampleService.interrupted fun _ => none)
        (sampleDraw 0 1) smilingStart).1.1 = some (sampleIssued 1 10) ∧
      ((handle (sampleService.interrupted fun _ => none) ⟨false, .ofSeconds 10⟩ (sampleDraw 0 1)
        spelledRequest).run smilingStart).1.status = 200 ∧
      ((LoginForm.typed typedLogin).submit storelessService (sampleDraw 0 1)
        worldStart).1.2.dialog = .shown "Error" "Server error" ∧
      ((handle storelessService ⟨false, .ofSeconds 10⟩ (sampleDraw 0 1)
        spelledRequest).run worldStart).1.status = 500 := by
  have made : LoginForm.Piece.Make typedLogin ⟨"alice", "se😀"⟩ := ⟨by decide, by decide⟩
  obtain ⟨-, ⟨given, -, ok, -⟩, -⟩ := signIn_everywhere sampleService (fun _ => none)
    ⟨false, .ofSeconds 10⟩ (sampleDraw 0 1) ⟨"alice", "se😀"⟩ typedLogin spelledRequest smilingStart
    failsInternally_sample (fun _ _ fault => nomatch fault) made posts_spelledRequest
  obtain ⟨-, -, -, ⟨dialog, answer⟩, -⟩ := signIn_everywhere (ofWorld .standard ⟨[]⟩ (.ofSeconds 10))
    (fun _ => some (.store "unreachable")) ⟨false, .ofSeconds 10⟩ (sampleDraw 0 1)
    ⟨"alice", "se😀"⟩ typedLogin spelledRequest worldStart (failsInternally_world _ _ _)
    (by rintro _ _ ⟨⟩; rfl) made posts_spelledRequest
  have opened : (((sampleService.interrupted fun _ => none).signIn (sampleDraw 0 1)
    ⟨"alice", "se😀"⟩).perform smilingStart).1 = .ok (.authenticated (sampleIssued 1 10)) := by rfl
  have failed : ((storelessService.signIn (sampleDraw 0 1) ⟨"alice", "se😀"⟩).perform
    worldStart).1 = .error (.store "unreachable") := rfl
  exact ⟨made, (given _).1 opened, ok.1 ⟨_, opened⟩, dialog.1 ⟨_, failed⟩,
    (answer.1 ⟨_, failed⟩).1⟩

end Sample

end Http

end SignIn
