import SignIn.Proofs.Handling
import SignIn.Proofs.History
import SignIn.Proofs.JsonRoundTrip
import SignIn.Proofs.SendableCookies

/-!
# The shape of answers

Every answer is a success or a failure, and never both: the first has status 200 and no error, the
second has no data and the status that belongs to the name of its error (`handle_shape`). Cookies
come with a granted sign-in or sign-out only, two of them, and nothing at all is called for a
request that is malformed or not found.
-/

namespace SignIn.Http

/-- The names of errors, with the status of each. -/
def errorStatuses : List (String × Nat) :=
  [("InvalidCredentials", 401), ("InvalidSession", 401), ("CsrfMismatch", 403), ("BadRequest", 400),
    ("NotFound", 404), ("InternalError", 500)]

namespace Answer

/-- A success, with data and without an error. -/
def IsSuccess (answer : Answer) : Prop :=
  answer.status = 200 ∧ ∃ data,
    answer.body = .object [("success", .bool true), ("data", data), ("error", .null)]

/-- A failure, with an error whose name goes with the status. -/
def IsFailure (answer : Answer) : Prop :=
  ∃ name message, (name, answer.status) ∈ errorStatuses ∧
    answer.body = .object [("success", .bool false), ("data", .null),
      ("error", .object [("code", .text name), ("title", .text "Error"),
        ("message", .text message)])]

theorem IsFailure.status_ne {answer : Answer} (h : answer.IsFailure) : answer.status ≠ 200 := by
  obtain ⟨name, message, listed, -⟩ := h
  intro status
  rw [status] at listed
  simp [errorStatuses] at listed

theorem not_isSuccess_and_isFailure (answer : Answer) : ¬(answer.IsSuccess ∧ answer.IsFailure) :=
  fun both => both.2.status_ne both.1.1

theorem isSuccess_success (setCookies : List String) (data : Json) :
    (success setCookies data).IsSuccess := ⟨rfl, data, rfl⟩

theorem isFailure_failure (code : ErrorCode) (message : String) :
    (failure code message).IsFailure := by
  refine ⟨code.name, message, ?_, rfl⟩
  change (code.name, code.status) ∈ errorStatuses
  cases code <;> decide

end Answer

theorem Refusal.answer_eq_failure (refusal : Refusal) :
    ∃ code message, refusal.answer = .failure code message := by
  cases refusal <;> exact ⟨_, _, rfl⟩

variable {σ : Type} {service : Service σ} {policy : CookiePolicy} {draw : Draw} {request : Request}

/-- Cookies that are a session's and then a CSRF token's. -/
def AreSessionCookies (cookies : List String) : Prop :=
  ∃ session csrf, cookies = ["session=" ++ session, "X-CSRF=" ++ csrf]

theorem areSessionCookies_pair (session csrf : String) (maxAge : Nat) :
    AreSessionCookies (policy.pair session csrf maxAge) := by
  refine ⟨session ++ "; " ++ policy.attributes maxAge true,
    csrf ++ "; " ++ policy.attributes maxAge false, ?_⟩
  simp only [CookiePolicy.pair, ← String.append_assoc]
  rfl

/-- The cookies that are handed out are always the same two. -/
theorem areSessionCookies_issue {session : SessionToken} {csrf : CsrfToken} {cookies : List String}
    (h : policy.issue session csrf = some cookies) : AreSessionCookies cookies :=
  issue_eq_pair h ▸ areSessionCookies_pair _ _ _

theorem AreSessionCookies.ne_nil {cookies : List String} (h : AreSessionCookies cookies) :
    cookies ≠ [] := by
  obtain ⟨_, _, rfl⟩ := h
  simp

/-- What the answer to a step looks like. -/
structure Shaped (answer : Answer) (mayHandOut : Prop) : Prop where
  json : answer.contentType = "application/json"
  success_or_failure : answer.IsSuccess ∨ answer.IsFailure
  cookies : answer.setCookies ≠ [] ↔ answer.status = 200 ∧ mayHandOut
  pair : answer.setCookies ≠ [] → AreSessionCookies answer.setCookies

theorem shaped_failure (code : ErrorCode) (message : String) (mayHandOut : Prop) :
    Shaped (.failure code message) mayHandOut where
  json := rfl
  success_or_failure := .inr (Answer.isFailure_failure code message)
  cookies := iff_of_false (fun none => none rfl) fun h => status_failure_ne code message h.1
  pair none := absurd rfl none

theorem shaped_success {cookies : List String} {data : Json} {mayHandOut : Prop}
    (h : cookies = [] ∧ ¬mayHandOut ∨ AreSessionCookies cookies ∧ mayHandOut) :
    Shaped (.success cookies data) mayHandOut where
  json := rfl
  success_or_failure := .inl (Answer.isSuccess_success cookies data)
  cookies := by
    change cookies ≠ [] ↔ 200 = 200 ∧ mayHandOut
    rcases h with ⟨rfl, not⟩ | ⟨pair, may⟩
    · simp [not]
    · simp [pair.ne_nil, may]
  pair some := by
    rcases h with ⟨none, -⟩ | ⟨pair, -⟩
    · exact absurd none some
    · exact pair

theorem Shaped.of_iff {answer : Answer} {p q : Prop} (h : Shaped answer p) (same : p ↔ q) :
    Shaped answer q :=
  propext same ▸ h

theorem shaped_error (error : AuthError) (mayHandOut : Prop) :
    Shaped (answerTo policy (.error error)) mayHandOut :=
  shaped_failure (.ofFault error) _ mayHandOut

theorem shaped_signIn (result : Except AuthError SignInAnswer) :
    Shaped (answerTo policy (result.map .signIn)) True := by
  rcases result with error | issued | reason
  · exact shaped_error error True
  · rw [Except.map, answerTo]
    rcases hc : policy.issue issued.session issued.csrf with _ | cookies
    · exact shaped_failure .internalError _ True
    · exact shaped_success (.inr ⟨areSessionCookies_issue hc, trivial⟩)
  · exact shaped_failure (.ofRejection reason) _ True

theorem shaped_signOut (result : Except AuthError Unit) :
    Shaped (answerTo policy (result.map fun _ => .done)) True := by
  rcases result with error | _
  · exact shaped_error error True
  · exact shaped_success (.inr ⟨areSessionCookies_pair "" "" 0, trivial⟩)

theorem shaped_whoAmI (result : Except AuthError SessionInfo) :
    Shaped (answerTo policy (result.map .info)) False := by
  rcases result with error | info
  · exact shaped_error error False
  · exact shaped_success (.inl ⟨rfl, id⟩)

theorem handle_shaped (s : Service.State σ) :
    Shaped ((handle service policy draw request).run s).1
      (request.IsFor "POST" "signin" ∨ request.IsFor "POST" "signout") := by
  rw [handle_eq]
  rcases hs : request.step draw with refusal | step
  · obtain ⟨code, message, eq⟩ := refusal.answer_eq_failure
    dsimp only
    rw [eq]
    exact shaped_failure code message _
  rcases Request.step_cases hs with ⟨login, asked, -, rfl⟩ |
    ⟨session, csrf, asked, -, -, rfl⟩ | ⟨session, asked, -, rfl⟩ <;>
    dsimp only <;> rw [Service.take, Attempt.perform_bind_pure]
  · exact (shaped_signIn _).of_iff (iff_of_true trivial (.inl asked))
  · exact (shaped_signOut _).of_iff (iff_of_true trivial (.inr asked))
  · refine (shaped_whoAmI _).of_iff (iff_of_false id (not_or.2 ⟨?_, ?_⟩))
    · exact asked.ne (.inl (by decide))
    · exact asked.ne (.inl (by decide))

/-- What a step gives is never answered as malformed or not found. -/
theorem status_answerTo_mem (result : Except AuthError Service.Reply) :
    (answerTo policy result).status ∈ [200, 401, 403, 500] := by
  rcases result with error | (issued | reason) | info | _ | count | found | existed
  · cases error <;> exact of_decide_eq_true rfl
  · rw [answerTo]
    rcases policy.issue issued.session issued.csrf with _ | cookies <;> exact of_decide_eq_true rfl
  · cases reason
    exact of_decide_eq_true rfl
  all_goals exact of_decide_eq_true rfl

/-- For what is malformed or not found nothing is called, whatever the calls would give. -/
theorem handle_uncalled {s : Service.State σ}
    (h : ((handle service policy draw request).run s).1.status = 400 ∨
      ((handle service policy draw request).run s).1.status = 404) (calls : List Call) :
    (handle service.recorded policy draw request).run ⟨s.decoy, s.world, calls⟩ =
      (((handle service policy draw request).run s).1, ⟨s.decoy, s.world, calls⟩) := by
  rw [handle_eq] at h ⊢
  rw [handle_eq]
  rcases hs : request.step draw with refusal | step <;> simp only [hs] at h ⊢
  have answered : (answerTo policy ((service.take step).perform s).1).status ∈ _ :=
    status_answerTo_mem _
  simp only [List.mem_cons, List.not_mem_nil, or_false] at answered
  omega

/-- Whichever calls fail, every request gets an answer in JSON that is a success or a failure and
not both; two cookies, of the session and then of its CSRF token, come with a sign-in or a sign-out
of status 200 and no cookies with anything else; and what is answered with status 400 or 404 is so
answered without a call to the users, the hasher or the sessions. -/
theorem handle_shape (service : Service σ) (faults : Call → Option AuthError)
    (policy : CookiePolicy) (draw : Draw) (request : Request) (s : Service.State σ) :
    let answer := ((handle (service.interrupted faults) policy draw request).run s).1
    answer.contentType = "application/json" ∧
      (answer.IsSuccess ∨ answer.IsFailure) ∧ ¬(answer.IsSuccess ∧ answer.IsFailure) ∧
      (answer.setCookies ≠ [] ↔ answer.status = 200 ∧
        (request.IsFor "POST" "signin" ∨ request.IsFor "POST" "signout")) ∧
      (answer.setCookies ≠ [] → AreSessionCookies answer.setCookies) ∧
      (answer.status = 400 ∨ answer.status = 404 → ∀ calls,
        (handle (service.interrupted faults).recorded policy draw request).run
            ⟨s.decoy, s.world, calls⟩ =
          (answer, ⟨s.decoy, s.world, calls⟩)) := by
  intro answer
  have shaped : Shaped answer
      (request.IsFor "POST" "signin" ∨ request.IsFor "POST" "signout") := handle_shaped s
  exact ⟨shaped.json, shaped.success_or_failure, answer.not_isSuccess_and_isFailure, shaped.cookies,
    shaped.pair, handle_uncalled⟩

section Sample

open Service

/-- A request to sign in. -/
def aliceRequest : Request :=
  ⟨ascii "POST", ascii "/api/v1/signin", [(ascii "content-length", ascii "39")],
    ascii "\x7b\x22username\x22:\x22alice\x22,\x22password\x22:\x22secret\x22\x7d"⟩

theorem isFor_aliceRequest : aliceRequest.IsFor "POST" "signin" := by decide +kernel

theorem readLogin_aliceRequest : Route.readLogin aliceRequest = .ok ⟨"alice", "secret"⟩ := by
  have body : aliceRequest.body = Utf8.encode (Json.object (Json.textMembers
      (Json.fieldsOf Route.loginShape #v["alice", "secret"]))).compact := by
    decide +kernel
  have length : aliceRequest.contentLength? = some 39 := by decide +kernel
  have json : aliceRequest.mayBeJson = true := by decide +kernel
  rw [Route.readLogin, length, json, body, Json.readRecord_compact _ _ (by decide)]
  rfl

/-- The path for signing in, asked for with another method. -/
def strayRequest : Request := ⟨ascii "GET", ascii "/api/v1/signin", [], []⟩

def strayStart : State (Roster × Registry) := ⟨none, .ofCredentials [sampleUser], .empty⟩

/-- The answer to a request in that state. -/
def strayAnswer (faults : Call → Option AuthError) (request : Request) : Answer :=
  ((handle (sampleService.interrupted faults) ⟨false, .ofSeconds 10⟩ (sampleDraw 0 1)
    request).run strayStart).1

theorem strayAnswer_aliceRequest (faults : Call → Option AuthError) :
    strayAnswer faults aliceRequest = answerTo ⟨false, .ofSeconds 10⟩
      (((sampleService.interrupted faults).take
        (.signIn (sampleDraw 0 1) ⟨"alice", "secret"⟩)).perform strayStart).1 :=
  congrArg Prod.fst
    (handle_step (Request.step_signIn isFor_aliceRequest readLogin_aliceRequest) strayStart)

/-- A sign-in that is granted is a success with two cookies. The same sign-in fails without cookies if
the users cannot be reached, and so does a request that is not found, for which nothing is called. -/
theorem handle_shape_sample :
    let granted := strayAnswer (fun _ => none) aliceRequest
    let broken := strayAnswer (fun _ => some (.store "down")) aliceRequest
    let stray := strayAnswer (fun _ => none) strayRequest
    (granted.status = 200 ∧ granted.IsSuccess ∧ AreSessionCookies granted.setCookies) ∧
      (broken.status = 500 ∧ broken.IsFailure ∧ broken.setCookies = []) ∧
      stray.status = 404 ∧ stray.IsFailure ∧ stray.setCookies = [] ∧
      ((handle (sampleService.interrupted fun _ => none).recorded ⟨false, .ofSeconds 10⟩
        (sampleDraw 0 1) strayRequest).run ⟨none, strayStart.world, []⟩).2.world.2 = [] := by
  have shape (faults : Call → Option AuthError) (request : Request) :=
    handle_shape sampleService faults ⟨false, .ofSeconds 10⟩ (sampleDraw 0 1) request strayStart
  have failed (faults : Call → Option AuthError) (request : Request)
      (other : (strayAnswer faults request).status ≠ 200) :
      (strayAnswer faults request).IsFailure ∧ (strayAnswer faults request).setCookies = [] := by
    obtain ⟨-, either, -, cookies, -⟩ := shape faults request
    refine ⟨either.resolve_left fun success => other success.1, ?_⟩
    exact Decidable.byContradiction fun some => other (cookies.1 some).1
  have handed (faults : Call → Option AuthError) (request : Request)
      (ok : (strayAnswer faults request).status = 200) (asked : request.IsFor "POST" "signin") :
      (strayAnswer faults request).IsSuccess ∧
        AreSessionCookies (strayAnswer faults request).setCookies := by
    obtain ⟨-, either, -, cookies, pair, -⟩ := shape faults request
    refine ⟨either.resolve_right fun failure => failure.status_ne ok, ?_⟩
    exact pair (cookies.2 ⟨ok, .inl asked⟩)
  refine ⟨?granted, ?broken, ?stray⟩
  case granted =>
    have ok : (strayAnswer (fun _ => none) aliceRequest).status = 200 := by
      obtain ⟨cookies, sent⟩ := issue_cookies ⟨false, .ofSeconds 10⟩ (sampleDraw 0 1).token
        sampleService.csrfKey
      have opened : strayAnswer (fun _ => none) aliceRequest = answerTo ⟨false, .ofSeconds 10⟩
        (.ok (.signIn (.authenticated (sampleIssued 1 10)))) := strayAnswer_aliceRequest _
      have issued : CookiePolicy.issue ⟨false, .ofSeconds 10⟩ (sampleIssued 1 10).session
        (sampleIssued 1 10).csrf = some cookies := sent
      rw [opened, answerTo, issued]
      rfl
    exact ⟨ok, handed _ _ ok isFor_aliceRequest⟩
  case broken =>
    have fault : (strayAnswer (fun _ => some (.store "down")) aliceRequest).status = 500 :=
      congrArg Answer.status (strayAnswer_aliceRequest _)
    exact ⟨fault, failed _ _ (fault ▸ by decide)⟩
  case stray =>
    have notFound : (strayAnswer (fun _ => none) strayRequest).status = 404 := rfl
    obtain ⟨-, -, -, -, -, uncalled⟩ := shape (fun _ => none) strayRequest
    obtain ⟨failure, bare⟩ := failed (fun _ => none) strayRequest (notFound ▸ by decide)
    refine ⟨notFound, failure, bare, ?_⟩
    exact congrArg (fun run : Answer × State ((Roster × Registry) × List Call) => run.2.world.2)
      (uncalled (.inr notFound) [])

end Sample

end SignIn.Http
