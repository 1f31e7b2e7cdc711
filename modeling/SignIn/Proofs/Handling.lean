import Mathlib.Tactic.SplitIfs
import SignIn.Http.Serving
import SignIn.Proofs.Calls

/-!
# What a request can do

A request is refused and nothing is called, or it asks for one step of the service (`Request.step`),
and the answer follows from what the step gives (`handle_eq`). One refusal decides the answer, that
of the route for which the request is: the others refuse its method or its path, and that never
counts beside another refusal.

A request is answered with status 200 exactly if its step succeeds (`handle_effect`); for a sign-in
that includes that the cookies can be sent, which those of a session that was just opened always can
(`issue_cookies`).
-/

namespace SignIn.Http

/-- A request with this method, and with this last part of its path. -/
def Request.IsFor (request : Request) (method name : String) : Prop :=
  request.method = ascii method ∧ request.segments = [ascii "api", ascii "v1", ascii name]

instance (request : Request) (method name : String) : Decidable (request.IsFor method name) :=
  inferInstanceAs (Decidable (_ ∧ _))

/-- The step of the service that a request asks for, or why it is refused before that. -/
def Request.step (request : Request) (draw : Draw) : Except Refusal Service.Step := do
  if request.IsFor "POST" "signin" then
    return .signIn draw (← Route.readLogin request)
  else if request.IsFor "POST" "signout" then
    let session ← Route.readSession request
    match ← Route.readCsrf request with
    | some csrf => return .signOut draw.now session csrf
    | none => .error (.code .csrfMismatch)
  else if request.IsFor "GET" "whoami" then
    return .whoIs draw.now (← Route.readSession request)
  else .error .notFound

/-- The answer where a refusal decides. -/
def Refusal.answer : Refusal → Answer
  | .code error => .failure error error.message
  | .malformedBody reason =>
    .failure .badRequest s!"Malformed request: Request body deserialize error: {reason}"
  | .wrongMediaType => .failure .badRequest "Expected a JSON body"
  | .notFound | .methodNotAllowed | .noLength | .tooLong | .unreadableHeader =>
    .failure .notFound ErrorCode.notFound.message

/-- The answer to what a step gave. No request asks for a step that gives one of the last three
replies. -/
def answerTo (policy : CookiePolicy) : Except AuthError Service.Reply → Answer
  | .error error => (Refusal.code (.ofFault error)).answer
  | .ok (.signIn (.rejected reason)) => (Refusal.code (.ofRejection reason)).answer
  | .ok (.signIn (.authenticated issued)) =>
    match policy.issue issued.session issued.csrf with
    | some cookies => .success cookies (Answer.sessionJson issued.info)
    | none => (Refusal.code .internalError).answer
  | .ok (.info info) => .success [] (Answer.sessionJson info)
  | .ok .done => .success policy.clear .null
  | .ok (.purged _) | .ok (.found _) | .ok (.revoked _) => (Refusal.code .internalError).answer

variable {σ : Type} {service : Service σ} {policy : CookiePolicy} {draw : Draw} {request : Request}

theorem Request.IsFor.inside {method name : String} (asked : request.IsFor method name) :
    request.segments.take 2 = [ascii "api", ascii "v1"] := by
  rw [asked.2]
  rfl

theorem Request.step_signIn {login : Login} (asked : request.IsFor "POST" "signin")
    (read : Route.readLogin request = .ok login) :
    request.step draw = .ok (.signIn draw login) := by
  rw [Request.step, if_pos asked, read]
  rfl

theorem Request.IsFor.ne {method name method' name' : String} (asked : request.IsFor method name)
    (h : ascii method ≠ ascii method' ∨ ascii name ≠ ascii name') :
    ¬request.IsFor method' name' := by
  rintro ⟨sameMethod, samePath⟩
  rcases h with h | h
  · exact h (asked.1.symm.trans sameMethod)
  · rw [asked.2] at samePath
    simp only [List.cons.injEq] at samePath
    exact h samePath.2.2.1

namespace Route

variable {method name : String}

theorem checkLine_of_isFor (h : request.IsFor method name) :
    checkLine method name request = .ok () := by
  rw [checkLine, if_neg (not_not_intro h.1), if_neg (not_not_intro h.2)]

/-- What a request is refused for by a route that it is not for. -/
def lineRefusal (method : String) (request : Request) : Refusal :=
  if request.method = ascii method then .notFound else .methodNotAllowed

theorem checkLine_of_not_isFor (h : ¬request.IsFor method name) :
    checkLine method name request = .error (lineRefusal method request) := by
  unfold checkLine lineRefusal
  by_cases same : request.method = ascii method
  · have other : request.segments ≠ [ascii "api", ascii "v1", ascii name] := fun h' => h ⟨same, h'⟩
    rw [if_neg (not_not_intro same), if_pos other, if_pos same]
  · rw [if_pos same, if_neg same]

theorem signIn_refuses (h : ¬request.IsFor "POST" "signin") (s : Service.State σ) :
    (signIn service policy draw request).run s = (.error (lineRefusal "POST" request), s) := by
  rw [signIn, checkLine_of_not_isFor h]
  rfl

theorem signOut_refuses (h : ¬request.IsFor "POST" "signout") (s : Service.State σ) :
    (signOut service policy draw request).run s = (.error (lineRefusal "POST" request), s) := by
  rw [signOut, checkLine_of_not_isFor h]
  rfl

theorem whoAmI_refuses (h : ¬request.IsFor "GET" "whoami") (s : Service.State σ) :
    (whoAmI service draw request).run s = (.error (lineRefusal "GET" request), s) := by
  rw [whoAmI, checkLine_of_not_isFor h]
  rfl

theorem firstOf_cons (route : Route σ) (routes : List (Route σ)) (s : σ) :
    (firstOf request (route :: routes)).run s =
      match (route request).run s with
      | (.ok answer, s) => (.ok answer, s)
      | (.error refusal, s) =>
        match (firstOf request routes).run s with
        | (.ok answer, s) => (.ok answer, s)
        | (.error refusals, s) => (.error (refusal :: refusals), s) := by
  rw [firstOf, StateT.run_bind]
  rcases (route request).run s with ⟨refusal | answer, s'⟩
  · change ((firstOf request routes >>= _).run s') = _
    rw [StateT.run_bind]
    rcases hr : (firstOf request routes).run s' with ⟨_ | _, _⟩ <;> simp only [hr] <;> rfl
  · rfl

/-- The answer or refusal of a route, as an answer. -/
def decided : Except Refusal Answer → Answer
  | .ok answer => answer
  | .error refusal => refusal.answer

end Route

/-- A request under the common path is answered by what the routes give. -/
theorem handle_run (inside : request.segments.take 2 = [ascii "api", ascii "v1"])
    (s : Service.State σ) :
    (handle service policy draw request).run s =
      match (Route.firstOf request [Route.signIn service policy draw,
        Route.signOut service policy draw, Route.whoAmI service draw]).run s with
      | (.ok answer, s) => (answer, s)
      | (.error refusals, s) => (Route.recover refusals, s) := by
  unfold handle
  rw [if_neg (Decidable.not_not.2 inside)]
  dsimp only
  rw [StateT.run_bind]
  rcases (Route.firstOf request _).run s with ⟨_ | _, _⟩ <;> rfl

theorem lineRefusal_post {name : String} (asked : request.IsFor "POST" name) :
    Route.lineRefusal "POST" request = .notFound ∧
      Route.lineRefusal "GET" request = .methodNotAllowed :=
  ⟨if_pos asked.1, if_neg (asked.1 ▸ by decide)⟩

theorem lineRefusal_get {name : String} (asked : request.IsFor "GET" name) :
    Route.lineRefusal "POST" request = .methodNotAllowed :=
  if_neg (asked.1 ▸ by decide)

theorem handle_signIn (asked : request.IsFor "POST" "signin") (s : Service.State σ) :
    (handle service policy draw request).run s =
      (Route.decided ((Route.signIn service policy draw request).run s).1,
        ((Route.signIn service policy draw request).run s).2) := by
  have decides (refusal : Refusal) :
      Route.recover [refusal, .notFound, .methodNotAllowed] = refusal.answer := by
    cases refusal <;> rfl
  obtain ⟨post, get⟩ := lineRefusal_post asked
  rw [handle_run asked.inside]
  simp only [Route.firstOf_cons, Route.signOut_refuses (asked.ne (.inr (by decide))),
    Route.whoAmI_refuses (asked.ne (.inl (by decide))), post, get]
  rcases (Route.signIn service policy draw request).run s with ⟨refusal | answer, s'⟩
  · exact Prod.ext (decides refusal) rfl
  · rfl

theorem handle_signOut (asked : request.IsFor "POST" "signout") (s : Service.State σ) :
    (handle service policy draw request).run s =
      (Route.decided ((Route.signOut service policy draw request).run s).1,
        ((Route.signOut service policy draw request).run s).2) := by
  have decides (refusal : Refusal) :
      Route.recover [.notFound, refusal, .methodNotAllowed] = refusal.answer := by
    cases refusal <;> rfl
  obtain ⟨post, get⟩ := lineRefusal_post asked
  rw [handle_run asked.inside]
  simp only [Route.firstOf_cons, Route.signIn_refuses (asked.ne (.inr (by decide))),
    Route.whoAmI_refuses (asked.ne (.inl (by decide))), post, get]
  rcases (Route.signOut service policy draw request).run s with ⟨refusal | answer, s'⟩
  · exact Prod.ext (decides refusal) rfl
  · rfl

theorem handle_whoAmI (asked : request.IsFor "GET" "whoami") (s : Service.State σ) :
    (handle service policy draw request).run s =
      (Route.decided ((Route.whoAmI service draw request).run s).1,
        ((Route.whoAmI service draw request).run s).2) := by
  have decides (refusal : Refusal) :
      Route.recover [.methodNotAllowed, .methodNotAllowed, refusal] = refusal.answer := by
    cases refusal <;> rfl
  rw [handle_run asked.inside]
  simp only [Route.firstOf_cons, Route.signIn_refuses (asked.ne (.inl (by decide))),
    Route.signOut_refuses (asked.ne (.inl (by decide))), lineRefusal_get asked]
  rcases (Route.whoAmI service draw request).run s with ⟨refusal | answer, s'⟩
  · exact Prod.ext (decides refusal) rfl
  · rfl

/-- A request that is for no route is not found. -/
theorem handle_none (signIn : ¬request.IsFor "POST" "signin")
    (signOut : ¬request.IsFor "POST" "signout") (whoAmI : ¬request.IsFor "GET" "whoami")
    (s : Service.State σ) :
    (handle service policy draw request).run s = (Refusal.notFound.answer, s) := by
  by_cases inside : request.segments.take 2 = [ascii "api", ascii "v1"]
  · have decides : Route.recover [Route.lineRefusal "POST" request,
        Route.lineRefusal "POST" request, Route.lineRefusal "GET" request] =
        Refusal.notFound.answer := by
      unfold Route.lineRefusal
      split <;> split <;> rfl
    rw [handle_run inside]
    simp only [Route.firstOf_cons, Route.signIn_refuses signIn, Route.signOut_refuses signOut,
      Route.whoAmI_refuses whoAmI]
    exact Prod.ext decides rfl
  · unfold handle
    rw [if_pos inside]
    rfl

/-- What a route answers to a call, if what it answers to a success goes by the reply. -/
theorem decided_answer {α : Type} {attempt : Attempt (Service.State σ) α}
    {success : α → Except Refusal Answer} {reply : α → Service.Reply}
    (h : ∀ a, Route.decided (success a) = answerTo policy (.ok (reply a))) (s : Service.State σ) :
    (Route.decided ((Route.answer attempt success).run s).1,
        ((Route.answer attempt success).run s).2) =
      (answerTo policy ((attempt >>= fun a => pure (reply a)).perform s).1,
        ((attempt >>= fun a => pure (reply a)).perform s).2) := by
  rw [Attempt.perform_bind_pure]
  change (Route.decided (Route.answer attempt success s).1, (Route.answer attempt success s).2) = _
  unfold Route.answer
  rcases attempt.perform s with ⟨error | a, s'⟩
  · rfl
  · exact Prod.ext (h a) rfl

/-- A request is refused and nothing is called, or it asks for a step of the service and is answered
by what the step gives. -/
theorem handle_eq (s : Service.State σ) :
    (handle service policy draw request).run s =
      match request.step draw with
      | .error refusal => (refusal.answer, s)
      | .ok step =>
        (answerTo policy ((service.take step).perform s).1, ((service.take step).perform s).2) := by
  by_cases signIn : request.IsFor "POST" "signin"
  · rw [handle_signIn signIn, Route.signIn, Route.checkLine_of_isFor signIn, Request.step,
      if_pos signIn]
    rcases Route.readLogin request with refusal | login
    · rfl
    · refine decided_answer (fun answer => ?_) s
      rcases answer with issued | reason
      · rw [Route.signInAnswer, answerTo]
        rcases policy.issue issued.session issued.csrf with _ | cookies <;> rfl
      · rfl
  by_cases signOut : request.IsFor "POST" "signout"
  · rw [handle_signOut signOut, Route.signOut, Route.checkLine_of_isFor signOut, Request.step,
      if_neg signIn, if_pos signOut]
    rcases Route.readSession request with refusal | session
    · rfl
    rcases Route.readCsrf request with refusal | (_ | csrf)
    · rfl
    · rfl
    · exact decided_answer (fun _ => rfl) s
  by_cases whoAmI : request.IsFor "GET" "whoami"
  · rw [handle_whoAmI whoAmI, Route.whoAmI, Route.checkLine_of_isFor whoAmI, Request.step,
      if_neg signIn, if_neg signOut, if_pos whoAmI]
    rcases Route.readSession request with refusal | session
    · rfl
    · exact decided_answer (fun _ => rfl) s
  · rw [handle_none signIn signOut whoAmI, Request.step, if_neg signIn, if_neg signOut,
      if_neg whoAmI]

theorem handle_refused {refusal : Refusal} (refused : request.step draw = .error refusal)
    (s : Service.State σ) :
    (handle service policy draw request).run s = (refusal.answer, s) := by
  rw [handle_eq, refused]

theorem handle_step {step : Service.Step} (asked : request.step draw = .ok step)
    (s : Service.State σ) :
    (handle service policy draw request).run s =
      (answerTo policy ((service.take step).perform s).1,
        ((service.take step).perform s).2) := by
  rw [handle_eq, asked]

/-- A request that asks for a step is for one of the three routes, and its step is made of what that
route reads in it. -/
theorem Request.step_cases {step : Service.Step} (h : request.step draw = .ok step) :
    (∃ login, request.IsFor "POST" "signin" ∧ Route.readLogin request = .ok login ∧
        step = .signIn draw login) ∨
      (∃ session csrf, request.IsFor "POST" "signout" ∧
        Route.readSession request = .ok session ∧ Route.readCsrf request = .ok (some csrf) ∧
        step = .signOut draw.now session csrf) ∨
      ∃ session, request.IsFor "GET" "whoami" ∧ Route.readSession request = .ok session ∧
        step = .whoIs draw.now session := by
  unfold Request.step at h
  split_ifs at h with signIn signOut whoAmI
  · rcases hl : Route.readLogin request with refusal | login <;> rw [hl] at h <;> cases h
    exact .inl ⟨login, signIn, rfl, rfl⟩
  · rcases hs : Route.readSession request with refusal | session <;> rw [hs] at h
    · cases h
    rcases hc : Route.readCsrf request with refusal | (_ | csrf) <;> rw [hc] at h <;> cases h
    exact .inr (.inl ⟨session, csrf, signOut, rfl, rfl, rfl⟩)
  · rcases hs : Route.readSession request with refusal | session <;> rw [hs] at h <;> cases h
    exact .inr (.inr ⟨session, whoAmI, rfl, rfl⟩)

namespace Route

variable {refusal : Refusal}

/-- A body is refused for the length that it is said to have, or after that for what it is. -/
theorem readLogin_refuses (h : readLogin request = .error refusal) :
    (request.contentLength? = none ∧ refusal = .noLength) ∨
      ∃ length, request.contentLength? = some length ∧
        (maxLength < length ∧ refusal = .tooLong ∨
          length ≤ maxLength ∧ (refusal = .wrongMediaType ∨
            ∃ reason, refusal = .malformedBody reason)) := by
  unfold readLogin at h
  split at h
  · rename_i untold
    cases h
    exact .inl ⟨untold, rfl⟩
  rename_i length told
  refine .inr ⟨length, told, ?_⟩
  split_ifs at h with tooLong
  · cases h
    exact .inl ⟨tooLong, rfl⟩
  · split at h <;> cases h
    exact .inr ⟨Nat.not_lt.1 tooLong, .inr ⟨_, rfl⟩⟩
  · cases h
    exact .inr ⟨Nat.not_lt.1 tooLong, .inl rfl⟩

/-- A body is read only if its length is told and allowed. -/
theorem contentLength_of_readLogin {login : Login} (h : readLogin request = .ok login) :
    ∃ length, request.contentLength? = some length ∧ length ≤ maxLength := by
  unfold readLogin at h
  split at h
  · cases h
  · rename_i length told
    refine ⟨length, told, Nat.not_lt.1 fun tooLong => ?_⟩
    rw [if_pos tooLong] at h
    cases h

theorem readSession_refuses (h : readSession request = .error refusal) :
    refusal = .code .invalidSession := by
  unfold readSession at h
  split at h
  · split_ifs at h
    cases h
    rfl
  · cases h
    rfl

/-- A CSRF header is refused if it is there and no text, and for nothing else. -/
theorem readCsrf_eq_error : readCsrf request = .error refusal ↔
    refusal = .unreadableHeader ∧ ∃ value, request.value? CookiePolicy.csrfHeader = some value ∧
      ∃ b ∈ value, Request.isTextByte b = false := by
  unfold readCsrf
  rcases request.value? CookiePolicy.csrfHeader with _ | value
  · simp
  · simp only [Option.some.injEq, exists_eq_left']
    split_ifs with text
    · refine iff_of_false (by simp) fun ⟨_, b, inside, odd⟩ => ?_
      exact absurd (List.all_eq_true.1 text b inside) (odd ▸ Bool.false_ne_true)
    · have odd : ∃ b ∈ value, Request.isTextByte b = false := by simpa using text
      rw [Except.error.injEq, and_iff_left odd]
      exact eq_comm

end Route

/-- A request that is refused is for one of the three routes, which does not read what it needs, or
for none of them. -/
theorem Request.step_refused {refusal : Refusal} (h : request.step draw = .error refusal) :
    (request.IsFor "POST" "signin" ∧ Route.readLogin request = .error refusal) ∨
      (request.IsFor "POST" "signout" ∧ (Route.readSession request = .error refusal ∨
        ∃ session, Route.readSession request = .ok session ∧
          (Route.readCsrf request = .error refusal ∨
            Route.readCsrf request = .ok none ∧ refusal = .code .csrfMismatch))) ∨
      (request.IsFor "GET" "whoami" ∧ Route.readSession request = .error refusal) ∨
      ((¬request.IsFor "POST" "signin" ∧ ¬request.IsFor "POST" "signout" ∧
        ¬request.IsFor "GET" "whoami") ∧ refusal = .notFound) := by
  unfold Request.step at h
  split_ifs at h with signIn signOut whoAmI
  · rcases hl : Route.readLogin request with refused | login <;> rw [hl] at h <;> cases h
    exact .inl ⟨signIn, rfl⟩
  · refine .inr (.inl ⟨signOut, ?_⟩)
    rcases hs : Route.readSession request with refused | session <;> rw [hs] at h
    · cases h
      exact .inl rfl
    refine .inr ⟨session, rfl, ?_⟩
    rcases hc : Route.readCsrf request with refused | (_ | csrf) <;> rw [hc] at h <;> cases h
    · exact .inl rfl
    · exact .inr ⟨rfl, rfl⟩
  · rcases hs : Route.readSession request with refused | session <;> rw [hs] at h <;> cases h
    exact .inr (.inr (.inl ⟨whoAmI, rfl⟩))
  · cases h
    exact .inr (.inr (.inr ⟨⟨signIn, signOut, whoAmI⟩, rfl⟩))

theorem status_failure_ne (code : ErrorCode) (message : String) :
    (Answer.failure code message).status ≠ 200 := by
  show code.status ≠ 200
  cases code <;> decide

theorem Refusal.status_answer_ne (refusal : Refusal) : refusal.answer.status ≠ 200 := by
  cases refusal <;> exact status_failure_ne _ _

section Effect

variable (service policy draw request) (s : Service.State σ)

/-- An answer and what is left, by what the request asks for. -/
inductive Effect : Answer → Service.State σ → Prop
  | none {answer : Answer} (refused : answer.status ≠ 200) : Effect answer s
  | signIn {answer : Answer} {s' : Service.State σ} {login : Login}
      {result : Except AuthError SignInAnswer} (asked : request.IsFor "POST" "signin")
      (call : (service.signIn draw login).perform s = (result, s'))
      (granted : answer.status = 200 ↔ ∃ issued cookies,
        result = .ok (.authenticated issued) ∧
          policy.issue issued.session issued.csrf = some cookies) : Effect answer s'
  | signOut {answer : Answer} {s' : Service.State σ} {session : SessionToken} {csrf : CsrfToken}
      {result : Except AuthError Unit} (asked : request.IsFor "POST" "signout")
      (cookie : Route.readSession request = .ok session)
      (header : Route.readCsrf request = .ok (some csrf))
      (call : (service.signOut draw.now session csrf).perform s = (result, s'))
      (granted : answer.status = 200 ↔ result = .ok ()) : Effect answer s'
  | whoAmI {answer : Answer} {s' : Service.State σ} {session : SessionToken}
      {result : Except AuthError SessionInfo} (asked : request.IsFor "GET" "whoami")
      (cookie : Route.readSession request = .ok session)
      (call : (service.whoIs draw.now session).perform s = (result, s'))
      (granted : answer.status = 200 ↔ ∃ info, result = .ok info) : Effect answer s'

variable {service policy draw request s}

theorem status_answerTo_error (error : AuthError) : (answerTo policy (.error error)).status ≠ 200 :=
  Refusal.status_answer_ne (.code (.ofFault error))

theorem status_signIn (result : Except AuthError SignInAnswer) :
    (answerTo policy (result.map .signIn)).status = 200 ↔ ∃ issued cookies,
      result = .ok (.authenticated issued) ∧
        policy.issue issued.session issued.csrf = some cookies := by
  rcases result with error | issued | reason
  · exact iff_of_false (status_answerTo_error error) (by simp)
  · rw [Except.map, answerTo]
    rcases hc : policy.issue issued.session issued.csrf with _ | cookies
    · refine iff_of_false (Refusal.status_answer_ne (.code .internalError)) ?_
      rintro ⟨_, cookies, ⟨⟩, sent⟩
      rw [hc] at sent
      cases sent
    · exact iff_of_true rfl ⟨issued, cookies, rfl, hc⟩
  · exact iff_of_false (Refusal.status_answer_ne (.code (.ofRejection reason))) (by simp)

theorem status_signOut (result : Except AuthError Unit) :
    (answerTo policy (result.map fun _ => .done)).status = 200 ↔ result = .ok () := by
  rcases result with error | _
  · exact iff_of_false (status_answerTo_error error) (by simp)
  · exact iff_of_true rfl rfl

theorem status_whoAmI (result : Except AuthError SessionInfo) :
    (answerTo policy (result.map .info)).status = 200 ↔ ∃ info, result = .ok info := by
  rcases result with error | info
  · exact iff_of_false (status_answerTo_error error) (by simp)
  · exact iff_of_true rfl ⟨info, rfl⟩

theorem handle_effect :
    Effect service policy draw request s ((handle service policy draw request).run s).1
      ((handle service policy draw request).run s).2 := by
  rw [handle_eq]
  rcases hs : request.step draw with refusal | step
  · exact .none refusal.status_answer_ne
  rcases Request.step_cases hs with ⟨login, asked, -, rfl⟩ |
    ⟨session, csrf, asked, cookie, header, rfl⟩ | ⟨session, asked, cookie, rfl⟩ <;>
    dsimp only <;> rw [Service.take, Attempt.perform_bind_pure]
  · exact .signIn asked rfl (status_signIn _)
  · exact .signOut asked cookie header rfl (status_signOut _)
  · exact .whoAmI asked cookie rfl (status_whoAmI _)

end Effect

end SignIn.Http
