import SignIn.Proofs.AnswerShape

/-!
# What is not found

A request is answered as not found exactly if it is for none of the three routes, or is a request to
sign in that does not tell an allowed length, or one to sign out whose CSRF header is no text
(`handle_notFound_iff`). The last two are for routes that exist. What they are refused for has no
answer of its own, and another route, which refuses their method, then decides: one of the three
routes refuses the method of any request.
-/

namespace SignIn.Http

/-- An answer with an error of this name. -/
def Answer.Names (answer : Answer) (name : String) : Prop :=
  ∃ message, answer.body = .object [("success", .bool false), ("data", .null),
    ("error", .object [("code", .text name), ("title", .text "Error"),
      ("message", .text message)])]

namespace Request

/-- A request for one of the three routes. -/
def IsServed (request : Request) : Prop :=
  request.IsFor "POST" "signin" ∨ request.IsFor "POST" "signout" ∨ request.IsFor "GET" "whoami"

instance (request : Request) : Decidable request.IsServed := inferInstanceAs (Decidable (_ ∨ _))

example : (⟨ascii "POST", ascii "/api/v1/signin/", [], []⟩ : Request).IsServed := by decide

/-- A request to sign in that does not tell the length of its body, or tells more than 16 KiB. -/
def IsUnsized (request : Request) : Prop :=
  request.IsFor "POST" "signin" ∧ ∀ length, request.contentLength? = some length → 16384 < length

/-- A request to sign out with a session token and a CSRF header that is no text. -/
def HasUnreadableCsrf (request : Request) : Prop :=
  request.IsFor "POST" "signout" ∧ (∃ token, Route.readSession request = .ok token) ∧
    ∃ value, request.value? "x-csrf" = some value ∧ ∃ b ∈ value, isTextByte b = false

/-- A request that is for no route, or that is refused by its route for something that has no answer
of its own. -/
def IsMissed (request : Request) : Prop :=
  ¬request.IsServed ∨ request.IsUnsized ∨ request.HasUnreadableCsrf

section Missed

variable {request : Request}

theorem isMissed_signIn (asked : request.IsFor "POST" "signin") : request.IsMissed ↔
    ∀ length, request.contentLength? = some length → 16384 < length := by
  have other : ¬request.HasUnreadableCsrf := fun h => asked.ne (.inr (by decide)) h.1
  simp [IsMissed, IsServed, IsUnsized, asked, other]

theorem isMissed_signOut (asked : request.IsFor "POST" "signout") : request.IsMissed ↔
    (∃ token, Route.readSession request = .ok token) ∧
      ∃ value, request.value? "x-csrf" = some value ∧ ∃ b ∈ value, isTextByte b = false := by
  have other : ¬request.IsUnsized := fun h => asked.ne (.inr (by decide)) h.1
  simp [IsMissed, IsServed, HasUnreadableCsrf, asked, other]

theorem not_isMissed_whoAmI (asked : request.IsFor "GET" "whoami") : ¬request.IsMissed := by
  have sized : ¬request.IsUnsized := fun h => asked.ne (.inl (by decide)) h.1
  have readable : ¬request.HasUnreadableCsrf := fun h => asked.ne (.inl (by decide)) h.1
  simp [IsMissed, IsServed, asked, sized, readable]

theorem not_isMissed_of_step {draw : Draw} {step : Service.Step}
    (h : request.step draw = .ok step) : ¬request.IsMissed := by
  rcases step_cases h with ⟨login, asked, read, -⟩ | ⟨session, csrf, asked, -, header, -⟩ |
    ⟨session, asked, -, -⟩
  · rw [isMissed_signIn asked]
    obtain ⟨length, told, allowed⟩ := Route.contentLength_of_readLogin read
    exact fun tooLong => absurd (tooLong length told) (Nat.not_lt.2 allowed)
  · rw [isMissed_signOut asked]
    rintro ⟨-, unreadable⟩
    rw [Route.readCsrf_eq_error.2 ⟨rfl, unreadable⟩] at header
    cases header
  · exact not_isMissed_whoAmI asked

/-- Of what a request may be refused for, only what misses its route is answered as not found. -/
theorem status_refusal_iff {draw : Draw} {refusal : Refusal}
    (h : request.step draw = .error refusal) :
    refusal.answer.status = 404 ↔ request.IsMissed := by
  rcases step_refused h with ⟨asked, read⟩ | ⟨asked, out⟩ | ⟨asked, read⟩ | ⟨other, rfl⟩
  · rw [isMissed_signIn asked]
    rcases Route.readLogin_refuses read with ⟨untold, rfl⟩ |
      ⟨length, told, ⟨tooLong, rfl⟩ | ⟨allowed, either⟩⟩
    · exact iff_of_true rfl (by simp [untold])
    · refine iff_of_true rfl fun other same => ?_
      cases told.symm.trans same
      exact tooLong
    · have short : ¬∀ length, request.contentLength? = some length → 16384 < length :=
        fun long => absurd (long length told) (Nat.not_lt.2 allowed)
      rcases either with rfl | ⟨reason, rfl⟩ <;> exact iff_of_false (of_decide_eq_true rfl) short
  · rw [isMissed_signOut asked]
    rcases out with session | ⟨session, found, header | ⟨header, rfl⟩⟩
    · rw [Route.readSession_refuses session]
      exact iff_of_false (by decide) (by simp [session])
    · obtain ⟨rfl, unreadable⟩ := Route.readCsrf_eq_error.1 header
      exact iff_of_true rfl ⟨⟨session, found⟩, unreadable⟩
    · refine iff_of_false (by decide) fun ⟨_, unreadable⟩ => ?_
      rw [Route.readCsrf_eq_error.2 ⟨rfl, unreadable⟩] at header
      cases header
  · rw [Route.readSession_refuses read]
    exact iff_of_false (by decide) (not_isMissed_whoAmI asked)
  · exact iff_of_true rfl (.inl (by simp [IsServed, other]))

end Missed

end Request

variable {σ : Type} {service : Service σ} {policy : CookiePolicy} {draw : Draw} {request : Request}
  {s : Service.State σ}

/-- Among errors, the one of status 404 is named so. -/
theorem names_notFound_iff :
    ((handle service policy draw request).run s).1.Names "NotFound" ↔
      ((handle service policy draw request).run s).1.status = 404 := by
  -- A failure has the status that goes with its name, and a success has no error to name.
  generalize answered : ((handle service policy draw request).run s).1 = answer
  have either := (answered ▸ handle_shaped s : Shaped answer _).success_or_failure
  constructor
  · rintro ⟨message, body⟩
    rcases either with ⟨-, data, success⟩ | ⟨name, _, listed, failure⟩
    · simp [body] at success
    · simp only [body] at failure
      cases failure
      simpa [errorStatuses] using listed
  · intro status
    rcases either with ⟨ok, -⟩ | ⟨name, message, listed, body⟩
    · rw [status] at ok
      cases ok
    · rw [status] at listed
      have : name = "NotFound" := by simpa [errorStatuses] using listed
      exact ⟨message, this ▸ body⟩

/-- Whatever the service gives, a request is answered with the error of what is not found exactly if
it is for none of the three routes, or is one to sign in without an allowed length, or one to sign
out whose CSRF header is no text. -/
theorem handle_notFound_iff (service : Service σ) (policy : CookiePolicy) (draw : Draw)
    (request : Request) (s : Service.State σ) :
    ((handle service policy draw request).run s).1.Names "NotFound" ↔
      ¬request.IsServed ∨ request.IsUnsized ∨ request.HasUnreadableCsrf := by
  rw [names_notFound_iff, handle_eq]
  rcases hs : request.step draw with refusal | step
  · exact Request.status_refusal_iff hs
  · have answered : (answerTo policy ((service.take step).perform s).1).status ∈ _ :=
      status_answerTo_mem _
    refine iff_of_false (fun notFound => ?_) (Request.not_isMissed_of_step hs)
    dsimp only at notFound
    rw [notFound] at answered
    exact absurd answered (by decide)

end SignIn.Http
