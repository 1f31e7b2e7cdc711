import SignIn.Proofs.BackendCalls
import SignIn.Proofs.FailedCalls
import SignIn.Proofs.Handling
import SignIn.Proofs.RecordedCalls
import SignIn.Proofs.SendableCookies

/-!
# Faults of the service's own

A request is answered with status 500 exactly if the step that it asks for meets a fault of the
service's own (`status_eq_500`), and that answer is the same whichever the fault is, so it tells
nothing about it (`handle_internal`). No request is answered so for what is wrong with it: one of
the three routes always refuses the method (`Route.methodNotAllowed_mem`), and the cookies of a
session that was just opened can be sent.
-/

namespace SignIn

/-- A step ends with a fault of the service's own. -/
def Service.Breaks {σ : Type} (service : Service σ) (step : Service.Step)
    (s : Service.State σ) : Prop :=
  ∃ error, ((service.take step).perform s).1 = .error error ∧ error.isInternal = true

namespace Http

/-- The one answer to all faults of the service's own. -/
def serverFault : Answer :=
  ⟨500, "application/json", [],
    .object [("success", .bool false), ("data", .null),
      ("error", .object [("code", .text "InternalError"), ("title", .text "Error"),
        ("message", .text "Server error")])]⟩

variable {σ : Type} {service : Service σ} {policy : CookiePolicy} {draw : Draw} {request : Request}
  {s : Service.State σ}

namespace Route

/-- Refusals that tell nothing of what a request was refused for. -/
structure IsUnhandled (refusals : List Refusal) : Prop where
  code : ∀ code, .code code ∉ refusals
  malformed : ∀ reason, .malformedBody reason ∉ refusals
  mediaType : .wrongMediaType ∉ refusals
  method : .methodNotAllowed ∉ refusals
  path : ∃ refusal ∈ refusals, refusal ≠ .notFound

theorem recover_of_isUnhandled {refusals : List Refusal} (h : IsUnhandled refusals) :
    recover refusals = serverFault := by
  have noCode : refusals.findSome? code? = none := by
    refine List.findSome?_eq_none_iff.2 fun refusal hr => ?_
    cases refusal with
    | code code => exact absurd hr (h.code code)
    | _ => rfl
  have wellFormed : refusals.findSome? malformed? = none := by
    refine List.findSome?_eq_none_iff.2 fun refusal hr => ?_
    cases refusal with
    | malformedBody reason => exact absurd hr (h.malformed reason)
    | _ => rfl
  obtain ⟨refusal, hr, other⟩ := h.path
  have others : ¬refusals.all (· = .notFound) := fun all =>
    other (of_decide_eq_true (List.all_eq_true.1 all refusal hr))
  rw [recover, noCode, wellFormed]
  simp only [List.contains_iff_mem, h.mediaType, h.method, others, if_false]
  rfl

theorem mem_firstOf (route : Route σ) {refusal : Refusal}
    (refuses : ∀ s, (route request).run s = (.error refusal, s)) :
    ∀ {routes : List (Route σ)} {s s' : σ} {refusals : List Refusal}, route ∈ routes →
      (firstOf request routes).run s = (.error refusals, s') → refusal ∈ refusals
  | first :: routes, s, s', refusals, hr, h => by
    rw [firstOf_cons] at h
    rcases hf : (first request).run s with ⟨refused | answer, left⟩ <;> simp only [hf] at h
    · rcases hrest : (firstOf request routes).run left with ⟨others | answer, left'⟩ <;>
        simp only [hrest] at h <;> cases h
      rcases List.mem_cons.1 hr with rfl | hr
      · rw [refuses] at hf
        cases hf
        exact List.mem_cons_self
      · exact List.mem_cons_of_mem _ (mem_firstOf route refuses hr hrest)
    · cases h

/-- No method is that of all routes. -/
theorem methodNotAllowed_mem {s' : Service.State σ} {refusals : List Refusal}
    (h : (firstOf request [signIn service policy draw, signOut service policy draw,
      whoAmI service draw]).run s = (.error refusals, s')) : .methodNotAllowed ∈ refusals := by
  by_cases post : request.method = ascii "POST"
  · have notGet : request.method ≠ ascii "GET" := post ▸ by decide
    refine mem_firstOf (whoAmI service draw) (fun s => ?_) (by simp) h
    rw [whoAmI_refuses fun asked => notGet asked.1, lineRefusal, if_neg notGet]
  · refine mem_firstOf (signIn service policy draw) (fun s => ?_) (by simp) h
    rw [signIn_refuses fun asked => post asked.1, lineRefusal, if_neg post]

end Route

/-- What is wrong with a request is never answered as a fault of the service's own. -/
theorem status_refused {refusal : Refusal} (h : request.step draw = .error refusal) :
    refusal.answer.status ≠ 500 := by
  rcases Request.step_refused h with ⟨-, read⟩ | ⟨-, read | ⟨_, -, read | ⟨-, rfl⟩⟩⟩ | ⟨-, read⟩ |
    ⟨-, rfl⟩
  · rcases Route.readLogin_refuses read with ⟨-, rfl⟩ | ⟨_, -, ⟨-, rfl⟩ | ⟨-, rfl | ⟨_, rfl⟩⟩⟩ <;>
      exact of_decide_eq_true rfl
  · rw [Route.readSession_refuses read]
    decide
  · rw [(Route.readCsrf_eq_error.1 read).1]
    decide
  · decide
  · rw [Route.readSession_refuses read]
    decide
  · decide

theorem status_fault (error : AuthError) :
    (answerTo policy (.error error)).status = 500 ↔ error.isInternal = true := by
  cases error <;> exact of_decide_eq_true rfl

/-- A session that was just opened is handed out: its cookies can be sent. -/
theorem issue_signIn (policy : CookiePolicy) {login : Login} {issued : IssuedSession}
    (h : ((service.signIn draw login).perform s).1 = .ok (.authenticated issued)) :
    ∃ cookies, policy.issue issued.session issued.csrf = some cookies := by
  obtain ⟨_, _, _, _, -, -, -, -, -, rfl⟩ := service.signIn_authenticated (Prod.ext h rfl)
  exact issue_cookies policy draw.token service.csrfKey

/-- What a step gives that meets no fault is no fault. -/
theorem status_reply {step : Service.Step} {reply : Service.Reply}
    (asked : request.step draw = .ok step)
    (h : ((service.take step).perform s).1 = .ok reply) :
    (answerTo policy (.ok reply)).status ≠ 500 := by
  rcases Request.step_cases asked with ⟨login, -, -, rfl⟩ | ⟨session, csrf, -, -, -, rfl⟩ |
    ⟨session, -, -, rfl⟩ <;> rw [Service.take, Attempt.perform_bind_pure] at h
  · rcases hr : ((service.signIn draw login).perform s).1 with _ | issued | reason <;>
      simp only [hr] at h <;> cases h
    · obtain ⟨cookies, sent⟩ := issue_signIn policy hr
      rw [answerTo, sent]
      exact of_decide_eq_true rfl
    · cases reason
      exact of_decide_eq_true rfl
  · generalize ((service.signOut draw.now session csrf).perform s).1 = given at h
    cases given <;> cases h
    exact of_decide_eq_true rfl
  · generalize ((service.whoIs draw.now session).perform s).1 = given at h
    cases given <;> cases h
    exact of_decide_eq_true rfl

/-- Status 500 is for steps that meet a fault of the service's own, and for nothing else. -/
theorem status_eq_500 :
    ((handle service policy draw request).run s).1.status = 500 ↔
      ∃ step, request.step draw = .ok step ∧ service.Breaks step s := by
  rw [handle_eq]
  rcases asked : request.step draw with refusal | step
  · exact iff_of_false (status_refused asked) (by simp)
  simp only [Except.ok.injEq, exists_eq_left', Service.Breaks]
  rcases hr : ((service.take step).perform s).1 with error | reply
  · simp [status_fault]
  · exact iff_of_false (status_reply asked hr) (by simp)

/-- All answers of status 500 are one. -/
theorem eq_serverFault (h : ((handle service policy draw request).run s).1.status = 500) :
    ((handle service policy draw request).run s).1 = serverFault := by
  obtain ⟨step, asked, error, met, internal⟩ := status_eq_500.1 h
  rw [handle_step asked, met]
  cases error with
  | invalidSession => cases internal
  | csrfMismatch => cases internal
  | store reason => rfl
  | internal reason => rfl

variable {faults : Call → Option AuthError}

/-- A record of the calls changes no answer, and if a call that was made is at fault, then that
fault is what the step of the request met. -/
theorem handle_recorded (service : Service σ) (s : Service.State σ) :
    ∃ made, (handle (service.interrupted faults).recorded policy draw request).run
          ⟨s.decoy, s.world, []⟩ =
        (((handle (service.interrupted faults) policy draw request).run s).1,
          ⟨((handle (service.interrupted faults) policy draw request).run s).2.decoy,
            ((handle (service.interrupted faults) policy draw request).run s).2.world, made⟩) ∧
      ∀ call ∈ made, ∀ error, faults call = some error → ∃ step, request.step draw = .ok step ∧
        (((service.interrupted faults).take step).perform s).1 = .error error := by
  rw [handle_eq, handle_eq]
  rcases request.step draw with refusal | step
  · exact ⟨[], rfl, fun _ none => absurd none List.not_mem_nil⟩
  · obtain ⟨made, eq, stops⟩ : ∃ made, (((service.interrupted faults).recorded.take step).perform
        ⟨s.decoy, s.world, []⟩) = _ ∧ ∀ call ∈ made, _ := service.perform_recorded step s []
    refine ⟨made, ?_, fun call hc error fault => ⟨step, rfl, stops call hc error fault⟩⟩
    dsimp only
    rw [eq]
    rfl

end Http

namespace Service

open Attempt

section Undecodable

variable [Causes] {τ : Type} {users : UserStore τ} {hasher : PasswordHasher τ} {name : String}
  {csrfKey : CsrfKey} {ttl : Duration} {faults : Call → Option AuthError}
  {s : State (τ × SessionBackend)}
  (hfaults : ∀ call error, faults call = some error → error.isInternal = true)

include hfaults

/-- To find a text in the key server that is the stored form of no session is a fault of the
service's own, if it is no such fault to ask. -/
theorem find_undecodable {token : SessionToken} {server : KeyServer} {text : String}
    (kept : s.world.2 = .keyServer server) (unforced : server.forced = none)
    (found : server.values.get? (KeyServer.key name token) = some text)
    (undecodable : Session.ofStored? text = none) :
    ∃ error world, ((inBackend users hasher name csrfKey ttl faults).sessions.find token).perform
      s.world = (.error error, world) ∧ error.isInternal = true := by
  rw [find_backend]
  rcases fault : faults (.find token) with _ | error
  · refine ⟨.internal s!"corrupt session: {Causes.session text}", _, Prod.ext ?_ rfl, rfl⟩
    simp only [Option.elim, kept, SessionBackend.store, SessionBackend.either, perform_of,
      KeyServer.perform_find unforced, found, KeyServer.readSession, undecodable]
  · exact ⟨error, s.world, rfl, hfaults _ _ fault⟩

theorem take_breaks {step : Step} {now : Instant} {token : SessionToken} {server : KeyServer}
    {text : String} (asked : step.asks? = some (now, token))
    (kept : s.world.2 = .keyServer server) (unforced : server.forced = none)
    (found : server.values.get? (KeyServer.key name token) = some text)
    (undecodable : Session.ofStored? text = none) :
    (inBackend users hasher name csrfKey ttl faults).Breaks step s := by
  obtain ⟨error, world, met, internal⟩ : ∃ error world, ((inBackend users hasher name csrfKey ttl
      faults).sessions.find token).perform s.world = (.error error, world) ∧
        error.isInternal = true :=
    find_undecodable hfaults kept unforced found undecodable
  have whoIs : ((inBackend users hasher name csrfKey ttl faults).whoIs now token).perform s =
      (.error error, ⟨s.decoy, world⟩) := by
    rw [perform_whoIs, met]
  refine ⟨error, ?_, internal⟩
  cases step with
  | whoIs => cases asked; rw [take, perform_bind_pure, whoIs]; rfl
  | authorize => cases asked; rw [take, perform_bind_pure, perform_authorize, whoIs]; rfl
  | signOut =>
    cases asked
    rw [take, perform_bind_pure, perform_signOut, perform_authorize, whoIs]
    rfl
  | signIn | purge | save | find | revoke => cases asked

/-- Whoever may have a session but cannot for its length meets a fault of the service's own. -/
theorem signIn_breaks {draw : Draw} {login : Login} {credential : Credential} {world : τ}
    (known : (users.find login.username).perform s.world.1 = (.ok (some credential), world))
    (right : ((hasher.verify login.password credential.passwordHash).perform world).1 = .ok true)
    (active : credential.isActive = true) (unusable : expiry? ttl draw.now = none) :
    (inBackend users hasher name csrfKey ttl faults).Breaks (.signIn draw login) s := by
  rw [Breaks, take, perform_bind_pure, perform_signIn, findUser_backend]
  rcases lookup : faults (.findUser login.username) with _ | error
  swap
  · exact ⟨error, rfl, hfaults _ _ lookup⟩
  simp only [Option.elim, known]
  rw [verify_backend]
  rcases check : faults (.verify login.password credential.passwordHash) with _ | error
  swap
  · exact ⟨error, rfl, hfaults _ _ check⟩
  simp only [Option.elim, right, active, and_self, if_true]
  rw [perform_issue]
  have none : expiry? (inBackend users hasher name csrfKey ttl faults).ttl draw.now = none :=
    unusable
  simp only [none]
  exact ⟨_, rfl, rfl⟩

end Undecodable

end Service

namespace Http

open Service

variable {τ : Type}

/-- Whichever calls fail with a fault of the service's own, a request is answered with status 500
exactly if the step that it asks for ends with such a fault: that of any call that was made, that of
a text in the key server that is the stored form of no session, or that of a length of sessions that
cannot be used. No request gathers refusals for which there is no answer, and the cookies of a
session that was opened can be sent. All answers of status 500 are one, so two of them to one
request are the same, whatever the stores, the state and the faults are in either. -/
theorem handle_internal [Causes] (users : UserStore τ) (hasher : PasswordHasher τ) (name : String)
    (csrfKey : CsrfKey) (ttl : Duration) (faults : Call → Option AuthError) (policy : CookiePolicy)
    (draw : Draw) (request : Request) (s : State (τ × SessionBackend))
    (hfaults : ∀ call error, faults call = some error → error.isInternal = true) :
    let service := (ofBackend users hasher name csrfKey ttl).interrupted faults
    let answer := ((handle service policy draw request).run s).1
    let recorded := (handle service.recorded policy draw request).run ⟨s.decoy, s.world, []⟩
    (answer.status = 500 ↔ ∃ step, request.step draw = .ok step ∧ service.Breaks step s) ∧
      (recorded.1 = answer ∧
        ∀ call ∈ recorded.2.world.2, (faults call).isSome → answer.status = 500) ∧
      (∀ step now token server text, request.step draw = .ok step →
        step.asks? = some (now, token) → s.world.2 = .keyServer server → server.forced = none →
        server.values.get? (KeyServer.key name token) = some text →
        Session.ofStored? text = none → answer.status = 500) ∧
      (∀ login credential world, request.step draw = .ok (.signIn draw login) →
        (users.find login.username).perform s.world.1 = (.ok (some credential), world) →
        ((hasher.verify login.password credential.passwordHash).perform world).1 = .ok true →
        credential.isActive = true → expiry? ttl draw.now = none → answer.status = 500) ∧
      (¬Route.IsUnhandled [.notFound] ∧ ∀ refusals s', (Route.firstOf request
        [Route.signIn service policy draw, Route.signOut service policy draw,
          Route.whoAmI service draw]).run s = (.error refusals, s') →
        ¬Route.IsUnhandled refusals) ∧
      (∀ login issued, ((service.signIn draw login).perform s).1 = .ok (.authenticated issued) →
        (policy.issue issued.session issued.csrf).isSome) ∧
      (answer.status = 500 → answer = serverFault) ∧
      ∀ {σ : Type} (service' : Service σ) (policy' : CookiePolicy) (draw' : Draw) (s' : State σ),
        let answer' := ((handle service' policy' draw' request).run s').1
        answer.status = 500 → answer'.status = 500 → answer' = answer := by
  intro service answer recorded
  have fails {step : Service.Step} (asked : request.step draw = .ok step)
      (breaks : service.Breaks step s) : answer.status = 500 :=
    status_eq_500.2 ⟨step, asked, breaks⟩
  refine ⟨status_eq_500, ?recorded, ?undecodable, ?unusable, ⟨?outside, ?gathered⟩, ?cookies,
    eq_serverFault, ?same⟩
  case recorded =>
    obtain ⟨made, eq, stops⟩ : ∃ made, recorded = _ ∧ ∀ call ∈ made, _ :=
      handle_recorded (ofBackend users hasher name csrfKey ttl) s
    refine ⟨congrArg Prod.fst eq, fun call hc atFault => ?_⟩
    obtain ⟨error, fault⟩ := Option.isSome_iff_exists.1 atFault
    rw [eq] at hc
    obtain ⟨step, asked, met⟩ := stops call hc error fault
    exact fails asked ⟨error, met, hfaults call error fault⟩
  case undecodable =>
    intro step now token server text asked asks kept unforced found undecodable
    exact fails asked (take_breaks hfaults asks kept unforced found undecodable)
  case unusable =>
    intro login credential world asked known right active unusable
    exact fails asked (signIn_breaks hfaults known right active unusable)
  case outside =>
    intro h
    obtain ⟨refusal, hr, other⟩ := h.path
    exact other (List.mem_singleton.1 hr)
  case gathered =>
    exact fun refusals s' gathered h => h.method (Route.methodNotAllowed_mem gathered)
  case cookies =>
    intro login issued opened
    obtain ⟨cookies, sent⟩ := issue_signIn policy opened
    rw [sent]
    rfl
  case same =>
    intro σ service' policy' draw' s' answer' fault fault'
    exact (eq_serverFault fault').trans (eq_serverFault fault).symm

section Sample

attribute [local instance] Causes.plain

/-- A request that asks whose session a token names under which the key server has no session. -/
def brokenRequest : Request :=
  ⟨ascii "GET", ascii "/api/v1/whoami", [(ascii "cookie", ascii "session=a")], []⟩

def brokenServer : KeyServer := ⟨Table.empty.put "s:a" "junk", none, []⟩

def brokenService : Service (Roster × SessionBackend) :=
  (ofBackend Roster.store (plainHasher Roster) "s" ⟨[]⟩ (.ofSeconds 10)).interrupted verifierDown

/-- It is answered as the same request is that cannot reach the sessions at all. -/
theorem handle_internal_junk :
    (∀ call error, verifierDown call = some error → error.isInternal = true) ∧
      ((handle brokenService ⟨false, .ofSeconds 10⟩ (sampleDraw 0 1) brokenRequest).run
        ⟨none, .ofCredentials [], .keyServer brokenServer⟩).1 = serverFault ∧
      ((handle (sampleService.interrupted fun _ => some (.store "unreachable"))
        ⟨false, .ofSeconds 10⟩ (sampleDraw 7 5) brokenRequest).run sampleStart).1 =
          serverFault := by
  have hfaults : ∀ call error, verifierDown call = some error → error.isInternal = true := by
    rintro (_ | _ | _ | _ | _ | _ | _) error fault <;> cases fault
    rfl
  have asked : brokenRequest.step (sampleDraw 0 1) = .ok (.whoIs (sampleMoment 0) ⟨"a"⟩) := by
    have cookie : Route.readSession brokenRequest = .ok ⟨"a"⟩ := by decide +kernel
    rw [Request.step, if_neg (by decide +kernel), if_neg (by decide +kernel),
      if_pos (by decide +kernel), cookie]
    rfl
  have unreachable : ((handle (sampleService.interrupted fun _ => some (.store "unreachable"))
      ⟨false, .ofSeconds 10⟩ (sampleDraw 7 5) brokenRequest).run sampleStart).1.status = 500 := by
    decide +kernel
  obtain ⟨-, -, undecodable, -, -, -, same, others⟩ := handle_internal Roster.store
    (plainHasher Roster) "s" ⟨[]⟩ (.ofSeconds 10) verifierDown ⟨false, .ofSeconds 10⟩
    (sampleDraw 0 1) brokenRequest ⟨none, .ofCredentials [], .keyServer brokenServer⟩ hfaults
  have broken := undecodable (.whoIs (sampleMoment 0) ⟨"a"⟩) (sampleMoment 0)
    ⟨"a"⟩ brokenServer "junk" asked rfl rfl rfl (by decide +kernel) (by decide +kernel)
  have again := others (sampleService.interrupted fun _ => some (.store "unreachable"))
    ⟨false, .ofSeconds 10⟩ (sampleDraw 7 5) sampleStart broken unreachable
  exact ⟨hfaults, same broken, again.trans (same broken)⟩

end Sample

end Http

end SignIn
