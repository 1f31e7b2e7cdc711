import Mathlib.Logic.ExistsUnique
import SignIn.Proofs.Handling
import SignIn.Proofs.History
import SignIn.Proofs.RegistryCalls
import SignIn.Proofs.SendableCookies

/-!
# What requests do to the sessions in memory

A session that is not over stays as it is whatever is asked and whichever calls fail, until a
request to sign out comes with both of its tokens and is granted; and a session is put in by a
sign-in that is granted, one by each, and by nothing else (`serveAll_sessions`).

Every request has one of three effects (`registry_cases`): it takes out only what is over, or it is
a sign-in that puts one session in, or a sign-out that takes one out.
-/

namespace SignIn.Http

open Service

/-- A request to sign out with the token of a session in its cookie and the code of that token in its
header. -/
def Request.EndsSession (request : Request) (key : CsrfKey) (token : SessionToken) : Prop :=
  request.IsFor "POST" "signout" ∧
    request.cookieValue? CookiePolicy.sessionName = some token.text ∧
    ∃ value text, request.value? CookiePolicy.csrfHeader = some value ∧
      Utf8.decode value = some text ∧
      Hex.decode text = some (Hmac.code key.bytes (Utf8.encode token.text))

variable {τ : Type} {users : UserStore τ} {hasher : PasswordHasher τ} {csrfKey : CsrfKey}
  {ttl : Duration} {faults : Call → Option AuthError} {policy : CookiePolicy} {draw : Draw}
  {request : Request}

theorem cookie_of_readSession {token : SessionToken} (h : Route.readSession request = .ok token) :
    request.cookieValue? CookiePolicy.sessionName = some token.text := by
  unfold Route.readSession at h
  split at h
  · rename_i text cookie
    split at h
    · cases h
    · cases h
      exact cookie
  · cases h

theorem header_of_readCsrf {csrf : CsrfToken} (h : Route.readCsrf request = .ok (some csrf)) :
    ∃ value, request.value? CookiePolicy.csrfHeader = some value ∧
      Utf8.decode value = some csrf.text := by
  unfold Route.readCsrf at h
  split at h
  · cases h
  · rename_i value header
    split at h
    · rcases hd : Utf8.decode value with _ | text
      · rw [hd] at h
        cases h
      · rw [hd] at h
        cases h
        exact ⟨value, header, hd⟩
    · cases h

/-- A request to sign out whose two tokens belong together is one that can end the session. -/
theorem endsSession_of_verified {token : SessionToken} {csrf : CsrfToken}
    (asked : request.IsFor "POST" "signout") (cookie : Route.readSession request = .ok token)
    (header : Route.readCsrf request = .ok (some csrf))
    (verified : csrfKey.verify token csrf = true) : request.EndsSession csrfKey token := by
  obtain ⟨value, given, text⟩ := header_of_readCsrf header
  exact ⟨asked, cookie_of_readSession cookie, value, csrf.text, given, text,
    of_decide_eq_true verified⟩

theorem registry_cases {s s' : Service.State (τ × Registry)} {answer : Answer}
    (h : Effect (inMemory users hasher csrfKey ttl faults) policy draw request s answer s') :
    (s.world.2.LapsesTo s'.world.2 draw.now ∧
        ¬(request.IsFor "POST" "signin" ∧ answer.status = 200)) ∨
      (request.IsFor "POST" "signin" ∧ answer.status = 200 ∧
        ∃ session, s'.world.2 = s.world.2.put (.ofRandom draw.token) session) ∨
      ∃ token, request.EndsSession csrfKey token ∧ answer.status = 200 ∧
        s'.world.2 = s.world.2.erase token := by
  cases h with
  | none refused => exact .inl ⟨.refl _ _, fun granted => refused granted.2⟩
  | signIn asked call granted =>
    rcases signIn_registry call with ⟨issued, session, hr, token, csrf, -, put⟩ | ⟨hr, same⟩
    · refine .inr (.inl ⟨asked, granted.2 ?_, session, token ▸ put⟩)
      obtain ⟨cookies, sent⟩ := issue_cookies policy draw.token csrfKey
      exact ⟨issued, cookies, hr, by rw [csrf, token, sent]⟩
    · refine .inl ⟨same ▸ .refl _ _, fun h => ?_⟩
      obtain ⟨issued, -, eq, -⟩ := granted.1 h.2
      exact hr issued eq
  | signOut asked cookie header call granted =>
    rename_i session csrf result
    have other : ¬request.IsFor "POST" "signin" := asked.ne (.inr (by decide))
    rcases signOut_registry call with ⟨kept, -, -, verified, hr, erased⟩ | ⟨error, -, lapse⟩
    · exact .inr (.inr ⟨session, endsSession_of_verified asked cookie header verified,
        granted.2 hr, erased⟩)
    · exact .inl ⟨lapse, fun h => other h.1⟩
  | whoAmI asked cookie call granted =>
    have other : ¬request.IsFor "POST" "signin" := asked.ne (.inl (by decide))
    rcases whoIs_registry call with ⟨-, -, -, -, same⟩ | ⟨error, -, lapse⟩
    · exact .inl ⟨same ▸ .refl _ _, fun h => other h.1⟩
    · exact .inl ⟨lapse, fun h => other h.1⟩

section Step

variable {s s' : Service.State (τ × Registry)} {answer : Answer}
  (h : Effect (inMemory users hasher csrfKey ttl faults) policy draw request s answer s')
  {token : SessionToken} {session : Session}

include h

/-- A session that is not over stays, or it was signed out with both of its tokens. -/
theorem keeps_or_ends (fresh : s.world.2.get? (.ofRandom draw.token) = none)
    (found : s.world.2.get? token = some session) (live : ¬session.IsExpiredAt draw.now) :
    s'.world.2.get? token = some session ∨
      answer.status = 200 ∧ request.EndsSession csrfKey token := by
  rcases registry_cases h with ⟨lapse, -⟩ | ⟨-, -, added, put⟩ | ⟨ended, ends, granted, erased⟩
  · exact .inl (lapse.get?_eq found live)
  · have other : token ≠ .ofRandom draw.token := by
      rintro rfl
      exact nomatch fresh.symm.trans found
    exact .inl (by rw [put, Table.get?_put, if_neg other, found])
  · by_cases same : token = ended
    · exact .inr ⟨granted, same ▸ ends⟩
    · exact .inl (by rw [erased, Table.get?_erase, if_neg same, found])

theorem adds_by_signIn (absent : s.world.2.get? token = none)
    (present : s'.world.2.get? token ≠ none) :
    request.IsFor "POST" "signin" ∧ answer.status = 200 := by
  rcases registry_cases h with ⟨lapse, -⟩ | ⟨asked, granted, -⟩ | ⟨ended, -, -, erased⟩
  · rcases lapse token with same | ⟨gone, -⟩
    · exact absurd (same.trans absent) present
    · exact absurd gone present
  · exact ⟨asked, granted⟩
  · rw [erased, Table.get?_erase, absent, ite_self] at present
    exact absurd rfl present

theorem adds_one (fresh : s.world.2.get? (.ofRandom draw.token) = none)
    (asked : request.IsFor "POST" "signin") (granted : answer.status = 200) :
    ∃! token, s.world.2.get? token = none ∧ s'.world.2.get? token ≠ none := by
  rcases registry_cases h with ⟨-, refused⟩ | ⟨-, -, added, put⟩ | ⟨ended, ends, -⟩
  · exact absurd ⟨asked, granted⟩ refused
  · refine ⟨.ofRandom draw.token, ⟨fresh, by rw [put, Table.get?_put, if_pos rfl]; simp⟩, ?_⟩
    rintro token ⟨absent, present⟩
    refine Decidable.byContradiction fun other => present ?_
    rw [put, Table.get?_put, if_neg other, absent]
  · exact absurd asked (ends.1.ne (.inr (by decide)))

theorem lapses_of_get (get : request.method = ascii "GET") :
    s.world.2.LapsesTo s'.world.2 draw.now := by
  rcases registry_cases h with ⟨lapse, -⟩ | ⟨asked, -⟩ | ⟨ended, ends, -⟩
  · exact lapse
  · exact absurd (asked.1.symm.trans get) (by decide)
  · exact absurd (ends.1.1.symm.trans get) (by decide)

end Step

section Run

variable {σ : Type} {service : Service σ} {served : Served σ}

theorem effect_serve (exchange : Exchange) (before : Service.State σ) :
    Effect (service.interrupted exchange.faults) policy exchange.draw exchange.request before
      (exchange.serve service policy before).answer (exchange.serve service policy before).after :=
  handle_effect

/-- What was served in a run was served from the state that was left before it. -/
theorem effect_of_mem : ∀ {exchanges : List Exchange} {s : Service.State σ},
    served ∈ serveAll service policy exchanges s →
      Effect (service.interrupted served.exchange.faults) policy served.exchange.draw
        served.exchange.request served.before served.answer served.after
  | [], s, h => by cases h
  | exchange :: exchanges, s, h => by
    rcases List.mem_cons.1 h with rfl | h
    · exact effect_serve exchange s
    · exact effect_of_mem h

end Run

/-- A session that is there at the start of a run is there all through it, if it is over at no clock
reading of the run and no request of the run signs it out. -/
theorem serveAll_keeps {token : SessionToken} {session : Session} :
    ∀ {exchanges : List Exchange} {s : Service.State (τ × Registry)},
      (∀ served ∈ serveAll (ofParts users hasher Registry.store csrfKey ttl) policy exchanges s,
        served.before.world.2.get? (.ofRandom served.exchange.draw.token) = none ∧
          ¬session.IsExpiredAt served.exchange.draw.now ∧
          (served.answer.status = 200 → ¬served.exchange.request.EndsSession csrfKey token)) →
      s.world.2.get? token = some session →
      ∀ served ∈ serveAll (ofParts users hasher Registry.store csrfKey ttl) policy exchanges s,
        served.after.world.2.get? token = some session
  | [], s, _, _, _, h => by cases h
  | exchange :: exchanges, s, hrun, found, served, h => by
    unfold serveAll at hrun h
    rw [List.forall_mem_cons] at hrun
    obtain ⟨⟨fresh, live, unended⟩, hrun⟩ := hrun
    have kept : (exchange.serve (ofParts users hasher Registry.store csrfKey ttl) policy
        s).after.world.2.get? token = some session := by
      rcases keeps_or_ends (effect_serve exchange s) fresh found live with kept | ⟨granted, ends⟩
      · exact kept
      · exact absurd ends (unended granted)
    rcases List.mem_cons.1 h with rfl | h
    · exact kept
    · exact serveAll_keeps hrun kept served h

/-- In any run of requests, whichever calls fail, and as long as no token is drawn that is in use:
a request keeps every session that is not over, but for a granted request to sign out with both of
its tokens; a session is put in only by a granted sign-in, and exactly one by each; and what is asked
with GET takes out at most sessions that are over, and puts in and changes nothing. -/
theorem serveAll_sessions (users : UserStore τ) (hasher : PasswordHasher τ) (csrfKey : CsrfKey)
    (ttl : Duration) (policy : CookiePolicy) (exchanges : List Exchange)
    (s : Service.State (τ × Registry))
    (hfresh : ∀ served ∈ serveAll (ofParts users hasher Registry.store csrfKey ttl) policy exchanges
      s, served.before.world.2.get? (.ofRandom served.exchange.draw.token) = none) :
    ∀ served ∈ serveAll (ofParts users hasher Registry.store csrfKey ttl) policy exchanges s,
      let before := served.before.world.2
      let after := served.after.world.2
      let request := served.exchange.request
      let now := served.exchange.draw.now
      (∀ token session, before.get? token = some session → ¬session.IsExpiredAt now →
          after.get? token = some session ∨
            served.answer.status = 200 ∧ request.EndsSession csrfKey token) ∧
        (∀ token, before.get? token = none → after.get? token ≠ none →
          request.IsFor "POST" "signin" ∧ served.answer.status = 200) ∧
        (request.IsFor "POST" "signin" → served.answer.status = 200 →
          ∃! token, before.get? token = none ∧ after.get? token ≠ none) ∧
        (request.method = ascii "GET" →
          (∀ token session, before.get? token = some session → ¬session.IsExpiredAt now →
            after.get? token = some session) ∧
          ∀ token session, after.get? token = some session → before.get? token = some session) := by
  intro served hserved before after request now
  have fresh := hfresh served hserved
  have effect : Effect (inMemory users hasher csrfKey ttl served.exchange.faults) policy
      served.exchange.draw request served.before served.answer served.after :=
    effect_of_mem hserved
  refine ⟨fun token session => keeps_or_ends effect fresh, fun token => adds_by_signIn effect,
    adds_one effect fresh, fun get => ?_⟩
  have lapse := lapses_of_get effect get
  refine ⟨fun token session => lapse.get?_eq, fun token session found => ?_⟩
  rcases lapse token with same | ⟨gone, -⟩
  · exact same.symm.trans found
  · exact nomatch gone.symm.trans found

section Sample

/-- A request to sign in, and then one that asks whose session another token names. -/
def sampleExchanges : List Exchange :=
  [⟨fun _ => none, sampleDraw 6 4, ⟨ascii "POST", ascii "/api/v1/signin",
      [(ascii "content-length", ascii "39")],
      ascii "\x7b\x22username\x22:\x22alice\x22,\x22password\x22:\x22secret\x22\x7d"⟩⟩,
    ⟨fun _ => none, sampleDraw 7 5, ⟨ascii "GET", ascii "/api/v1/whoami",
      [(ascii "cookie", ascii "session=a")], []⟩⟩]

def sampleSession : Session := ⟨⟨.replicate 16 7⟩, "alice", sampleMoment 0, sampleMoment 10⟩

def sampleServed : List (Served (Roster × Registry)) :=
  serveAll sampleService ⟨false, .ofSeconds 10⟩ sampleExchanges
    ⟨none, .ofCredentials [sampleUser], Table.empty.put ⟨"a"⟩ sampleSession⟩

/-- The session that was there at the start is kept by both requests, and the one to sign in, which
is granted, puts one in. -/
theorem serveAll_sessions_sample :
    (∀ served ∈ sampleServed,
        served.before.world.2.get? (.ofRandom served.exchange.draw.token) = none) ∧
      (∀ served ∈ sampleServed, served.after.world.2.get? ⟨"a"⟩ = some sampleSession) ∧
      ∀ served ∈ sampleServed, served.exchange.request.IsFor "POST" "signin" →
        ∃! token, served.before.world.2.get? token = none ∧
          served.after.world.2.get? token ≠ none := by
  have all : ∀ served ∈ sampleServed,
      served.before.world.2.get? (.ofRandom served.exchange.draw.token) = none ∧
        served.before.world.2.get? ⟨"a"⟩ = some sampleSession ∧
        ¬sampleSession.IsExpiredAt served.exchange.draw.now ∧
        ¬served.exchange.request.IsFor "POST" "signout" ∧
        (served.exchange.request.IsFor "POST" "signin" → served.answer.status = 200) := by
    decide +kernel
  have h := serveAll_sessions Roster.store (plainHasher Roster) ⟨[]⟩ (.ofSeconds 10)
    ⟨false, .ofSeconds 10⟩ sampleExchanges
    ⟨none, .ofCredentials [sampleUser], Table.empty.put ⟨"a"⟩ sampleSession⟩
    fun served hs => (all served hs).1
  refine ⟨fun served hs => (all served hs).1, fun served hs => ?_, fun served hs asked => ?_⟩
  · obtain ⟨-, found, live, notSignOut, -⟩ := all served hs
    rcases (h served hs).1 ⟨"a"⟩ sampleSession found live with kept | ⟨-, ends⟩
    · exact kept
    · exact absurd ends.1 notSignOut
  · exact (h served hs).2.2.1 asked ((all served hs).2.2.2.2 asked)

end Sample

end SignIn.Http
