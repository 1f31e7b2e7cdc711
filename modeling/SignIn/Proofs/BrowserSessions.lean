import SignIn.Proofs.Exchanges
import SignIn.Proofs.HandedCookies
import SignIn.Proofs.InternalFaults
import SignIn.Proofs.KeptSessions

/-!
# What a browser does with its cookies

A sign-in that is granted hands out two cookies. Sent back, among any others, the first tells whose
session it is until the session is over, and with the second in a header it ends the session
(`signIn_serves_browser`). Between the requests of a browser there may be any others, of which any
call may fail; only those that end this very session count.
-/

namespace SignIn.Http

open Service

/-- A request whose cookie header has a session token, alone or among other cookies. -/
def Request.Bears (request : Request) (session : String) : Prop :=
  ∃ before after,
    request.values "cookie" =
        [cookieLineOf (before ++ (ascii "session", Utf8.encode session) :: after)] ∧
      ∀ cookie ∈ before ++ after, IsPlainCookie cookie ∧ cookie.1 ≠ ascii "session"

section Read

variable {request : Request} {session csrf : String}

theorem readSession_of_bears (h : IsHexToken session) (bears : request.Bears session) :
    Route.readSession request = .ok ⟨session⟩ := by
  obtain ⟨before, after, sent, others⟩ := bears
  have own : IsPlainCookie (ascii "session", Utf8.encode session) :=
    ⟨(by decide +kernel : ∀ b ∈ ascii "session", isPlainByte b = true ∧ b ≠ 0x3d),
      fun b hb => h.isPlainByte hb⟩
  have plain : ∀ cookie ∈ before ++ (ascii "session", Utf8.encode session) :: after,
      IsPlainCookie cookie := by
    intro cookie hc
    rcases List.mem_append.1 hc with hc | hc
    · exact (others cookie (List.mem_append_left after hc)).1
    · rcases List.mem_cons.1 hc with rfl | hc
      · exact own
      · exact (others cookie (List.mem_append_right before hc)).1
  have value : request.cookieValue? CookiePolicy.sessionName = some session :=
    (cookieValue?_of_line plain
      (fun cookie hc => (others cookie (List.mem_append_left after hc)).2) sent).trans
      (Utf8.decode_encode session)
  rw [Route.readSession, value]
  exact if_neg (by simp [h.ne_empty])

theorem readCsrf_of_sent (h : IsHexToken csrf)
    (sent : request.value? "x-csrf" = some (Utf8.encode csrf)) :
    Route.readCsrf request = .ok (some ⟨csrf⟩) := by
  have text : (Utf8.encode csrf).all Request.isTextByte = true :=
    List.all_eq_true.2 fun b hb => isTextByte_of_isPlainByte (h.isPlainByte hb)
  have header : request.value? CookiePolicy.csrfHeader = some (Utf8.encode csrf) := sent
  rw [Route.readCsrf, header]
  dsimp only
  rw [if_pos text, Utf8.decode_encode]
  rfl

theorem step_whoAmI (h : IsHexToken session) (asked : request.IsFor "GET" "whoami")
    (bears : request.Bears session) (draw : Draw) :
    request.step draw = .ok (.whoIs draw.now ⟨session⟩) := by
  rw [Request.step, if_neg (asked.ne (.inl (by decide))), if_neg (asked.ne (.inl (by decide))),
    if_pos asked, readSession_of_bears h bears]
  rfl

theorem step_signOut (h : IsHexToken session) (hc : IsHexToken csrf)
    (asked : request.IsFor "POST" "signout") (bears : request.Bears session)
    (sent : request.value? "x-csrf" = some (Utf8.encode csrf)) (draw : Draw) :
    request.step draw = .ok (.signOut draw.now ⟨session⟩ ⟨csrf⟩) := by
  rw [Request.step, if_neg (asked.ne (.inr (by decide))), if_pos asked,
    readSession_of_bears h bears, readCsrf_of_sent hc sent]
  rfl

end Read

section Run

variable {σ : Type} {service : Service σ} {policy : CookiePolicy} {exchange : Exchange}
  {s : Service.State σ}

theorem serve_refused {refusal : Refusal}
    (refused : exchange.request.step exchange.draw = .error refusal) :
    exchange.serve service policy s = ⟨exchange, s, refusal.answer, s⟩ := by
  unfold Exchange.serve
  rw [handle_refused refused]

theorem serve_called {login : Login} {result : Except AuthError SignInAnswer}
    {s' : Service.State σ}
    (asked : exchange.request.step exchange.draw = .ok (.signIn exchange.draw login))
    (call : ((service.interrupted exchange.faults).signIn exchange.draw login).perform s =
      (result, s')) :
    exchange.serve service policy s =
      ⟨exchange, s, answerTo policy (result.map .signIn), s'⟩ := by
  unfold Exchange.serve
  rw [handle_step asked, take, Attempt.perform_bind_pure, call]

/-- What is left after exchanges, one after the other. -/
def leftBy (service : Service σ) (policy : CookiePolicy) :
    List Exchange → Service.State σ → Service.State σ
  | [], s => s
  | exchange :: exchanges, s =>
    leftBy service policy exchanges (exchange.serve service policy s).after

theorem leftBy_nil : leftBy service policy [] s = s := rfl

end Run

section Browser

variable {τ : Type} {users : UserStore τ} {hasher : PasswordHasher τ} {name : String}
  {csrfKey : CsrfKey} {ttl : Duration} {policy : CookiePolicy} {token : SessionToken}
  {found : Option Session} {s : State (τ × SessionBackend)}

/-- An exchange that neither ends a session nor draws its token again, at a moment when the session
is not over. -/
structure Served.Spares {σ : Type} (served : Served σ) (csrfKey : CsrfKey) (token : SessionToken)
    (expiresAt : Instant) : Prop where
  live : served.exchange.draw.now < expiresAt
  drawn : served.exchange.request.IsFor "POST" "signin" →
    token ≠ .ofRandom served.exchange.draw.token
  unended : ¬(served.answer.status = 200 ∧ served.exchange.request.EndsSession csrfKey token)

theorem Served.Spares.mono {σ : Type} {served : Served σ} {ends later : Instant}
    (h : served.Spares csrfKey token ends) (le : ends ≤ later) :
    served.Spares csrfKey token later :=
  ⟨Instant.lt_of_lt_of_le h.live le, h.drawn, h.unended⟩

theorem notOver {session : Session} {now : Instant} (before : now < session.expiresAt) :
    ∀ kept, some session = some kept → ¬kept.IsExpiredAt now := by
  rintro _ ⟨⟩
  exact Instant.not_le.2 before

/-- A store that keeps a session with later moments shows it with the same texts. -/
theorem sessionJson_kept (sessions : SessionBackend) (session : Session) :
    Answer.sessionJson (sessions.kept session).info = Answer.sessionJson session.info := by
  rcases sessions with _ | _
  · rfl
  · simp [Answer.sessionJson, SessionBackend.kept, Session.carried, Session.info,
      Instant.text_carried]

theorem expiresAt_le_kept (sessions : SessionBackend) (session : Session) :
    session.expiresAt ≤ (sessions.kept session).expiresAt := by
  rcases sessions with _ | _
  · exact .inr ⟨rfl, Nat.le_refl _⟩
  · exact Instant.le_carried _

variable [Causes]

/-- An exchange leaves what the store shows for a token, unless it draws the token again, the
session is over, or it is signed out with both of its tokens. -/
theorem serve_shows (exchange : Exchange) (h : s.world.2.Shows name token found)
    (drawn : exchange.request.IsFor "POST" "signin" → token ≠ .ofRandom exchange.draw.token)
    (live : ∀ session, found = some session → ¬session.IsExpiredAt exchange.draw.now) :
    let served := exchange.serve (ofBackend users hasher name csrfKey ttl) policy s
    served.after.world.2.Shows name token found ∨
      found.isSome ∧ served.answer.status = 200 ∧ exchange.request.EndsSession csrfKey token := by
  intro served
  have effect : Effect (inBackend users hasher name csrfKey ttl exchange.faults) policy
      exchange.draw exchange.request s served.answer served.after := effect_serve exchange s
  generalize served.answer = answer, served.after = s' at effect
  cases effect with
  | none => exact .inl h
  | signIn asked call => exact .inl ((keeps_signIn _ (drawn asked)).eq call h)
  | whoAmI asked cookie call granted =>
    rename_i other result
    by_cases same : token = other
    · subst same
      obtain ⟨after, told, shown⟩ := whoIs_shown h live
      cases call.symm.trans told
      exact .inl shown
    · exact .inl ((keeps_whoIs (.inr same)).eq call h)
  | signOut asked cookie header call granted =>
    rename_i other csrf result
    by_cases same : token = other
    · subst same
      obtain ⟨result, after, told, kept, ended, -⟩ := signOut_shown h live
      cases call.symm.trans told
      by_cases ok : result = .ok ()
      · obtain ⟨kept, verified, -⟩ := ended ok
        exact .inr ⟨kept, granted.2 ok, endsSession_of_verified asked cookie header verified⟩
      · exact .inl (kept ok)
    · exact .inl ((keeps_signOut (.inr same)).eq call h)

/-- A session is still there after exchanges that spare it. -/
theorem leftBy_shows {session : Session} : ∀ {exchanges : List Exchange}
    {s : State (τ × SessionBackend)}, s.world.2.Shows name token (some session) →
    (∀ served ∈ serveAll (ofBackend users hasher name csrfKey ttl) policy exchanges s,
      served.Spares csrfKey token session.expiresAt) →
    (leftBy (ofBackend users hasher name csrfKey ttl) policy exchanges
      s).world.2.Shows name token (some session)
  | [], _, h, _ => h
  | exchange :: exchanges, s, h, hrun => by
    unfold serveAll at hrun
    rw [List.forall_mem_cons] at hrun
    obtain ⟨⟨live, drawn, unended⟩, hrun⟩ := hrun
    rw [leftBy]
    refine leftBy_shows ((serve_shows exchange h drawn (notOver live)).resolve_right ?_) hrun
    exact fun ends => unended ends.2

/-- A token for which there is no session stays so until it is drawn. -/
theorem leftBy_shows_none : ∀ {exchanges : List Exchange} {s : State (τ × SessionBackend)},
    s.world.2.Shows name token none →
    (∀ exchange ∈ exchanges, exchange.request.IsFor "POST" "signin" →
      token ≠ .ofRandom exchange.draw.token) →
    (leftBy (ofBackend users hasher name csrfKey ttl) policy exchanges
      s).world.2.Shows name token none
  | [], _, h, _ => h
  | exchange :: exchanges, s, h, drawn => by
    rw [List.forall_mem_cons] at drawn
    rw [leftBy]
    refine leftBy_shows_none ((serve_shows exchange h drawn.1 ?_).resolve_right ?_) drawn.2
    · simp
    · simp

section Faultless

variable {session csrf : String} {draw : Draw} {request : Request} (hs : IsHexToken session)
  (bears : request.Bears session)

include hs bears

/-- A request that asks whose session it is is answered with what the store shows. -/
theorem handle_whoAmI_shown (asked : request.IsFor "GET" "whoami")
    (h : s.world.2.Shows name ⟨session⟩ found)
    (live : ∀ kept, found = some kept → ¬kept.IsExpiredAt draw.now) :
    ((handle (ofBackend users hasher name csrfKey ttl) policy draw request).run s).1 =
      answerTo policy ((told none found).map .info) := by
  obtain ⟨after, told, -⟩ : ∃ after, ((inBackend users hasher name csrfKey ttl fun _ => none).whoIs
      draw.now ⟨session⟩).perform s = (told none found, ⟨s.decoy, s.world.1, after⟩) ∧ _ :=
    whoIs_shown h live
  have call : ((ofBackend users hasher name csrfKey ttl).whoIs draw.now ⟨session⟩).perform s = _ :=
    told
  rw [handle_step (step_whoAmI hs asked bears draw), take, Attempt.perform_bind_pure, call]

theorem handle_signOut_shown (hc : IsHexToken csrf) (asked : request.IsFor "POST" "signout")
    (sent : request.value? "x-csrf" = some (Utf8.encode csrf))
    (verified : csrfKey.verify ⟨session⟩ ⟨csrf⟩ = true) {kept : Session}
    (h : s.world.2.Shows name ⟨session⟩ (some kept)) (before : draw.now < kept.expiresAt) :
    ((handle (ofBackend users hasher name csrfKey ttl) policy draw request).run s).1 =
        .success policy.clear .null ∧
      ((handle (ofBackend users hasher name csrfKey ttl) policy draw
        request).run s).2.world.2.Shows name ⟨session⟩ none := by
  obtain ⟨result, after, told, -, ended, granted⟩ : ∃ result after,
      ((inBackend users hasher name csrfKey ttl fun _ => none).signOut draw.now ⟨session⟩
        ⟨csrf⟩).perform s = (result, ⟨s.decoy, s.world.1, after⟩) ∧ _ :=
    signOut_shown h (notOver before)
  cases granted rfl verified rfl rfl
  have call : ((ofBackend users hasher name csrfKey ttl).signOut draw.now ⟨session⟩
      ⟨csrf⟩).perform s = _ := told
  rw [handle_step (step_signOut hs hc asked bears sent draw), take, Attempt.perform_bind_pure, call]
  exact ⟨rfl, (ended rfl).2.2⟩

end Faultless

/-- A sign-in keeps a session and hands out its cookies, or does neither. -/
theorem serve_signIn (exchange : Exchange) (unforced : s.world.2.IsUnforced)
    (asked : exchange.request.IsFor "POST" "signin") :
    let signedIn := exchange.serve (ofBackend users hasher name csrfKey ttl) policy s
    let token := SessionToken.ofRandom exchange.draw.token
    signedIn.answer.status ≠ 200 ∧ signedIn.after.world.2 = s.world.2 ∨
      ∃ session : Session,
        signedIn.answer = .success (policy.pair token.text (csrfKey.bind token).text
          policy.maxAge.seconds) (Answer.sessionJson session.info) ∧
        expiry? ttl exchange.draw.now = some session.expiresAt ∧
        signedIn.after.world.2.Shows name token (some (s.world.2.kept session)) := by
  intro signedIn token
  rcases hs : exchange.request.step exchange.draw with refusal | step
  · have served : signedIn = _ := serve_refused hs
    rw [served]
    exact .inl ⟨refusal.status_answer_ne, rfl⟩
  rcases Request.step_cases hs with ⟨login, -, -, rfl⟩ | ⟨_, _, other, -⟩ | ⟨_, other, -⟩
  rotate_left
  · exact absurd other (asked.ne (.inr (by decide)))
  · exact absurd other (asked.ne (.inl (by decide)))
  rcases call : ((inBackend users hasher name csrfKey ttl exchange.faults).signIn exchange.draw
    login).perform s with ⟨result, s'⟩
  have served : signedIn = _ := serve_called hs call
  simp only [served]
  rcases result with error | issued | reason
  · exact .inl ⟨status_answerTo_error error, signIn_unopened unforced call (by simp)⟩
  · obtain ⟨cookies, sent⟩ := issue_signIn policy (congrArg Prod.fst call)
    obtain ⟨session, csrf, kept, info, ends, shown⟩ := signIn_shows unforced call
    refine .inr ⟨kept, ?_, ends, shown⟩
    simp only [Except.map, answerTo, sent]
    rw [issue_eq_pair sent, session, csrf, info]
  · exact .inl ⟨Refusal.status_answer_ne _, signIn_unopened unforced call (by simp)⟩

/-- A sign-in keeps a session and hands out its cookies, or does neither. The cookies are two hex
tokens. Whatever is asked in between, as long as it spares the session, and whichever calls fail
then: until the session is over, a request that bears the first token gets the answer of the sign-in
again, and one that has the second in its header as well ends the session. Then the same two cookies
are taken back, with the same attributes, and the first token names no session any more. -/
theorem signIn_serves_browser (users : UserStore τ) (hasher : PasswordHasher τ) (name : String)
    (csrfKey : CsrfKey) (ttl : Duration) (policy : CookiePolicy) (exchange : Exchange)
    (s : State (τ × SessionBackend)) (unforced : s.world.2.IsUnforced)
    (asked : exchange.request.IsFor "POST" "signin") :
    let service := ofBackend users hasher name csrfKey ttl
    let signedIn := exchange.serve service policy s
    (∀ login issued, (((service.interrupted exchange.faults).signIn exchange.draw login).perform
        s).1 = .ok (.authenticated issued) → (policy.issue issued.session issued.csrf).isSome) ∧
      (signedIn.answer.status ≠ 200 → signedIn.after.world.2 = s.world.2) ∧
      (signedIn.answer.status = 200 → ∃ session csrf info,
        IsHexToken session ∧ IsHexToken csrf ∧
        signedIn.answer.setCookies.map HandedCookie.ofText? =
          [some ⟨"session", session, policy.attributeList policy.maxAge.seconds true⟩,
            some ⟨"X-CSRF", csrf, policy.attributeList policy.maxAge.seconds false⟩] ∧
        signedIn.answer.body = (Answer.success [] (Answer.sessionJson info)).body ∧
        expiry? ttl exchange.draw.now = some info.expiresAt ∧
        ∀ between, (∀ served ∈ serveAll service policy between signedIn.after,
            served.Spares csrfKey ⟨session⟩ info.expiresAt) →
          let state := leftBy service policy between signedIn.after
          (∀ draw request, request.IsFor "GET" "whoami" → request.Bears session →
            draw.now < info.expiresAt → ((handle service policy draw request).run state).1 =
              ⟨200, "application/json", [], signedIn.answer.body⟩) ∧
          ∀ draw request, request.IsFor "POST" "signout" → request.Bears session →
            request.value? "x-csrf" = some (Utf8.encode csrf) → draw.now < info.expiresAt →
            let signedOut := (handle service policy draw request).run state
            signedOut.1.status = 200 ∧
              signedOut.1.setCookies.map HandedCookie.ofText? =
                [some ⟨"session", "", policy.attributeList 0 true⟩,
                  some ⟨"X-CSRF", "", policy.attributeList 0 false⟩] ∧
              ∀ later, (∀ exchange ∈ later, exchange.request.IsFor "POST" "signin" →
                  ⟨session⟩ ≠ SessionToken.ofRandom exchange.draw.token) →
                ∀ draw request, request.IsFor "GET" "whoami" → request.Bears session →
                  ((handle service policy draw request).run
                    (leftBy service policy later signedOut.2)).1.status = 401) := by
  intro service signedIn
  have either : (signedIn.answer.status ≠ 200 ∧ signedIn.after.world.2 = s.world.2) ∨
      ∃ session : Session, signedIn.answer = _ ∧
        expiry? ttl exchange.draw.now = some session.expiresAt ∧
        signedIn.after.world.2.Shows name (.ofRandom exchange.draw.token)
          (some (s.world.2.kept session)) :=
    serve_signIn exchange unforced asked
  refine ⟨fun login issued opened => ?_, fun refused => ?_, fun granted => ?_⟩
  · obtain ⟨cookies, sent⟩ := issue_signIn policy opened
    exact Option.isSome_iff_exists.2 ⟨cookies, sent⟩
  · rcases either with ⟨-, same⟩ | ⟨session, answer, -⟩
    · exact same
    · exact absurd (congrArg Answer.status answer) refused
  obtain ⟨session, answer, ends, shown⟩ := either.resolve_left fun h => h.1 granted
  let token := SessionToken.ofRandom exchange.draw.token
  have hs : IsHexToken token.text := isHexToken_encode (by simp)
  have hc : IsHexToken (csrfKey.bind token).text := isHexToken_encode rfl
  refine ⟨token.text, (csrfKey.bind token).text, session.info, hs, hc, ?_, ?_, ends,
    fun between spared => ?_⟩
  · rw [answer]
    exact ofText?_pair policy _ hs.semicolon_not_mem hc.semicolon_not_mem
  · rw [answer]
    rfl
  -- In a key server the session may end later than it was told, but no earlier.
  have later := expiresAt_le_kept s.world.2 session
  have kept : (leftBy service policy between signedIn.after).world.2.Shows name token
      (some (s.world.2.kept session)) :=
    leftBy_shows shown fun served hs => (spared served hs).mono later
  refine ⟨fun draw request asked bears before => ?_, fun draw request asked bears sent before => ?_⟩
  · rw [handle_whoAmI_shown hs bears asked kept (notOver (Instant.lt_of_lt_of_le before later)),
      answer]
    change Answer.success [] (Answer.sessionJson (s.world.2.kept session).info) = _
    rw [sessionJson_kept]
    rfl
  · obtain ⟨given, gone⟩ := handle_signOut_shown hs bears hc asked sent (csrfKey.verify_bind token)
      kept (Instant.lt_of_lt_of_le before later)
    refine ⟨congrArg Answer.status given, ?_, fun later drawn draw request asked bears => ?_⟩
    · rw [given]
      exact ofText?_pair policy 0 (by decide) (by decide)
    · rw [handle_whoAmI_shown hs bears asked (leftBy_shows_none gone drawn) (by simp)]
      rfl

end Browser

section Sample

attribute [local instance] Causes.plain

/-- A request to sign in. -/
def browserSignIn : Exchange :=
  ⟨fun _ => none, sampleDraw 0 1, ⟨ascii "POST", ascii "/api/v1/signin",
    [(ascii "content-length", ascii "39")],
    ascii "\x7b\x22username\x22:\x22alice\x22,\x22password\x22:\x22secret\x22\x7d"⟩⟩

/-- A request with the two tokens of a session, the first between two other cookies. -/
def browserRequest (method path session csrf : String) : Request :=
  ⟨ascii method, ascii path,
    [(ascii "cookie", cookieLineOf [(ascii "theme", ascii "dark"),
      (ascii "session", Utf8.encode session), (ascii "lang", ascii "en")]),
      (ascii "x-csrf", Utf8.encode csrf)], []⟩

theorem bears_browserRequest (method path session csrf : String) :
    (browserRequest method path session csrf).Bears session := by
  refine ⟨[(ascii "theme", ascii "dark")], [(ascii "lang", ascii "en")], rfl, fun cookie hc => ?_⟩
  rcases List.mem_pair.1 hc with rfl | rfl
  · exact ⟨⟨by decide +kernel, by decide +kernel⟩, by decide⟩
  · exact ⟨⟨by decide +kernel, by decide +kernel⟩, by decide⟩

/-- A session that is opened in a key server tells whose it is and is ended by its tokens. -/
theorem signIn_serves_browser_keyServer :
    ∃ signedIn session csrf,
      signedIn = browserSignIn.serve (ofBackend Roster.store (plainHasher Roster) "s" ⟨[]⟩
          (.ofSeconds 10)) ⟨true, .ofSeconds 10⟩
        ⟨none, .ofCredentials [sampleUser], .keyServer .empty⟩ ∧
      ((handle (ofBackend Roster.store (plainHasher Roster) "s" ⟨[]⟩ (.ofSeconds 10))
        ⟨true, .ofSeconds 10⟩ (sampleDraw 9 2)
        (browserRequest "GET" "/api/v1/whoami" session csrf)).run signedIn.after).1 =
          ⟨200, "application/json", [], signedIn.answer.body⟩ ∧
      ((handle (ofBackend Roster.store (plainHasher Roster) "s" ⟨[]⟩ (.ofSeconds 10))
        ⟨true, .ofSeconds 10⟩ (sampleDraw 9 2)
        (browserRequest "POST" "/api/v1/signout" session csrf)).run signedIn.after).1.status =
          200 := by
  have asked : browserSignIn.request.IsFor "POST" "signin" := by decide +kernel
  have unforced : (SessionBackend.keyServer .empty).IsUnforced := rfl
  have granted : (browserSignIn.serve (ofBackend Roster.store (plainHasher Roster) "s" ⟨[]⟩
      (.ofSeconds 10)) ⟨true, .ofSeconds 10⟩
      ⟨none, .ofCredentials [sampleUser], .keyServer .empty⟩).answer.status = 200 := by
    decide +kernel
  obtain ⟨-, -, handed⟩ := signIn_serves_browser Roster.store (plainHasher Roster) "s" ⟨[]⟩
    (.ofSeconds 10) ⟨true, .ofSeconds 10⟩ browserSignIn
    ⟨none, .ofCredentials [sampleUser], .keyServer .empty⟩ unforced asked
  obtain ⟨session, csrf, info, -, -, -, -, ends, serves⟩ := handed granted
  have before : (sampleDraw 9 2).now < info.expiresAt := by
    have usable : expiry? (.ofSeconds 10) browserSignIn.draw.now = some (sampleMoment 10) := by
      decide
    rw [Option.some.inj (ends.symm.trans usable)]
    decide
  obtain ⟨shows, ended⟩ := serves [] (by simp [serveAll])
  rw [leftBy_nil] at shows ended
  refine ⟨_, session, csrf, rfl, ?_, ?_⟩
  · exact shows _ _ ⟨rfl, rfl⟩ (bears_browserRequest _ _ session csrf) before
  · exact (ended _ _ ⟨rfl, rfl⟩ (bears_browserRequest _ _ session csrf) rfl before).1

end Sample

end SignIn.Http
