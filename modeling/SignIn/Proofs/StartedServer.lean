import SignIn.Proofs.HandedCookies
import SignIn.Proofs.Handling
import SignIn.Proofs.History
import SignIn.Proofs.PasswordRoundTrip
import SignIn.Proofs.SeedSteps
import SignIn.Proofs.SessionLengths

/-!
# A server that was started

What a server does follows from the settings that it was started with: sessions last as long as they
say, in the store, in the answer and in the cookies, and the users that they name may sign in with
their passwords, whatever was done on the server before (`Server.start_lifetimes`).
-/

namespace SignIn

namespace SeedUser

/-- A user with a plain password is entered under the hash of that password. -/
theorem secret_password [Causes] {user : SeedUser} {password hash : String} {cost : HashCost}
    {salt : Vector UInt8 16} {before after : Unit} (plain : user.password = some password)
    (h : user.secret (Argon2.hasher Unit cost) salt before = (.ok hash, after)) :
    hash = Argon2.hashText cost salt password := by
  rcases secret_eq_ok.1 h with ⟨none, -⟩ | ⟨_, given, -, made⟩
  · cases plain.symm.trans none
  · cases plain.symm.trans given
    cases made
    rfl

end SeedUser

namespace Settings

/-- The last user with a name in the settings is the one with that name who is entered last. -/
theorem find?_zipIdx {users : List SeedUser} (draw : Nat → SeedDraw) {username : String}
    {user : SeedUser} (last : users.reverse.find? (·.username = username) = some user) :
    ∃ index, (users.zipIdx.map fun (user, index) => (user, draw index)).reverse.find?
      (·.1.username = username) = some (user, draw index) := by
  have names : users = (users.zipIdx.map fun (user, index) => (user, draw index)).map Prod.fst := by
    simp [Function.comp_def]
  rw [names, ← List.map_reverse, List.find?_map, Option.map_eq_some_iff] at last
  obtain ⟨⟨_, _⟩, found, rfl⟩ := last
  have member := List.mem_reverse.1 (List.mem_of_find?_eq_some found)
  obtain ⟨⟨_, index⟩, -, entry⟩ := List.mem_map.1 member
  cases entry
  exact ⟨index, found⟩

/-- Users in memory are those of the settings. -/
theorem openUsers_memory [Causes] {settings : Settings} {around : Surroundings} {cost : HashCost}
    {draw : Nat → SeedDraw} {users : UserBackend} (memory : settings.auth.userBackend = "memory")
    (h : settings.openUsers around cost draw = .ok users) :
    ∃ count roster, users = .memory roster ∧
      Roster.seed (Argon2.hasher Unit cost) .empty ()
        (settings.users.zipIdx.map fun (user, index) => (user, draw index)) =
          (.ok count, roster, ()) := by
  unfold openUsers at h
  rw [if_pos memory] at h
  dsimp only at h
  split at h <;> cases h
  exact ⟨_, _, rfl, ‹_›⟩

/-- The user in memory who was entered last under a name may sign in with the password that the
settings give. -/
theorem find_memory [Causes] {settings : Settings} {around : Surroundings} {cost : HashCost}
    {draw : Nat → SeedDraw} {users : UserBackend} (memory : settings.auth.userBackend = "memory")
    (h : settings.openUsers around cost draw = .ok users) {user : SeedUser} {password : String}
    (last : settings.users.reverse.find? (·.username = user.username) = some user)
    (plain : user.password = some password) :
    ∃ roster credential salt, users = .memory roster ∧
      roster.get? user.username = some credential ∧ credential.username = user.username ∧
      credential.isActive = user.isActive ∧
      credential.passwordHash = Argon2.hashText cost salt password := by
  obtain ⟨count, roster, rfl, seeded⟩ := openUsers_memory memory h
  obtain ⟨index, found⟩ := find?_zipIdx draw last
  obtain ⟨-, after, before, split, others⟩ := List.find?_eq_some_iff_append.1 found
  rw [List.reverse_eq_iff.1 split, List.reverse_append, List.reverse_cons, List.append_assoc,
    List.singleton_append] at seeded
  obtain ⟨hash, mid, secret, kept⟩ := Roster.get?_seed_of_last seeded fun entry member => by
    simpa using others entry (List.mem_reverse.1 member)
  exact ⟨roster, _, _, rfl, kept, rfl, rfl, SeedUser.secret_password plain secret⟩

end Settings

namespace Service

open Attempt

/-- The service of a server, over stores that can be chosen. -/
def ofWorld [Causes] (cost : HashCost) (csrfKey : CsrfKey) (ttl : Duration) : Service World where
  users := World.userStore
  hasher := Argon2.hasher World cost
  sessions := World.sessionStore Server.sessionKeyName
  csrfKey
  ttl

section World

variable [Causes] {cost : HashCost} {csrfKey : CsrfKey} {ttl : Duration} {draw : Draw}
  {login : Login}

theorem failsOnly_world (usable : (expiry? ttl draw.now).isSome) :
    ((ofWorld cost csrfKey ttl).signIn draw login).FailsOnly IsOther :=
  failsOnly_signIn (fun none => absurd none (Option.isSome_iff_ne_none.1 usable))
    (fun username => (UserBackend.failsOnly_find isOther_store username).within _ _)
    (fun _ _ => .pure _)
    (Argon2.failsOnly_verify (fun _ => isOther_internal (by simp [toString]))
      (fun _ => isOther_internal (by simp [toString])) cost)
    (fun _ _ _ => (SessionBackend.failsOnly_save isOther_store _ _ _ _).within _ _) login

/-- Users in memory stay as they are. -/
theorem keeps_roster (roster : Roster) :
    Keeps (fun world => world.users = .memory roster) (ofWorld cost csrfKey ttl) where
  findUser username world h := by
    simp only [ofWorld, World.userStore, UserStore.within, perform_within, h]
    rfl
  hash _ _ _ h := h
  verify _ _ _ h := h
  save _ _ _ _ h := h
  find _ _ h := h
  revoke _ _ h := h
  purge _ _ h := h

/-- An active user in memory signs in with the password that the hash was made of. -/
theorem signIn_world {roster : Roster} {credential : Credential} {salt : Vector UInt8 16}
    {expiresAt : Instant} {s : State World} (users : s.world.users = .memory roster)
    (unforced : s.world.sessions.IsUnforced)
    (known : roster.get? login.username = some credential)
    (hash : credential.passwordHash = Argon2.hashText cost salt login.password)
    (active : credential.isActive = true) (usable : expiry? ttl draw.now = some expiresAt) :
    (((ofWorld cost csrfKey ttl).signIn draw login).perform s).1 =
      .ok (.authenticated ⟨.ofRandom draw.token, csrfKey.bind (.ofRandom draw.token),
        credential.userId, credential.username, expiresAt⟩) := by
  obtain ⟨after, saved, -⟩ := SessionBackend.save_gains Server.sessionKeyName unforced
    (.ofRandom draw.token) ⟨credential.userId, credential.username, draw.now, expiresAt⟩
    (ttlSeconds ttl)
  have find : ((ofWorld cost csrfKey ttl).users.find login.username).perform s.world =
      (.ok (some credential), s.world) := by
    rcases s with ⟨decoy, world, sessions⟩
    cases users
    simp only [ofWorld, World.userStore, UserStore.within, perform_within, UserBackend.store,
      perform_of, Roster.store, known]
  have verify : ((ofWorld cost csrfKey ttl).hasher.verify login.password
      credential.passwordHash).perform s.world = (.ok true, s.world) := by
    rw [hash]
    exact congrArg (·, s.world) (Argon2.verifyText_self cost salt login.password)
  rw [perform_signIn, find]
  dsimp only
  rw [verify]
  dsimp only
  rw [if_pos ⟨rfl, active⟩, perform_issue]
  simp only [ofWorld, usable, World.sessionStore, SessionStore.within, perform_within, saved]

end World

end Service

namespace Http

/-- Who is given a session over a request is answered with it and is given its two cookies. -/
theorem handle_signIn_granted {σ : Type} {service : Service σ} (policy : CookiePolicy) {draw : Draw}
    {request : Request} {login : Login} {issued : IssuedSession} {s s' : Service.State σ}
    (asked : request.IsFor "POST" "signin") (read : Route.readLogin request = .ok login)
    (call : (service.signIn draw login).perform s = (.ok (.authenticated issued), s')) :
    ∃ cookies, (handle service policy draw request).run s =
        (.success cookies (Answer.sessionJson issued.info), s') ∧
      cookies.map HandedCookie.ofText? =
        [some ⟨"session", issued.session.text,
            policy.attributeList policy.maxAge.seconds true⟩,
          some ⟨"X-CSRF", issued.csrf.text,
            policy.attributeList policy.maxAge.seconds false⟩] := by
  obtain ⟨credential, expiresAt, -, -, -, -, -, -, -, rfl⟩ := Service.signIn_authenticated _ call
  obtain ⟨cookies, sent⟩ := issue_cookies policy draw.token service.csrfKey
  have session : IsHexToken (SessionToken.ofRandom draw.token).text := isHexToken_encode (by simp)
  have csrf : IsHexToken (service.csrfKey.bind (.ofRandom draw.token)).text := isHexToken_encode rfl
  refine ⟨cookies, ?_, ?_⟩
  · rw [handle_step (Request.step_signIn asked read), Service.take, Attempt.perform_bind_pure,
      call]
    simp only [Except.map, answerTo, sent]
  · rw [issue_eq_pair sent]
    exact ofText?_pair policy _ session.semicolon_not_mem csrf.semicolon_not_mem

end Http

namespace Server

open Service

theorem exists_of_bind_eq_ok {ε α β : Type} {part : Except ε α} {next : α → Except ε β} {b : β}
    (h : part >>= next = .ok b) : ∃ a, part = .ok a ∧ next a = .ok b := by
  rcases part with _ | a
  · cases h
  · exact ⟨a, rfl, h⟩

/-- A server that starts has a length of sessions within the bounds, and is made of the settings. -/
theorem start_eq_ok [Causes] {settings : Settings} {around : Surroundings} {seeds : Nat → SeedDraw}
    {server : Server} (h : start settings around seeds = .ok server) :
    ∃ cost csrfKey users sessions,
      (1 ≤ settings.auth.sessionTtlSecs.toNat ∧
        settings.auth.sessionTtlSecs.toNat ≤ maxSessionTtlSecs) ∧
      settings.openUsers around cost seeds = .ok users ∧
      settings.openSessions around = .ok sessions ∧
      server.service = ofWorld cost csrfKey (.ofSeconds settings.auth.sessionTtlSecs.toNat) ∧
      server.policy =
        ⟨settings.http.isSecure, .ofSeconds settings.auth.sessionTtlSecs.toNat⟩ ∧
      server.world = ⟨users, sessions⟩ ∧
      server.sweeper = match sessions with
        | .memory _ => some (.start settings.auth.sweepInterval)
        | .keyServer _ => none := by
  unfold start at h
  obtain ⟨ttl, timed, h⟩ := exists_of_bind_eq_ok h
  obtain ⟨cost, -, h⟩ := exists_of_bind_eq_ok h
  obtain ⟨users, opened, h⟩ := exists_of_bind_eq_ok h
  obtain ⟨sessions, kept, h⟩ := exists_of_bind_eq_ok h
  rcases lasting : settings.auth.sessionTtl with _ | _ <;> rw [lasting] at timed <;> cases timed
  obtain ⟨within, rfl⟩ := AuthSettings.sessionTtl_eq_ok.1 lasting
  cases h
  exact ⟨cost, _, users, sessions, within, opened, kept, rfl, rfl, rfl, rfl⟩

/-- Over any settings, and whatever the server finds where it starts: it does not start unless the
settings let sessions live for at least a second and at most the longest time.

On a server that started, at any moment from which the longest time can be counted, no sign-in fails
for the length of sessions. Whoever is given a session costs a search, a verification and one entry
into the store of sessions, for exactly as many seconds as the settings say; so long lasts the
session in the store, so long the one in the answer, and so long both cookies of a request. Both are
for secure connections only exactly if the settings name a certificate and its key, and the session
token but not the CSRF token is hidden from scripts.

With users in memory, and whatever was done on the server before, whichever calls failed then: the
last user in the settings with some name, if active and given a plain password, is given a session
for that password. -/
theorem start_lifetimes [Causes] (settings : Settings) (around : Surroundings)
    (seeds : Nat → SeedDraw) :
    let seconds := settings.auth.sessionTtlSecs.toNat
    let secure :=
      if settings.http.certPath.isSome ∧ settings.http.keyPath.isSome then ["Secure"] else []
    (¬(1 ≤ seconds ∧ seconds ≤ maxSessionTtlSecs) →
      ∀ server, start settings around seeds ≠ .ok server) ∧
    ∀ server, start settings around seeds = .ok server →
      ∀ draw : Draw, (draw.now.add? (.ofSeconds maxSessionTtlSecs)).isSome →
        (∀ login s ttl,
          ((server.service.signIn draw login).perform s).1 ≠ .error (unusableTtl ttl)) ∧
        (∀ login s issued s',
          (server.service.signIn draw login).perform s = (.ok (.authenticated issued), s') →
          (∃ hash session,
            (server.service.recorded.signIn draw login).perform ⟨s.decoy, s.world, []⟩ =
              (.ok (.authenticated issued), ⟨s'.decoy, s'.world, [.findUser login.username,
                .verify login.password hash, .save issued.session session seconds]⟩) ∧
            session.createdAt = draw.now ∧ session.Lasts seconds ∧
            issued.expiresAt = session.expiresAt) ∧
          ∀ request, request.IsFor "POST" "signin" → Http.Route.readLogin request = .ok login →
            ∃ cookies, (Http.handle server.service server.policy draw request).run s =
                (.success cookies (Http.Answer.sessionJson issued.info), s') ∧
              cookies.map Http.HandedCookie.ofText? =
                [some ⟨"session", issued.session.text,
                    ["Path=/", s!"Max-Age={seconds}", "SameSite=Lax", "HttpOnly"] ++ secure⟩,
                  some ⟨"X-CSRF", issued.csrf.text,
                    ["Path=/", s!"Max-Age={seconds}", "SameSite=Lax"] ++ secure⟩]) ∧
        (settings.auth.userBackend = "memory" → ∀ user password,
          settings.users.reverse.find? (·.username = user.username) = some user →
          user.isActive = true → user.password = some password →
          ∀ faults steps,
            let s := ((server.service.interrupted faults).run steps (.fresh server.world)).2
            s.world.sessions.IsUnforced →
            ∃ issued, ((server.service.signIn draw ⟨user.username, password⟩).perform s).1 =
                .ok (.authenticated issued) ∧ issued.username = user.username) := by
  intro seconds secure
  refine ⟨fun outside server started => ?_, fun server started draw roomy => ?_⟩
  · obtain ⟨-, -, -, -, within, -⟩ := start_eq_ok started
    exact outside within
  obtain ⟨cost, csrfKey, users, sessions, ⟨positive, short⟩, opened, -, service, policy, world, -⟩ :=
    start_eq_ok started
  obtain ⟨expiresAt, usable, ends, endNanos⟩ := expiry?_ofSeconds positive short roomy
  rw [service, policy, world]
  refine ⟨fun login s ttl failed => ?_, fun login s issued s' call => ⟨?_, ?_⟩, ?_⟩
  · exact failsOnly_world (Option.isSome_iff_exists.2 ⟨_, usable⟩) s _ failed ttl rfl
  · obtain ⟨credential, expiresAt', -, usable', rfl, recorded⟩ := recorded_signIn call
    cases usable.symm.trans usable'
    have kept : ttlSeconds (ofWorld cost csrfKey
        (.ofSeconds settings.auth.sessionTtlSecs.toNat)).ttl =
          settings.auth.sessionTtlSecs.toNat := Nat.max_eq_right positive
    rw [kept] at recorded
    exact ⟨credential.passwordHash,
      ⟨credential.userId, credential.username, draw.now, expiresAt⟩, recorded, rfl,
      ⟨ends, endNanos⟩, rfl⟩
  · intro request asked read
    obtain ⟨cookies, answer, handed⟩ := Http.handle_signIn_granted
      ⟨settings.http.isSecure, .ofSeconds seconds⟩ asked read call
    refine ⟨cookies, answer, handed.trans ?_⟩
    have flag : (if settings.http.isSecure = true then ["Secure"] else []) = secure := by
      simp [secure, HttpSettings.isSecure]
    simp [Http.CookiePolicy.attributeList, Duration.ofSeconds, flag]
  · intro memory user password last active plain faults steps s unforced
    obtain ⟨roster, credential, salt, rfl, known, name, same, hash⟩ :=
      settings.find_memory memory opened last plain
    have kept : s.world.users = .memory roster :=
      ((keeps_roster roster).interrupted faults).run steps rfl
    exact ⟨_, signIn_world kept unforced known hash (same.trans active) usable, name⟩

section Sample

attribute [local instance] Causes.plain

/-- Two entries of one user, of whom only the second is active, and an hour for each session. -/
def sampleSettings : Settings where
  auth := ⟨"memory", "memory", 3600, 60, some 8, some 1⟩
  http := ⟨"127.0.0.1:8000", some "cert.pem", some "key.pem"⟩
  logFilter := "info"
  databaseDsn := none
  keyServerDsn := none
  users := [⟨"alice", some "old", none, false⟩, ⟨"alice", some "secret", none, true⟩]

def sampleSurroundings : Surroundings := ⟨none, fun _ => none, fun _ => none⟩

def sampleSeeds (index : Nat) : SeedDraw :=
  ⟨.replicate 16 (UInt8.ofNat index), .replicate 16 0, sampleMoment 0⟩

/-- The user is given a session of an hour for the second password, and with no time for sessions
no server starts. -/
theorem start_lifetimes_sample :
    ∃ server issued, ∃ session : Session,
      start sampleSettings sampleSurroundings sampleSeeds = .ok server ∧
      ((sampleMoment 0).add? (.ofSeconds maxSessionTtlSecs)).isSome ∧
      ((server.service.signIn (sampleDraw 0 1) ⟨"alice", "secret"⟩).perform
        (.fresh server.world)).1 = .ok (.authenticated issued) ∧
      session.createdAt = sampleMoment 0 ∧ session.Lasts 3600 ∧
      issued.expiresAt = session.expiresAt ∧
      ∀ server, start { sampleSettings with auth.sessionTtlSecs := 0 } sampleSurroundings
        sampleSeeds ≠ .ok server := by
  obtain ⟨server, started⟩ : ∃ server,
      start sampleSettings sampleSurroundings sampleSeeds = .ok server := ⟨_, rfl⟩
  have roomy : ((sampleMoment 0).add? (.ofSeconds maxSessionTtlSecs)).isSome := by decide
  obtain ⟨-, lifetimes⟩ := start_lifetimes sampleSettings sampleSurroundings sampleSeeds
  obtain ⟨-, given, users⟩ := lifetimes server started (sampleDraw 0 1) roomy
  obtain ⟨issued, call, -⟩ := users rfl ⟨"alice", some "secret", none, true⟩ "secret" rfl rfl rfl
    (fun _ => none) [] (by
      cases started
      trivial)
  obtain ⟨⟨hash, session, -, began, lasts, ends⟩, -⟩ := given _ _ _ _ (Prod.ext call rfl)
  exact ⟨server, issued, session, started, roomy, call, began, lasts, ends,
    (start_lifetimes { sampleSettings with auth.sessionTtlSecs := 0 } sampleSurroundings
      sampleSeeds).1 (by decide)⟩

end Sample

end Server

end SignIn
