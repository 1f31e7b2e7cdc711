import SignIn.Proofs.DecoyCalls
import SignIn.Proofs.SessionLengths
import SignIn.Proofs.WordSpans

/-!
# When sessions end

A session that begins outside a leap second ends exactly its length later, to the nanosecond, if that
length is more than nothing, can be counted in milliseconds and does not lead past the last moment
(`Service.expiry?_eq_some_iff`). Otherwise signing in is a fault of the service's own, and nothing is
saved (`Service.signIn_ends_exactly`).

A session is saved for whole seconds, one at least. They last until the end of the session exactly if
its length is a whole number of seconds or less than one second; a fraction beyond that is cut off,
and the session is over in the store before it ends (`Service.kept_until_end_iff`).
-/

namespace SignIn

namespace Instant

/-- Nanoseconds since 1970-01-01T00:00:00Z. -/
def sinceEpoch (t : Instant) : Int := 1000000000 * t.seconds + t.nanos

/-- Its nanoseconds go past 10⁹. -/
def InLeapSecond (t : Instant) : Prop := 1000000000 ≤ t.nanos

instance (t : Instant) : Decidable t.InLeapSecond :=
  inferInstanceAs (Decidable (1000000000 ≤ t.nanos))

/-- The last moment that is not in a leap second. -/
def last : Instant := ⟨8210266876799, 999999999, by decide, by decide, by decide⟩

variable {t e : Instant} {d : Duration}

theorem lt_iff_sinceEpoch (ht : ¬t.InLeapSecond) (he : ¬e.InLeapSecond) :
    t < e ↔ t.sinceEpoch < e.sinceEpoch := by
  unfold InLeapSecond at ht he
  rw [lt_def, sinceEpoch, sinceEpoch]
  omega

/-- Outside leap seconds, time is added exactly. -/
theorem add?_eq_some_iff (ht : ¬t.InLeapSecond) :
    t.add? d = some e ↔ ¬e.InLeapSecond ∧ e.sinceEpoch = t.sinceEpoch + d.totalNanos := by
  have spanLt := d.nanos_lt
  unfold InLeapSecond at ht ⊢
  rw [add?, if_neg fun leap => ht leap.1]
  dsimp only
  rw [ofParts?_eq_some, sinceEpoch, sinceEpoch, Duration.totalNanos]
  omega

theorem isSome_add?_iff (ht : ¬t.InLeapSecond) :
    (t.add? d).isSome ↔ t.sinceEpoch + d.totalNanos ≤ last.sinceEpoch := by
  have lastEq : last.sinceEpoch = 8210266876799999999999 := rfl
  have startGe := t.seconds_ge
  rw [Option.isSome_iff_exists, lastEq]
  constructor
  · rintro ⟨e, added⟩
    obtain ⟨ordinary, exact⟩ := (add?_eq_some_iff ht).1 added
    have endLe := e.seconds_le
    unfold InLeapSecond at ordinary
    rw [sinceEpoch] at exact
    omega
  · intro inRange
    have start : t.sinceEpoch = 1000000000 * t.seconds + t.nanos := rfl
    generalize sum : t.sinceEpoch + d.totalNanos = total at inRange
    refine ⟨⟨total / 1000000000, (total % 1000000000).toNat, by omega, by omega, by omega⟩,
      (add?_eq_some_iff ht).2 ⟨?_, ?_⟩⟩
    · change ¬1000000000 ≤ (total % 1000000000).toNat
      omega
    · change 1000000000 * (total / 1000000000) + ((total % 1000000000).toNat : Int) = _
      omega

end Instant

/-- A length for a session that begins now: more than nothing, no longer than `2 ^ 63 - 1`
milliseconds, and not past the last moment. -/
structure Duration.IsUsableAt (ttl : Duration) (now : Instant) : Prop where
  positive : 0 < ttl.totalNanos
  countable : ttl.totalNanos ≤ (2 ^ 63 - 1) * 1000000
  inRange : now.sinceEpoch + ttl.totalNanos ≤ Instant.last.sinceEpoch

namespace Service

section Expiry

variable {ttl : Duration} {now expiresAt : Instant}

theorem expiry?_eq_some_iff (ordinary : ¬now.InLeapSecond) :
    expiry? ttl now = some expiresAt ↔ ttl.IsUsableAt now ∧ ¬expiresAt.InLeapSecond ∧
      expiresAt.sinceEpoch = now.sinceEpoch + ttl.totalNanos := by
  have largest : Duration.largest.totalNanos = (2 ^ 63 - 1) * 1000000 := rfl
  rw [← Instant.add?_eq_some_iff ordinary, expiry?, largest]
  constructor
  · intro ends
    split at ends
    · rename_i bounds
      exact ⟨⟨bounds.1, bounds.2, (Instant.isSome_add?_iff ordinary).1 (ends ▸ rfl)⟩, ends⟩
    · cases ends
  · rintro ⟨usable, ends⟩
    rw [if_pos ⟨usable.positive, usable.countable⟩, ends]

theorem expiry?_eq_none_iff (ordinary : ¬now.InLeapSecond) :
    expiry? ttl now = none ↔ ¬ttl.IsUsableAt now := by
  rcases ends : expiry? ttl now with _ | expiresAt
  · refine iff_of_true rfl fun usable => ?_
    obtain ⟨expiresAt, added⟩ :=
      Option.isSome_iff_exists.1 ((Instant.isSome_add?_iff ordinary).2 usable.inRange)
    have exact := (Instant.add?_eq_some_iff ordinary).1 added
    cases ends.symm.trans ((expiry?_eq_some_iff ordinary).2 ⟨usable, exact⟩)
  · exact iff_of_false nofun fun unusable => unusable ((expiry?_eq_some_iff ordinary).1 ends).1

theorem lt_expiry (ordinary : ¬now.InLeapSecond) (ends : expiry? ttl now = some expiresAt) :
    now < expiresAt := by
  obtain ⟨usable, endOrdinary, exact⟩ := (expiry?_eq_some_iff ordinary).1 ends
  have positive := usable.positive
  rw [Instant.lt_iff_sinceEpoch ordinary endOrdinary]
  omega

/-- Dropped after the whole seconds of its length, but one at least, a session is over exactly if
nothing of its length was cut off, also where it began in a leap second. -/
theorem expired_when_dropped_iff {dropped : Instant} (ends : expiry? ttl now = some expiresAt)
    (kept : now.add? (.ofSeconds (ttlSeconds ttl)) = some dropped) :
    expiresAt ≤ dropped ↔ ttl.nanos = 0 ∨ ttl.seconds = 0 := by
  have spanLt := ttl.nanos_lt
  have nowLt := now.nanos_lt
  have some : ttlSeconds ttl ≠ 0 := Nat.ne_of_gt (Nat.le_max_left 1 ttl.seconds)
  have most : ttlSeconds ttl = max 1 ttl.seconds := rfl
  rw [Instant.add?_ofSeconds some, Instant.ofParts?_eq_some, most] at kept
  rw [expiry?] at ends
  split at ends
  case isFalse => cases ends
  case isTrue bounds =>
  have positive := bounds.1
  rw [Duration.totalNanos] at positive
  rw [Instant.le_def]
  -- A fraction of a second may end in the leap second it began in; whole seconds lead out of it.
  unfold Instant.add? at ends
  split at ends <;> rw [Instant.ofParts?_eq_some] at ends <;> omega

/-- The seconds for which a session is kept and the nanoseconds of its length. -/
theorem ttlSeconds_near (ttl : Duration) (positive : 0 < ttl.totalNanos) :
    (ttl.totalNanos ≤ 1000000000 * ttlSeconds ttl ↔ ttl.nanos = 0 ∨ ttl.seconds = 0) ∧
      1000000000 * ttlSeconds ttl < ttl.totalNanos + 1000000000 ∧
      ttl.totalNanos < 1000000000 * ttlSeconds ttl + 1000000000 ∧
      (ttl.nanos = 0 → ttl.totalNanos = 1000000000 * ttlSeconds ttl) := by
  have spanLt := ttl.nanos_lt
  have most : ttlSeconds ttl = max 1 ttl.seconds := rfl
  rw [Duration.totalNanos] at *
  omega

end Expiry

section Calls

variable {σ : Type} {service : Service σ} {draw : Draw} {login : Login} {s : State σ}

/-- Whose session a store still finds is told before the session's end, and not from then on. -/
theorem whoIs_found_iff {token : SessionToken} {session : Session} {world : σ} {t : Instant}
    (found : (service.sessions.find token).perform s.world = (.ok (some session), world)) :
    ((service.whoIs t token).perform s).1 = .ok session.info ↔ t < session.expiresAt := by
  rw [perform_whoIs, found, ← Instant.not_le]
  dsimp only
  by_cases ended : session.IsExpiredAt t
  · rw [if_pos ended]
    refine iff_of_false ?_ fun live => live ended
    rcases (service.sessions.revoke token).perform world with ⟨_ | _, _⟩ <;> nofun
  · rw [if_neg ended]
    exact iff_of_true rfl ended

variable {credential : Credential} {found verified : σ}
  (hfind : (service.users.find login.username).perform s.world = (.ok (some credential), found))
  (hverify : (service.hasher.verify login.password credential.passwordHash).perform found =
    (.ok true, verified))
  (active : credential.isActive = true)

include hfind hverify active

theorem recorded_signIn_unusable (unusable : expiry? service.ttl draw.now = none) :
    (service.recorded.signIn draw login).perform ⟨s.decoy, s.world, []⟩ =
      (.error (unusableTtl service.ttl), ⟨s.decoy, verified,
        [.findUser login.username, .verify login.password credential.passwordHash]⟩) := by
  have ttl : service.recorded.ttl = service.ttl := rfl
  rw [perform_signIn, recorded_findUser hfind]
  dsimp only
  rw [recorded_verify hverify]
  dsimp only
  rw [if_pos ⟨rfl, active⟩, perform_issue, ttl, unusable]
  rfl

/-- What saving the session gives decides, once it is known when the session ends. -/
theorem recorded_signIn_usable {expiresAt : Instant}
    (usable : expiry? service.ttl draw.now = some expiresAt) :
    let token := SessionToken.ofRandom draw.token
    let session : Session := ⟨credential.userId, credential.username, draw.now, expiresAt⟩
    let saved := (service.sessions.save token session (ttlSeconds service.ttl)).perform verified
    (service.recorded.signIn draw login).perform ⟨s.decoy, s.world, []⟩ =
      (saved.1.map fun _ => .authenticated ⟨token, service.csrfKey.bind token, credential.userId,
          credential.username, expiresAt⟩,
        ⟨s.decoy, saved.2,
          [.findUser login.username, .verify login.password credential.passwordHash,
            .save token session (ttlSeconds service.ttl)]⟩) := by
  intro token session saved
  have ttl : service.recorded.ttl = service.ttl := rfl
  have save : (service.recorded.sessions.save token session (ttlSeconds service.ttl)).perform
      (verified, [.findUser login.username, .verify login.password credential.passwordHash]) =
        (saved.1, saved.2, [.findUser login.username, .verify login.password credential.passwordHash,
          .save token session (ttlSeconds service.ttl)]) := rfl
  rw [perform_signIn, recorded_findUser hfind]
  dsimp only
  rw [recorded_verify hverify]
  dsimp only
  rw [if_pos ⟨rfl, active⟩, perform_issue, ttl, usable]
  simp only [List.nil_append, List.cons_append]
  rw [save]
  rcases saved with ⟨_ | _, _⟩ <;> rfl

end Calls

/-- Where the password is right and the user active, a session is opened exactly if its length can be
used at the moment it begins. It then ends exactly its length later, to the nanosecond, so it is told
whose it is at the moment it begins and up to that end; what saving it gives is all that can still go
wrong. If the length cannot be used that is a fault of the service's own, nothing is saved, and the
state is as the verification left it. All this can be computed in machine words, of which none
wraps around. -/
theorem signIn_ends_exactly {σ : Type} (service : Service σ) (draw : Draw) (login : Login)
    (credential : Credential) (s : State σ) (found verified : σ)
    (ordinary : ¬draw.now.InLeapSecond)
    (hfind : (service.users.find login.username).perform s.world = (.ok (some credential), found))
    (hverify : (service.hasher.verify login.password credential.passwordHash).perform found =
      (.ok true, verified))
    (active : credential.isActive = true) :
    let ttl := service.ttl
    let recorded := (service.recorded.signIn draw login).perform ⟨s.decoy, s.world, []⟩
    let checks : List Call :=
      [.findUser login.username, .verify login.password credential.passwordHash]
    let token := SessionToken.ofRandom draw.token
    (service.signIn draw login).perform s =
        (recorded.1, ⟨recorded.2.decoy, recorded.2.world.1⟩) ∧
      (ttl.IsUsableAt draw.now → ∃ expiresAt,
        let session : Session := ⟨credential.userId, credential.username, draw.now, expiresAt⟩
        let saved := (service.sessions.save token session (ttlSeconds ttl)).perform verified
        expiresAt.sinceEpoch = draw.now.sinceEpoch + ttl.totalNanos ∧
          ¬expiresAt.InLeapSecond ∧ draw.now < expiresAt ∧
          recorded = (saved.1.map fun _ => .authenticated ⟨token, service.csrfKey.bind token,
              credential.userId, credential.username, expiresAt⟩,
            ⟨s.decoy, saved.2, checks ++ [.save token session (ttlSeconds ttl)]⟩) ∧
          (∀ t, t < expiresAt → ¬session.IsExpiredAt t) ∧
          ∀ t later world,
            (service.sessions.find token).perform later.world = (.ok (some session), world) →
            (((service.whoIs t token).perform later).1 = .ok session.info ↔ t < expiresAt)) ∧
      (¬ttl.IsUsableAt draw.now →
        recorded = (.error (unusableTtl ttl), ⟨s.decoy, verified, checks⟩)) ∧
      ∀ seconds nanos h, ttl = ⟨UInt64.toNat seconds, UInt32.toNat nanos, h⟩ →
        expiryInWords? seconds nanos draw.now = expiry? ttl draw.now ∧
          (∀ span, WordSpan.ofLength? seconds nanos = some span → span.Counts ttl) ∧
          (max 1 seconds).toNat = ttlSeconds ttl := by
  intro ttl recorded checks token
  refine ⟨?same, fun usable => ?usable, fun unusable => ?unusable, ?words⟩
  case same =>
    -- To record the calls changes nothing else.
    have stops : Stops (fun _ => none) (service.signIn draw login)
        (service.recorded.signIn draw login) := service.stops_signIn draw login
    obtain ⟨made, same, -⟩ := stops s []
    simp only [recorded, same]
  case usable =>
    have known : expiry? ttl draw.now ≠ none := fun none =>
      (expiry?_eq_none_iff ordinary).1 none usable
    obtain ⟨expiresAt, ends⟩ := Option.ne_none_iff_exists'.1 known
    obtain ⟨-, endOrdinary, exact⟩ := (expiry?_eq_some_iff ordinary).1 ends
    exact ⟨expiresAt, exact, endOrdinary, lt_expiry ordinary ends,
      recorded_signIn_usable hfind hverify active ends, fun t live => Instant.not_le.2 live,
      fun t later world found => whoIs_found_iff found⟩
  case unusable =>
    exact recorded_signIn_unusable hfind hverify active ((expiry?_eq_none_iff ordinary).2 unusable)
  case words =>
    intro seconds nanos h same
    rw [same]
    exact ⟨expiryInWords?_eq seconds nanos h draw.now, fun span read =>
      WordSpan.counts_of_ofLength? h read, toNat_max_one seconds⟩

section Sample

/-- Sessions of a second and a half. -/
def oneAndAHalf : Duration := ⟨1, 500000000, by decide⟩

def aliceAlone : State (Roster × Registry) := ⟨none, .ofCredentials [sampleUser], .empty⟩

/-- What alice is told who signs in where sessions have this length. -/
def sampleSignIn (ttl : Duration) : Except AuthError SignInAnswer × State (Roster × Registry) :=
  ({ sampleService with ttl }.signIn (sampleDraw 0 1) ⟨"alice", "secret"⟩).perform aliceAlone

/-- A session of a second and a half ends when it should, the longest length that can be counted
leads past the last moment, and the machine words for the first one give the same. -/
theorem signIn_ends_exactly_sample :
    ¬(sampleMoment 0).InLeapSecond ∧
      (∃ issued, (sampleSignIn oneAndAHalf).1 = .ok (.authenticated issued) ∧
        issued.expiresAt.sinceEpoch = 1500000000) ∧
      (sampleSignIn .largest).1 = .error (unusableTtl .largest) ∧
      (sampleSignIn .largest).2.world.2 = .empty ∧
      expiryInWords? 1 500000000 (sampleMoment 0) = expiry? oneAndAHalf (sampleMoment 0) := by
  have ordinary : ¬(sampleMoment 0).InLeapSecond := by decide
  have ends := fun ttl => signIn_ends_exactly { sampleService with ttl } (sampleDraw 0 1)
    ⟨"alice", "secret"⟩ sampleUser aliceAlone aliceAlone.world aliceAlone.world ordinary rfl rfl
    rfl
  obtain ⟨same, usable, -, words⟩ := ends oneAndAHalf
  obtain ⟨tooFar, -, refused, -⟩ := ends .largest
  obtain ⟨expiresAt, exact, -, -, recorded, -⟩ := usable ⟨by decide, by decide, by decide⟩
  have longest := refused fun h => absurd h.inRange (by decide)
  rw [recorded] at same
  rw [longest] at tooFar
  exact ⟨ordinary, ⟨_, congrArg Prod.fst same, exact⟩, congrArg Prod.fst tooFar,
    congrArg (·.2.world.2) tooFar, (words 1 500000000 (by decide) rfl).1⟩

end Sample

/-- Whoever is given a session has it saved for the whole seconds of its length, but one at least.
A store that drops it then drops a session that is over exactly if its length is a whole number of
seconds or less than one. Leap seconds aside, it is otherwise dropped early by less than a second,
and it is never kept a second or more past its end. -/
theorem kept_until_end_iff {σ : Type} (service : Service σ) (draw : Draw) (login : Login)
    (s s' : State σ) (issued : IssuedSession)
    (h : (service.signIn draw login).perform s = (.ok (.authenticated issued), s')) :
    let ttl := service.ttl
    let seconds := max 1 ttl.seconds
    ∃ hash session,
      (service.recorded.signIn draw login).perform ⟨s.decoy, s.world, []⟩ =
          (.ok (.authenticated issued), ⟨s'.decoy, s'.world, [.findUser login.username,
            .verify login.password hash, .save issued.session session seconds]⟩) ∧
        session.createdAt = draw.now ∧ session.expiresAt = issued.expiresAt ∧
        (∀ dropped, draw.now.add? (.ofSeconds seconds) = some dropped →
          (session.IsExpiredAt dropped ↔ ttl.nanos = 0 ∨ ttl.seconds = 0)) ∧
        (¬draw.now.InLeapSecond →
          let lifetime := session.expiresAt.sinceEpoch - session.createdAt.sinceEpoch
          (lifetime ≤ 1000000000 * seconds ↔ ttl.nanos = 0 ∨ ttl.seconds = 0) ∧
            1000000000 * seconds < lifetime + 1000000000 ∧
            lifetime < 1000000000 * seconds + 1000000000 ∧
            (ttl.nanos = 0 → lifetime = 1000000000 * seconds)) := by
  intro ttl seconds
  obtain ⟨credential, expiresAt, -, ends, rfl, recorded⟩ := recorded_signIn h
  refine ⟨credential.passwordHash, _, recorded, rfl, rfl,
    fun dropped kept => expired_when_dropped_iff ends kept, fun ordinary => ?_⟩
  obtain ⟨usable, -, exact⟩ := (expiry?_eq_some_iff ordinary).1 ends
  have kept : ttlSeconds ttl = seconds := rfl
  have near := ttlSeconds_near ttl usable.positive
  have length : expiresAt.sinceEpoch - draw.now.sinceEpoch = ttl.totalNanos :=
    Int.sub_eq_iff_eq_add'.2 exact
  rw [kept] at near
  dsimp only
  rw [length]
  omega

/-- A session of a second and a half is saved for one second, and not over when it is dropped. -/
theorem kept_until_end_iff_sample :
    ∃ issued hash session,
      (sampleSignIn oneAndAHalf).1 = .ok (.authenticated issued) ∧
      (({ sampleService with ttl := oneAndAHalf }.recorded.signIn (sampleDraw 0 1)
        ⟨"alice", "secret"⟩).perform ⟨none, aliceAlone.world, []⟩).2.world.2 =
          [.findUser "alice", .verify "secret" hash, .save issued.session session 1] ∧
      session.expiresAt = issued.expiresAt ∧ ¬session.IsExpiredAt (sampleMoment 1) := by
  obtain ⟨issued, told⟩ : ∃ issued, (sampleSignIn oneAndAHalf).1 = .ok (.authenticated issued) :=
    ⟨_, rfl⟩
  obtain ⟨hash, session, recorded, -, ends, dropped, -⟩ := kept_until_end_iff
    { sampleService with ttl := oneAndAHalf } (sampleDraw 0 1) ⟨"alice", "secret"⟩ aliceAlone
    (sampleSignIn oneAndAHalf).2 issued (Prod.ext told rfl)
  refine ⟨issued, hash, session, told, congrArg (·.2.world.2) recorded, ends, fun ended => ?_⟩
  have whole := (dropped (sampleMoment 1) (by decide)).1 ended
  exact absurd whole (by decide)

end Service

end SignIn
