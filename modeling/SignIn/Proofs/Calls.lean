import SignIn.Service.Calls
import SignIn.Service.Run

/-!
# What a call of the service does

Each call of the service is a few calls of its stores and of the hasher, one after the other, and
the first that fails ends it (`perform_signIn`, `perform_whoIs`, `perform_authorize`,
`perform_signOut`). These equations say what is answered and what is left, for any stores; proofs
about the service start from them and need not open the calls again.

Where users and sessions are kept apart, looking users up, hashing and verifying leave the sessions
as they are (`keeps_users`, `keeps_verifyDecoy`).
-/

namespace SignIn

namespace Attempt

variable {σ ρ α β : Type} {part : σ → ρ}

theorem perform_bind_pure (attempt : Attempt σ α) (f : α → β) (s : σ) :
    (attempt >>= fun a => pure (f a)).perform s =
      ((attempt.perform s).1.map f, (attempt.perform s).2) := by
  rw [perform_bind]
  rcases attempt.perform s with ⟨_ | a, s'⟩ <;> rfl

/-- To go on with what an attempt gives does not fail by itself. -/
theorem perform_of_bind_pure {attempt : Attempt σ α} {f : α → β} {s s' : σ} {error : AuthError}
    (h : (attempt >>= fun a => pure (f a)).perform s = (.error error, s')) :
    attempt.perform s = (.error error, s') := by
  rw [perform_bind_pure] at h
  rcases hr : attempt.perform s with ⟨_ | a, left⟩ <;> rw [hr] at h <;> cases h
  rfl

/-- Whatever becomes of the attempt, a part of the state stays as it is. -/
def Keeps (part : σ → ρ) (attempt : Attempt σ α) : Prop :=
  ∀ s, part (attempt.perform s).2 = part s

theorem Keeps.eq {attempt : Attempt σ α} (h : attempt.Keeps part) {s s' : σ}
    {result : Except AuthError α} (hr : attempt.perform s = (result, s')) : part s' = part s := by
  have := h s
  rwa [hr] at this

theorem Keeps.pure (a : α) : Keeps part (Pure.pure a : Attempt σ α) := fun _ => rfl

theorem Keeps.bind {attempt : Attempt σ α} {next : α → Attempt σ β} (h : attempt.Keeps part)
    (hn : ∀ a, (next a).Keeps part) : (attempt >>= next).Keeps part := by
  intro s
  rw [perform_bind]
  rcases hr : attempt.perform s with ⟨_ | a, s'⟩
  · exact h.eq hr
  · exact (hn a s').trans (h.eq hr)

theorem Keeps.orFault {attempt : Attempt σ α} (h : attempt.Keeps part)
    (fault : Option AuthError) : (attempt.orFault fault).Keeps part := by
  rcases fault with _ | error
  · exact h
  · exact fun _ => rfl

end Attempt

/-- The text whose hash becomes the decoy, if that is made for this draw. -/
def Draw.filler (draw : Draw) : String := Hex.encode draw.decoy.toList

/-- No call to the hasher fails that a password without a user takes: it is verified against the decoy
that is kept, or against a new one, of which the hash is made first. -/
def PasswordHasher.AnswersDecoy {σ : Type} (hasher : PasswordHasher σ) (draw : Draw)
    (password : String) (world : σ) : Option String → Prop
  | some dummy => ∃ isRight, ((hasher.verify password dummy).perform world).1 = .ok isRight
  | none => ∃ dummy hashed isRight,
    (hasher.hash draw.salt draw.filler).perform world = (.ok dummy, hashed) ∧
      ((hasher.verify password dummy).perform hashed).1 = .ok isRight

/-- It makes no difference to a hasher of which state it works on a part. -/
theorem PasswordHasher.AnswersDecoy.within {σ τ : Type} {hasher : PasswordHasher σ}
    {part : τ → σ} {replace : σ → τ → τ} (hpart : ∀ s t, part (replace s t) = s) {draw : Draw}
    {password : String} {world : τ} {decoy : Option String}
    (h : hasher.AnswersDecoy draw password (part world) decoy) :
    (hasher.within part replace).AnswersDecoy draw password world decoy := by
  rcases decoy with _ | kept
  · obtain ⟨dummy, hashed, isRight, made, verified⟩ := h
    refine ⟨dummy, replace hashed world, isRight, ?_, ?_⟩
    · simp only [PasswordHasher.within, Attempt.perform_within, made]
    · simpa only [PasswordHasher.within, Attempt.perform_within, hpart] using verified
  · exact h

namespace Service

open Attempt

variable {σ α : Type}

@[simp]
theorem perform_onWorld (attempt : Attempt σ α) (s : State σ) :
    (onWorld attempt).perform s =
      ((attempt.perform s.world).1, ⟨s.decoy, (attempt.perform s.world).2⟩) := rfl

variable (service : Service σ) {draw : Draw} {login : Login} {credential : Credential}
  {now : Instant} {token : SessionToken} {csrf : CsrfToken} (s : State σ)

theorem perform_issue :
    (service.issue draw credential).perform s =
      match expiry? service.ttl draw.now with
      | none => (.error (.internal s!"unusable session ttl: {service.ttl.text}"), s)
      | some expiresAt =>
        let token := SessionToken.ofRandom draw.token
        let session := ⟨credential.userId, credential.username, draw.now, expiresAt⟩
        match (service.sessions.save token session (ttlSeconds service.ttl)).perform s.world with
        | (.error error, world) => (.error error, ⟨s.decoy, world⟩)
        | (.ok _, world) =>
          (.ok ⟨token, service.csrfKey.bind token, credential.userId, credential.username,
            expiresAt⟩, ⟨s.decoy, world⟩) := by
  unfold issue
  rcases expiry? service.ttl draw.now with _ | expiresAt
  · rfl
  · simp only [perform_bind, perform_onWorld]
    rcases (service.sessions.save _ _ _).perform s.world with ⟨_ | _, _⟩ <;> rfl

theorem perform_theDecoy :
    (service.theDecoy draw).perform s =
      match s.decoy with
      | some hash => (.ok hash, s)
      | none =>
        match (service.hasher.hash draw.salt (Hex.encode draw.decoy.toList)).perform s.world with
        | (.error error, world) => (.error error, ⟨s.decoy, world⟩)
        | (.ok hash, world) => (.ok hash, ⟨some hash, world⟩) := by
  unfold theDecoy
  have kept : keptDecoy.perform s = (.ok s.decoy, s) := rfl
  rw [perform_bind, kept]
  dsimp only
  rcases made : s.decoy with _ | hash
  · simp only [perform_bind, perform_onWorld, made]
    rcases (service.hasher.hash _ _).perform s.world with ⟨_ | _, _⟩ <;> rfl
  · rfl

theorem perform_verifyDecoy (password : String) :
    (service.verifyDecoy draw password).perform s =
      match (service.theDecoy draw).perform s with
      | (.error error, s) => (.error error, s)
      | (.ok hash, s) =>
        match (service.hasher.verify password hash).perform s.world with
        | (.error error, world) => (.error error, ⟨s.decoy, world⟩)
        | (.ok _, world) => (.ok (), ⟨s.decoy, world⟩) := by
  unfold verifyDecoy
  simp only [perform_bind, perform_onWorld]
  rcases (service.theDecoy draw).perform s with ⟨_ | hash, s⟩
  · rfl
  · dsimp only
    rcases (service.hasher.verify password hash).perform s.world with ⟨_ | _, _⟩ <;> rfl

/-- A password for which there is no user is verified if no call to the hasher fails, whatever comes
of it. -/
theorem verifyDecoy_answers {password : String}
    (h : service.hasher.AnswersDecoy draw password s.world s.decoy) :
    ((service.verifyDecoy draw password).perform s).1 = .ok () := by
  rcases s with ⟨_ | kept, world⟩
  · obtain ⟨dummy, hashed, isRight, made, verified⟩ := h
    rw [Draw.filler] at made
    rw [perform_verifyDecoy, perform_theDecoy]
    dsimp only
    rw [made]
    dsimp only
    rw [show (service.hasher.verify password dummy).perform hashed = (.ok isRight, _) from
      Prod.ext verified rfl]
  · obtain ⟨isRight, verified⟩ := h
    rw [perform_verifyDecoy, perform_theDecoy]
    dsimp only
    rw [show (service.hasher.verify password kept).perform world = (.ok isRight, _) from
      Prod.ext verified rfl]

/-- A name that is not known is refused after the decoy, and one that is known after its own hash,
whatever the password. -/
theorem perform_signIn :
    (service.signIn draw login).perform s =
      match (service.users.find login.username).perform s.world with
      | (.error error, world) => (.error error, ⟨s.decoy, world⟩)
      | (.ok none, world) =>
        match (service.verifyDecoy draw login.password).perform ⟨s.decoy, world⟩ with
        | (.error error, s) => (.error error, s)
        | (.ok _, s) => (.ok (.rejected .invalid), s)
      | (.ok (some credential), world) =>
        match (service.hasher.verify login.password credential.passwordHash).perform world with
        | (.error error, world) => (.error error, ⟨s.decoy, world⟩)
        | (.ok isRight, world) =>
          if isRight ∧ credential.isActive then
            match (service.issue draw credential).perform ⟨s.decoy, world⟩ with
            | (.error error, s) => (.error error, s)
            | (.ok issued, s) => (.ok (.authenticated issued), s)
          else (.ok (.rejected .invalid), ⟨s.decoy, world⟩) := by
  unfold signIn
  simp only [perform_bind, perform_onWorld]
  rcases (service.users.find login.username).perform s.world with ⟨_ | _ | credential, world⟩
  · rfl
  · simp only [perform_bind]
    rcases (service.verifyDecoy _ _).perform ⟨s.decoy, world⟩ with ⟨_ | _, _⟩ <;> rfl
  · simp only [perform_bind, perform_onWorld]
    rcases (service.hasher.verify _ _).perform world with ⟨_ | isRight, world⟩
    · rfl
    · dsimp only
      split
      · simp only [perform_bind]
        rcases (service.issue draw credential).perform ⟨s.decoy, world⟩ with ⟨_ | _, _⟩ <;> rfl
      · rfl

/-- Whoever is given a session is known and active, gave the right password, and the session is
saved. -/
theorem signIn_authenticated {issued : IssuedSession} {s s' : State σ}
    (h : (service.signIn draw login).perform s = (.ok (.authenticated issued), s')) :
    ∃ credential expiresAt found verified,
      (service.users.find login.username).perform s.world = (.ok (some credential), found) ∧
        (service.hasher.verify login.password credential.passwordHash).perform found =
          (.ok true, verified) ∧
        credential.isActive = true ∧ expiry? service.ttl draw.now = some expiresAt ∧
        (service.sessions.save (.ofRandom draw.token)
            ⟨credential.userId, credential.username, draw.now, expiresAt⟩
            (ttlSeconds service.ttl)).perform verified = (.ok (), s'.world) ∧
        issued = ⟨.ofRandom draw.token, service.csrfKey.bind (.ofRandom draw.token),
          credential.userId, credential.username, expiresAt⟩ := by
  rw [perform_signIn] at h
  rcases hf : (service.users.find login.username).perform s.world with ⟨_ | _ | credential, found⟩
  · simp only [hf] at h
    cases h
  · simp only [hf] at h
    generalize (service.verifyDecoy draw login.password).perform _ = given at h
    rcases given with ⟨_ | _, _⟩ <;> cases h
  rcases hv : (service.hasher.verify login.password credential.passwordHash).perform found with
    ⟨_ | isRight, verified⟩
  · simp only [hf, hv] at h
    cases h
  simp only [hf, hv] at h
  split at h
  case isFalse => cases h
  case isTrue granted =>
  obtain ⟨rfl, active⟩ := granted
  rw [perform_issue] at h
  rcases ends : expiry? service.ttl draw.now with _ | expiresAt
  · simp only [ends] at h
    cases h
  simp only [ends] at h
  rcases saved : (service.sessions.save (.ofRandom draw.token)
    ⟨credential.userId, credential.username, draw.now, expiresAt⟩
    (ttlSeconds service.ttl)).perform verified with ⟨_ | _, _⟩
  · simp only [saved] at h
    cases h
  · simp only [saved] at h
    cases h
    exact ⟨credential, expiresAt, found, verified, rfl, hv, active, rfl, saved, rfl⟩

theorem perform_whoIs :
    (service.whoIs now token).perform s =
      match (service.sessions.find token).perform s.world with
      | (.error error, world) => (.error error, ⟨s.decoy, world⟩)
      | (.ok none, world) => (.error .invalidSession, ⟨s.decoy, world⟩)
      | (.ok (some session), world) =>
        if session.IsExpiredAt now then
          match (service.sessions.revoke token).perform world with
          | (.error error, world) => (.error error, ⟨s.decoy, world⟩)
          | (.ok _, world) => (.error .invalidSession, ⟨s.decoy, world⟩)
        else (.ok session.info, ⟨s.decoy, world⟩) := by
  unfold whoIs
  simp only [perform_bind, perform_onWorld]
  rcases (service.sessions.find token).perform s.world with ⟨_ | _ | session, world⟩
  · rfl
  · rfl
  · dsimp only
    split
    · simp only [perform_bind, perform_onWorld]
      rcases (service.sessions.revoke token).perform world with ⟨_ | _, _⟩ <;> rfl
    · rfl

theorem perform_authorize :
    (service.authorize now token csrf).perform s =
      match (service.whoIs now token).perform s with
      | (.error error, s) => (.error error, s)
      | (.ok info, s) =>
        (if service.csrfKey.verify token csrf then .ok info else .error .csrfMismatch, s) := by
  unfold authorize
  rw [perform_bind]
  rcases (service.whoIs now token).perform s with ⟨_ | info, s⟩
  · rfl
  · dsimp only
    split <;> rfl

theorem perform_signOut :
    (service.signOut now token csrf).perform s =
      match (service.authorize now token csrf).perform s with
      | (.error error, s) => (.error error, s)
      | (.ok _, s) =>
        match (service.sessions.revoke token).perform s.world with
        | (.error error, world) => (.error error, ⟨s.decoy, world⟩)
        | (.ok _, world) => (.ok (), ⟨s.decoy, world⟩) := by
  unfold signOut
  simp only [perform_bind, perform_onWorld]
  rcases (service.authorize now token csrf).perform s with ⟨_ | info, s⟩
  · rfl
  · dsimp only
    rcases (service.sessions.revoke token).perform s.world with ⟨_ | _, _⟩ <;> rfl

section Parts

variable {τ ρ : Type} {users : UserStore τ} {hasher : PasswordHasher τ} {sessions : SessionStore ρ}
  {csrfKey : CsrfKey} {ttl : Duration} {faults : Call → Option AuthError}

theorem keeps_users (attempt : Attempt τ α) (fault : Option AuthError) :
    (Attempt.orFault fault (attempt.within Prod.fst fun part (state : τ × ρ) =>
      (part, state.2))).Keeps Prod.snd :=
  Keeps.orFault (fun _ => rfl) fault

theorem Keeps.onWorld {part : σ → ρ} {attempt : Attempt σ α} (h : attempt.Keeps part) :
    (onWorld attempt).Keeps fun s => part s.world := fun s => h s.world

theorem keeps_verifyDecoy (draw : Draw) (password : String) :
    (((ofParts users hasher sessions csrfKey ttl).interrupted faults).verifyDecoy draw
      password).Keeps fun s => s.world.2 := by
  unfold verifyDecoy theDecoy
  refine .bind (.bind (fun _ => rfl) fun kept => ?_) fun hash => ?_
  · rcases kept with _ | hash
    · exact .bind (Keeps.onWorld (keeps_users _ _)) fun _ => .bind (fun _ => rfl) fun _ => .pure _
    · exact .pure _
  · exact .bind (Keeps.onWorld (keeps_users _ _)) fun _ => .pure _

end Parts

end Service

end SignIn
