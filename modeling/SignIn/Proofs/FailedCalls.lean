import SignIn.Proofs.History

/-!
# Calls that fail

A call of the service that fails leaves all as it was, but for two things (`Leaves`): a session that
was asked for and is over may be gone, and the decoy may be made. Neither can be seen later: made
again without the fault, the call answers and leaves what it would have without the fault
(`take_failed`).

This holds whichever calls to the users, the hasher and the sessions fail, and with whatever fault.
-/

namespace SignIn

open Attempt

variable {τ : Type}

/-- Looking a user up changes nothing. -/
def UserStore.IsReadOnly (users : UserStore τ) : Prop := ∀ username, (users.find username).Keeps id

/-- Hashing and verifying change nothing. -/
structure PasswordHasher.IsReadOnly (hasher : PasswordHasher τ) : Prop where
  hash : ∀ salt password, (hasher.hash salt password).Keeps id
  verify : ∀ password hash, (hasher.verify password hash).Keeps id

/-- Every text can be hashed, and every password can be verified against what that gives. -/
def PasswordHasher.VerifiesOwn (hasher : PasswordHasher τ) : Prop :=
  ∀ salt text world, ∃ hash, ((hasher.hash salt text).perform world).1 = .ok hash ∧
    ∀ password, ∃ isRight, ((hasher.verify password hash).perform world).1 = .ok isRight

namespace Service

namespace Step

/-- The token of which a step asks, and when. -/
def asks? : Step → Option (Instant × SessionToken)
  | whoIs now token | authorize now token _ | signOut now token _ => some (now, token)
  | signIn .. | purge _ | save .. | find _ | revoke _ => none

/-- The same step at the same moment, with new random bytes. -/
def redrawn (fresh : Draw) : Step → Step
  | signIn draw login => signIn { fresh with now := draw.now } login
  | step => step

theorem redrawn_of_asks {step : Step} {asked : Instant × SessionToken} (h : step.asks? = some asked)
    (fresh : Draw) : step.redrawn fresh = step := by
  cases step with
  | signIn => cases h
  | whoIs | authorize | signOut | purge | save | find | revoke => rfl

end Step

/-- The same answers, but for the tokens that were drawn. -/
def SameButTokens : Except AuthError Reply → Except AuthError Reply → Prop
  | .ok (.signIn (.authenticated a)), .ok (.signIn (.authenticated b)) => a.info = b.info
  | a, b => a = b

theorem SameButTokens.refl : ∀ answer, SameButTokens answer answer
  | .ok (.signIn (.authenticated _)) => rfl
  | .ok (.signIn (.rejected _)) | .ok (.info _) | .ok .done | .ok (.purged _) | .ok (.found _)
  | .ok (.revoked _) | .error _ => rfl

section Failure

/-- The hash of the decoy of a draw. -/
def IsMade (hasher : PasswordHasher τ) (draw : Draw) (world : τ) (hash : String) : Prop :=
  ((hasher.hash draw.salt (Hex.encode draw.decoy.toList)).perform world).1 = .ok hash

variable (users : UserStore τ) (hasher : PasswordHasher τ) (step : Step) (s : State (τ × Registry))

/-- What a step that fails may leave. -/
inductive Leaves : AuthError → State (τ × Registry) → Prop
  | same {error : AuthError} : Leaves error s
  | lapsed {now : Instant} {token : SessionToken} {session : Session}
      (asked : step.asks? = some (now, token)) (found : s.world.2.get? token = some session)
      (expired : session.IsExpiredAt now) :
      Leaves .invalidSession ⟨s.decoy, s.world.1, s.world.2.erase token⟩
  | decoy {error : AuthError} {draw : Draw} {login : Login} {hash : String}
      (asked : step = .signIn draw login)
      (unknown : ((users.find login.username).perform s.world.1).1 = .ok none)
      (unmade : s.decoy = none)
      (made : IsMade hasher draw s.world.1 hash) : Leaves error ⟨some hash, s.world⟩

end Failure

section ReadOnly

variable {users : UserStore τ} {hasher : PasswordHasher τ} {csrfKey : CsrfKey} {ttl : Duration}
  {faults : Call → Option AuthError} {draw : Draw} {s s' : State (τ × Registry)}

/-- Where an attempt changes nothing, it answers or meets a fault, and the state stays. -/
theorem perform_reading {ρ α : Type} {attempt : Attempt τ α} (h : attempt.Keeps id)
    (fault : Option AuthError) (world : τ × ρ) :
    (orFault fault (attempt.within Prod.fst fun part (state : τ × ρ) => (part, state.2))).perform
        world = (fault.elim (attempt.perform world.1).1 .error, world) := by
  cases fault with
  | none => exact Prod.ext rfl (Prod.ext (h world.1) rfl)
  | some error => rfl

theorem findUser_reading (hu : users.IsReadOnly) (username : String) (world : τ × Registry) :
    ((inMemory users hasher csrfKey ttl faults).users.find username).perform world =
      ((faults (.findUser username)).elim ((users.find username).perform world.1).1 .error, world) :=
  perform_reading (hu username) (faults (.findUser username)) world

theorem hash_reading (hh : hasher.IsReadOnly) (salt : Vector UInt8 16) (text : String)
    (world : τ × Registry) :
    ((inMemory users hasher csrfKey ttl faults).hasher.hash salt text).perform world =
      ((faults (.hash text)).elim ((hasher.hash salt text).perform world.1).1 .error, world) :=
  perform_reading (hh.hash salt text) (faults (.hash text)) world

theorem verify_reading (hh : hasher.IsReadOnly) (password hash : String) (world : τ × Registry) :
    ((inMemory users hasher csrfKey ttl faults).hasher.verify password hash).perform world =
      ((faults (.verify password hash)).elim ((hasher.verify password hash).perform world.1).1
        .error, world) :=
  perform_reading (hh.verify password hash) (faults (.verify password hash)) world

theorem ok_of_elim {α : Type} {fault : Option AuthError} {result : Except AuthError α} {a : α}
    (h : fault.elim result .error = .ok a) : result = .ok a := by
  cases fault with
  | none => exact h
  | some error => cases h

theorem theDecoy_cases (hh : hasher.IsReadOnly) {result : Except AuthError String}
    (h : ((inMemory users hasher csrfKey ttl faults).theDecoy draw).perform s = (result, s')) :
    (∃ error, result = .error error ∧ s' = s) ∨
      ∃ hash, result = .ok hash ∧ s' = ⟨some hash, s.world⟩ ∧
        (s.decoy = some hash ∨ s.decoy = none ∧ IsMade hasher draw s.world.1 hash) := by
  obtain ⟨_ | kept, world⟩ := s
  · rw [perform_theDecoy] at h
    simp only [hash_reading hh] at h
    generalize made : (faults _).elim ((hasher.hash _ _).perform world.1).1 .error = hashed at h
    rcases hashed with error | hash <;> cases h
    · exact .inl ⟨error, rfl, rfl⟩
    · exact .inr ⟨hash, rfl, rfl, .inr ⟨rfl, ok_of_elim made⟩⟩
  · rw [perform_theDecoy] at h
    cases h
    exact .inr ⟨kept, rfl, rfl, .inl rfl⟩

/-- A decoy that was made before is used as if it were made now. -/
theorem theDecoy_again {fresh : Draw} {hash : String} (hh : hasher.IsReadOnly) {world : τ × Registry}
    (made : IsMade hasher draw world.1 hash) (salt : fresh.salt = draw.salt)
    (text : fresh.decoy = draw.decoy) :
    ((inMemory users hasher csrfKey ttl fun _ => none).theDecoy fresh).perform ⟨none, world⟩ =
      (.ok hash, ⟨some hash, world⟩) := by
  rw [perform_theDecoy, salt, text]
  simp only [hash_reading hh, Option.elim, show _ = _ from made]

theorem verifyDecoy_error (hh : hasher.IsReadOnly) {password : String} {error : AuthError}
    (h : ((inMemory users hasher csrfKey ttl faults).verifyDecoy draw password).perform s =
      (.error error, s')) :
    s' = s ∨ s.decoy = none ∧ ∃ hash, IsMade hasher draw s.world.1 hash ∧
      s' = ⟨some hash, s.world⟩ := by
  rw [perform_verifyDecoy] at h
  split at h <;> rename_i decoy <;>
    rcases theDecoy_cases hh decoy with ⟨_, ⟨⟩, same⟩ | ⟨hash, ⟨⟩, same, kept⟩
  · cases h
    exact .inl same
  · subst same
    simp only [verify_reading hh] at h
    generalize (faults _).elim ((hasher.verify password _).perform s.world.1).1 .error = verdict at h
    rcases verdict with fault | _ <;> cases h
    rcases kept with kept | ⟨unmade, made⟩
    · rw [← kept]
      exact .inl rfl
    · exact .inr ⟨unmade, _, made, rfl⟩

theorem issue_error {credential : Credential} {error : AuthError}
    (h : ((inMemory users hasher csrfKey ttl faults).issue draw credential).perform s =
      (.error error, s')) : s' = s := by
  rw [perform_issue] at h
  split at h
  · cases h
    rfl
  · simp only [perform_save] at h
    generalize faults (.save _ _ _) = fault at h
    rcases fault with _ | error <;> cases h
    rfl

/-- A sign-in that fails leaves all as it was, but that the decoy may be made. -/
theorem signIn_error (hu : users.IsReadOnly) (hh : hasher.IsReadOnly) {login : Login}
    {error : AuthError}
    (h : ((inMemory users hasher csrfKey ttl faults).signIn draw login).perform s =
      (.error error, s')) :
    s' = s ∨ ((users.find login.username).perform s.world.1).1 = .ok none ∧ s.decoy = none ∧
      ∃ hash, IsMade hasher draw s.world.1 hash ∧ s' = ⟨some hash, s.world⟩ := by
  rw [perform_signIn, findUser_reading hu] at h
  generalize found : (faults _).elim ((users.find login.username).perform s.world.1).1 .error =
    answer at h
  rcases answer with fault | _ | credential <;> dsimp only at h
  · cases h
    exact .inl rfl
  · split at h <;> rename_i decoy <;> cases h
    exact (verifyDecoy_error hh decoy).imp_right fun made => ⟨ok_of_elim found, made⟩
  · rw [verify_reading hh] at h
    generalize (faults _).elim ((hasher.verify login.password _).perform s.world.1).1 .error =
      verdict at h
    rcases verdict with fault | isRight <;> dsimp only at h
    · cases h
      exact .inl rfl
    · split_ifs at h
      · split at h <;> rename_i issued <;> cases h
        exact .inl (issue_error issued)
      · cases h

/-- A sign-in for which the decoy was made before is as if it made it now. -/
theorem signIn_again (hu : users.IsReadOnly) (hh : hasher.IsReadOnly) (fresh : Draw) {login : Login}
    {hash : String} {world : τ × Registry} (made : IsMade hasher draw world.1 hash)
    (unknown : ((users.find login.username).perform world.1).1 = .ok none) :
    ((inMemory users hasher csrfKey ttl fun _ => none).signIn fresh login).perform
        ⟨some hash, world⟩ =
      ((inMemory users hasher csrfKey ttl fun _ => none).signIn
        { fresh with decoy := draw.decoy, salt := draw.salt } login).perform ⟨none, world⟩ := by
  have again : ((inMemory users hasher csrfKey ttl fun _ => none).theDecoy
      { fresh with decoy := draw.decoy, salt := draw.salt }).perform ⟨none, world⟩ =
      (.ok hash, ⟨some hash, world⟩) := theDecoy_again hh made rfl rfl
  have kept : ((inMemory users hasher csrfKey ttl fun _ => none).theDecoy fresh).perform
      ⟨some hash, world⟩ = (.ok hash, ⟨some hash, world⟩) := perform_theDecoy _ _
  simp only [perform_signIn, findUser_reading hu, Option.elim, unknown, perform_verifyDecoy, again,
    kept]

end ReadOnly

section Lapse

variable {users : UserStore τ} {hasher : PasswordHasher τ} {csrfKey : CsrfKey} {ttl : Duration}
  {faults : Call → Option AuthError} {s s' : State (τ × Registry)} {now : Instant}
  {token : SessionToken} {csrf : CsrfToken} {error : AuthError}

/-- A session under a token is over, and all that happens is that it is taken out. -/
def Lapses (now : Instant) (token : SessionToken) (s s' : State (τ × Registry)) : Prop :=
  ∃ session, s.world.2.get? token = some session ∧ session.IsExpiredAt now ∧
    s' = ⟨s.decoy, s.world.1, s.world.2.erase token⟩

theorem whoIs_leaves {result : Except AuthError SessionInfo}
    (h : ((inMemory users hasher csrfKey ttl faults).whoIs now token).perform s = (result, s')) :
    s' = s ∨ result = .error .invalidSession ∧ Lapses now token s s' := by
  rw [perform_whoIs, perform_find] at h
  rcases hf : faults (.find token) with _ | fault <;> simp only [hf, Option.elim] at h
  · rcases found : s.world.2.get? token with _ | session <;> simp only [found] at h
    · cases h
      exact .inl rfl
    · split_ifs at h with expired
      · rw [perform_revoke] at h
        rcases hr : faults (.revoke token) with _ | fault <;> simp only [hr, Option.elim] at h <;>
          cases h
        · exact .inr ⟨rfl, session, found, expired, rfl⟩
        · exact .inl rfl
      · cases h
        exact .inl rfl
  · cases h
    exact .inl rfl

theorem authorize_leaves {result : Except AuthError SessionInfo}
    (h : ((inMemory users hasher csrfKey ttl faults).authorize now token csrf).perform s =
      (result, s')) :
    s' = s ∨ result = .error .invalidSession ∧ Lapses now token s s' := by
  rw [perform_authorize] at h
  split at h <;> rename_i told <;> obtain ⟨rfl, rfl⟩ := Prod.mk.inj h
  · exact whoIs_leaves told
  · exact .inl ((whoIs_leaves told).resolve_right nofun)

theorem signOut_error
    (h : ((inMemory users hasher csrfKey ttl faults).signOut now token csrf).perform s =
      (.error error, s')) :
    s' = s ∨ error = .invalidSession ∧ Lapses now token s s' := by
  rw [perform_signOut] at h
  split at h <;> rename_i allowed
  · cases h
    exact (authorize_leaves allowed).imp_right fun lapse => ⟨Except.error.inj lapse.1, lapse.2⟩
  · obtain rfl := (authorize_leaves allowed).resolve_right nofun
    rw [perform_revoke] at h
    rcases hr : faults (.revoke token) with _ | fault <;> simp only [hr, Option.elim] at h <;>
      cases h
    exact .inl rfl

theorem whoIs_again (h : Lapses now token s s') :
    ((inMemory users hasher csrfKey ttl fun _ => none).whoIs now token).perform s' =
        (.error .invalidSession, s') ∧
      ((inMemory users hasher csrfKey ttl fun _ => none).whoIs now token).perform s =
        (.error .invalidSession, s') := by
  obtain ⟨session, found, expired, rfl⟩ := h
  simp only [perform_whoIs, perform_find, Option.elim, found, if_pos expired, perform_revoke,
    Table.get?_erase, ↓reduceIte, and_self]

/-- A call that asked for a session that was over is as if the session had not been taken out. -/
theorem take_again {step : Step} (asked : step.asks? = some (now, token))
    (h : Lapses now token s s') :
    ((inMemory users hasher csrfKey ttl fun _ => none).take step).perform s' =
      ((inMemory users hasher csrfKey ttl fun _ => none).take step).perform s := by
  obtain ⟨gone, lapsed⟩ : _ ∧ ((inMemory users hasher csrfKey ttl fun _ => none).whoIs now
    token).perform s = _ := whoIs_again h
  cases step with
  | whoIs =>
    cases asked
    simp only [take, perform_bind, gone, lapsed]
  | authorize =>
    cases asked
    simp only [take, perform_bind, perform_authorize, gone, lapsed]
  | signOut =>
    cases asked
    simp only [take, perform_bind, perform_signOut, perform_authorize, gone, lapsed]
  | signIn | purge | save | find | revoke => cases asked

end Lapse

section Step

variable {users : UserStore τ} {hasher : PasswordHasher τ} {csrfKey : CsrfKey} {ttl : Duration}
  {faults : Call → Option AuthError} {s s' : State (τ × Registry)} {step : Step} {error : AuthError}

/-- A call to the sessions in memory fails only where a fault is given for it. -/
theorem sessions_error {α : Type} {attempt : Attempt Registry α} {f : α → Reply}
    (sure : ∀ registry, ∃ a, (attempt.perform registry).1 = .ok a) (fault : Option AuthError)
    (h : (onWorld (orFault fault (attempt.within Prod.snd fun part (state : τ × Registry) =>
      (state.1, part))) >>= fun a => pure (f a)).perform s = (.error error, s')) : s' = s := by
  rw [perform_bind_pure, perform_onWorld] at h
  cases fault with
  | none =>
    obtain ⟨a, ok⟩ := sure s.world.2
    simp only [orFault, perform_within, ok, Except.map] at h
    cases h
  | some error =>
    cases h
    rfl

theorem take_error (hu : users.IsReadOnly) (hh : hasher.IsReadOnly)
    (h : ((inMemory users hasher csrfKey ttl faults).take step).perform s = (.error error, s')) :
    Leaves users hasher step s error s' := by
  cases step with
  | signIn draw login =>
    rcases signIn_error hu hh (perform_of_bind_pure h) with rfl | ⟨unknown, unmade, hash, made, rfl⟩
    · exact .same
    · exact .decoy rfl unknown unmade made
  | whoIs now token =>
    rcases whoIs_leaves (perform_of_bind_pure h) with rfl | ⟨⟨⟩, session, found, expired, rfl⟩
    · exact .same
    · exact .lapsed rfl found expired
  | authorize now token csrf =>
    rcases authorize_leaves (perform_of_bind_pure h) with rfl | ⟨⟨⟩, session, found, expired, rfl⟩
    · exact .same
    · exact .lapsed rfl found expired
  | signOut now token csrf =>
    rcases signOut_error (perform_of_bind_pure h) with rfl | ⟨rfl, session, found, expired, rfl⟩
    · exact .same
    · exact .lapsed rfl found expired
  | purge now => exact sessions_error (fun _ => ⟨_, rfl⟩) (faults .purge) h ▸ .same
  | save token session seconds =>
    exact sessions_error (fun _ => ⟨_, rfl⟩) (faults (.save token session seconds)) h ▸ .same
  | find token => exact sessions_error (fun _ => ⟨_, rfl⟩) (faults (.find token)) h ▸ .same
  | revoke token => exact sessions_error (fun _ => ⟨_, rfl⟩) (faults (.revoke token)) h ▸ .same

end Step

section Fresh

variable {users : UserStore τ} {hasher : PasswordHasher τ} {csrfKey : CsrfKey} {ttl : Duration}

theorem verifyDecoy_fresh (hh : hasher.IsReadOnly) (own : hasher.VerifiesOwn) (a b : Draw)
    (password : String) (s : State (τ × Registry)) :
    (((inMemory users hasher csrfKey ttl fun _ => none).verifyDecoy a password).perform s).1 =
      (((inMemory users hasher csrfKey ttl fun _ => none).verifyDecoy b password).perform s).1 := by
  obtain ⟨_ | kept, world⟩ := s
  · have verified : ∀ draw, (((inMemory users hasher csrfKey ttl fun _ => none).verifyDecoy draw
        password).perform ⟨none, world⟩).1 = .ok () := by
      intro draw
      obtain ⟨hash, made, verifies⟩ := own draw.salt (Hex.encode draw.decoy.toList) world.1
      obtain ⟨isRight, verdict⟩ := verifies password
      simp only [perform_verifyDecoy, perform_theDecoy, hash_reading hh, verify_reading hh,
        Option.elim, made, verdict]
    rw [verified, verified]
  · simp only [perform_verifyDecoy, perform_theDecoy]

/-- What chance gives shows in nothing but the tokens. -/
theorem signIn_fresh (hu : users.IsReadOnly) (hh : hasher.IsReadOnly) (own : hasher.VerifiesOwn)
    (a b : Draw) (now : a.now = b.now) (login : Login) (s : State (τ × Registry)) :
    SameButTokens
      (((inMemory users hasher csrfKey ttl fun _ => none).take (.signIn a login)).perform s).1
      (((inMemory users hasher csrfKey ttl fun _ => none).take (.signIn b login)).perform s).1 := by
  simp only [take, perform_bind_pure, perform_signIn, findUser_reading hu, Option.elim]
  rcases ((users.find login.username).perform s.world.1).1 with error | _ | credential
  · exact .refl _
  · have same : (((inMemory users hasher csrfKey ttl fun _ => none).verifyDecoy a
        login.password).perform s).1 = _ := verifyDecoy_fresh hh own a b login.password s
    dsimp only
    rcases ha : ((inMemory users hasher csrfKey ttl fun _ => none).verifyDecoy a
      login.password).perform s with ⟨result, _⟩
    rcases hb : ((inMemory users hasher csrfKey ttl fun _ => none).verifyDecoy b
      login.password).perform s with ⟨result', _⟩
    rw [ha, hb] at same
    cases same
    rcases result with error | _ <;> exact .refl _
  · simp only [verify_reading hh, Option.elim]
    rcases ((hasher.verify login.password credential.passwordHash).perform s.world.1).1 with
      error | isRight
    · exact .refl _
    · dsimp only
      split_ifs
      · simp only [perform_issue, now, perform_save, Option.elim]
        rcases expiry? _ b.now with _ | expiresAt
        · exact .refl _
        · exact (rfl : IssuedSession.info _ = IssuedSession.info _)
      · exact .refl _

theorem take_fresh (hu : users.IsReadOnly) (hh : hasher.IsReadOnly) (own : hasher.VerifiesOwn)
    (a b : Draw) (step : Step) (s : State (τ × Registry)) :
    SameButTokens
      (((inMemory users hasher csrfKey ttl fun _ => none).take (step.redrawn a)).perform s).1
      (((inMemory users hasher csrfKey ttl fun _ => none).take (step.redrawn b)).perform s).1 := by
  cases step with
  | signIn draw login =>
    exact signIn_fresh hu hh own { a with now := draw.now } { b with now := draw.now } rfl login s
  | whoIs | authorize | signOut | purge | save | find | revoke => exact .refl _

end Fresh

/-- A call that fails, by whichever faults and with whatever fault, changes neither users nor
sessions, but that a session that was asked for and is over may be gone, and only where the fault is
that the session is not valid; and the decoy is as it was, or was not made and is a hash now. Made
again at the same moment without the faults, with new random bytes, the call answers and leaves what
it would have if it had not failed, with the same token to be handed out; and whatever the random
bytes then are, the answer is the same but for the tokens, if the hasher can verify against its own
hashes. -/
theorem take_failed (users : UserStore τ) (hasher : PasswordHasher τ) (csrfKey : CsrfKey)
    (ttl : Duration) (hu : users.IsReadOnly) (hh : hasher.IsReadOnly)
    (faults : Call → Option AuthError) (step : Step) (s s' : State (τ × Registry))
    (error : AuthError)
    (h : ((inMemory users hasher csrfKey ttl faults).take step).perform s = (.error error, s')) :
    let service := ofParts users hasher Registry.store csrfKey ttl
    (error ≠ .invalidSession → s'.world = s.world) ∧
      (error = .invalidSession → s'.world = s.world ∨
        ∃ now token session, step.asks? = some (now, token) ∧
          s.world.2.get? token = some session ∧ session.IsExpiredAt now ∧
          s'.world = (s.world.1, s.world.2.erase token)) ∧
      (∀ draw login, step = .signIn draw login → s'.world = s.world) ∧
      (s'.decoy = s.decoy ∨ s.decoy = none ∧ ∃ draw login hash, step = .signIn draw login ∧
        IsMade hasher draw s.world.1 hash ∧ s'.decoy = some hash) ∧
      (∀ fresh : Draw, ∃ first : Draw, first.token = fresh.token ∧
        (service.take (step.redrawn fresh)).perform s' =
          (service.take (step.redrawn first)).perform s) ∧
      (hasher.VerifiesOwn → ∀ fresh first : Draw,
        SameButTokens ((service.take (step.redrawn fresh)).perform s').1
          ((service.take (step.redrawn first)).perform s).1) := by
  intro service
  have leaves := take_error hu hh h
  have again : ∀ fresh : Draw, ∃ first : Draw, first.token = fresh.token ∧
      (service.take (step.redrawn fresh)).perform s' =
        (service.take (step.redrawn first)).perform s := by
    intro fresh
    cases leaves with
    | same => exact ⟨fresh, rfl, rfl⟩
    | lapsed asked found expired =>
      refine ⟨fresh, rfl, ?_⟩
      rw [Step.redrawn_of_asks asked]
      exact take_again asked ⟨_, found, expired, rfl⟩
    | decoy asked unknown unmade made =>
      rename_i draw login hash
      obtain ⟨_ | kept, world⟩ := s
      · subst asked
        refine ⟨{ fresh with decoy := draw.decoy, salt := draw.salt }, rfl, ?_⟩
        have same : ((inMemory users hasher csrfKey ttl fun _ => none).signIn
            { fresh with now := draw.now } login).perform ⟨some hash, world⟩ = _ :=
          signIn_again hu hh _ made unknown
        rw [Step.redrawn, Step.redrawn, take, take, perform_bind_pure, perform_bind_pure]
        exact congrArg (fun result => (result.1.map Reply.signIn, result.2)) same
      · cases unmade
  refine ⟨fun other => ?_, fun invalid => ?_, ?_, ?_, again, fun own fresh first => ?_⟩
  · cases leaves with
    | same => rfl
    | lapsed => exact absurd rfl other
    | decoy => rfl
  · cases leaves with
    | same => exact .inl rfl
    | lapsed asked found expired => exact .inr ⟨_, _, _, asked, found, expired, rfl⟩
    | decoy => exact .inl rfl
  · rintro draw login rfl
    cases leaves with
    | same => rfl
    | lapsed asked => cases asked
    | decoy => rfl
  · cases leaves with
    | same => exact .inl rfl
    | lapsed => exact .inl rfl
    | decoy asked _ unmade made => exact .inr ⟨unmade, _, _, _, asked, made, rfl⟩
  · obtain ⟨first', -, same⟩ := again fresh
    rw [same]
    exact take_fresh hu hh own first' first step s

section Sample

/-- A fault for every verification. -/
def verifierDown : Call → Option AuthError
  | .verify _ _ => some (.store "down")
  | .findUser _ | .hash _ | .save .. | .find _ | .revoke _ | .purge => none

/-- A sign-in with a name that is not known. -/
def strangerStep : Step := .signIn (sampleDraw 0 1) ⟨"bob", "secret"⟩

def sampleStart : State (Roster × Registry) := ⟨none, .ofCredentials [sampleUser], .empty⟩

/-- The decoy is made and cannot be verified; made again, the sign-in is refused. -/
theorem take_failed_sample :
    Roster.store.IsReadOnly ∧ (plainHasher Roster).IsReadOnly ∧
      (plainHasher Roster).VerifiesOwn ∧
      ∃ s', ((inMemory Roster.store (plainHasher Roster) ⟨[]⟩ (.ofSeconds 10) verifierDown).take
          strangerStep).perform sampleStart = (.error (.store "down"), s') ∧
        s'.decoy.isSome ∧ s'.world = sampleStart.world ∧
        SameButTokens ((sampleService.take (strangerStep.redrawn (sampleDraw 3 2))).perform s').1
          (.ok (.signIn (.rejected .invalid))) := by
  have hu : Roster.store.IsReadOnly := fun _ _ => rfl
  have hh : (plainHasher Roster).IsReadOnly := ⟨fun _ _ _ => rfl, fun _ _ _ => rfl⟩
  have own : (plainHasher Roster).VerifiesOwn := fun _ text _ => ⟨text, rfl, fun _ => ⟨_, rfl⟩⟩
  have fails : ((inMemory Roster.store (plainHasher Roster) ⟨[]⟩ (.ofSeconds 10) verifierDown).take
      strangerStep).perform sampleStart =
      (.error (.store "down"), ⟨some (Hex.encode (.replicate 32 0)), sampleStart.world⟩) := rfl
  obtain ⟨same, -, -, -, -, fresh⟩ := take_failed Roster.store (plainHasher Roster) ⟨[]⟩
    (.ofSeconds 10) hu hh verifierDown strangerStep sampleStart _ _ fails
  exact ⟨hu, hh, own, _, fails, rfl, same (by decide), fresh own (sampleDraw 3 2) (sampleDraw 0 1)⟩

end Sample

end Service

end SignIn
