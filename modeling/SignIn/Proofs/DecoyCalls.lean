import SignIn.Proofs.HandedCookies
import SignIn.Proofs.KeptStates
import SignIn.Proofs.RecordedCalls

/-!
# Calls to the hasher

A sign-in with a name that is known verifies the password once, against the hash of the user
(`signIn_known_calls`). With one that is not known it verifies it once too, against the decoy, which
was made before or is made now, and it is refused whatever comes of that (`signIn_unknown_calls`).
The wrong password and an inactive user are refused in the same way (`signIn_refused_alike`).
-/

namespace SignIn

open Attempt

/-- A call to the hasher. -/
def Call.isToHasher : Call → Bool
  | hash _ | verify .. => true
  | findUser _ | save .. | find _ | revoke _ | purge => false

theorem Draw.isHexToken_filler (draw : Draw) : IsHexToken draw.filler :=
  isHexToken_encode (by simp)

namespace Service

variable {σ : Type} {service : Service σ} {draw : Draw} {login : Login} {s : State σ}

/-- No call to the users or the hasher fails in a sign-in. -/
def Unfailing (service : Service σ) (draw : Draw) (login : Login) (s : State σ) : Prop :=
  ∃ found world, (service.users.find login.username).perform s.world = (.ok found, world) ∧
    match found with
    | some credential => ∃ isRight,
      ((service.hasher.verify login.password credential.passwordHash).perform world).1 = .ok isRight
    | none => service.hasher.AnswersDecoy draw login.password world s.decoy

section Recorded

variable {calls : List Call} {world world' : σ}

theorem recorded_findUser {username : String} {result : Except AuthError (Option Credential)}
    (h : (service.users.find username).perform world = (result, world')) :
    (service.recorded.users.find username).perform (world, calls) =
      (result, world', calls ++ [.findUser username]) := by
  simp only [recorded, logging, perform_of, h]

theorem recorded_hash {salt : Vector UInt8 16} {text : String} {result : Except AuthError String}
    (h : (service.hasher.hash salt text).perform world = (result, world')) :
    (service.recorded.hasher.hash salt text).perform (world, calls) =
      (result, world', calls ++ [.hash text]) := by
  simp only [recorded, logging, perform_of, h]

theorem recorded_verify {password hash : String} {result : Except AuthError Bool}
    (h : (service.hasher.verify password hash).perform world = (result, world')) :
    (service.recorded.hasher.verify password hash).perform (world, calls) =
      (result, world', calls ++ [.verify password hash]) := by
  simp only [recorded, logging, perform_of, h]

/-- The store of sessions is never asked to hash. -/
theorem sessionsKeep_recorded (service : Service σ) (calls : List Call) :
    SessionsKeep (fun world => world.2.filter Call.isToHasher = calls) service.recorded where
  save _ _ _ world h := by simpa [recorded, logging, Call.isToHasher] using h
  find _ world h := by simpa [recorded, logging, Call.isToHasher] using h
  revoke _ world h := by simpa [recorded, logging, Call.isToHasher] using h
  purge _ world h := by simpa [recorded, logging, Call.isToHasher] using h

end Recorded

/-- The decoy is the one that was made before, or is made now. -/
theorem theDecoy_ok {dummy : String} {s' : State σ}
    (h : (service.theDecoy draw).perform s = (.ok dummy, s')) :
    s'.decoy = some dummy ∧ (∀ kept, s.decoy = some kept → kept = dummy) ∧
      (s.decoy = none →
        ((service.hasher.hash draw.salt draw.filler).perform s.world).1 = .ok dummy) ∧
      ∀ calls, (service.recorded.theDecoy draw).perform ⟨s.decoy, s.world, calls⟩ =
        (.ok dummy, ⟨some dummy, s'.world,
          calls ++ s.decoy.elim [.hash draw.filler] fun _ => []⟩) := by
  rw [perform_theDecoy] at h
  rcases s with ⟨_ | kept, world⟩
  · dsimp only at h
    rcases made : (service.hasher.hash draw.salt (Hex.encode draw.decoy.toList)).perform world with
      ⟨_ | hash, after⟩ <;> rw [made] at h <;> cases h
    refine ⟨rfl, nofun, fun _ => congrArg Prod.fst made, fun calls => ?_⟩
    rw [perform_theDecoy]
    dsimp only
    rw [recorded_hash made]
    rfl
  · cases h
    refine ⟨rfl, fun _ same => (Option.some.inj same).symm, nofun, fun calls => ?_⟩
    rw [perform_theDecoy]
    simp

/-- The password is verified against the decoy, once. -/
theorem verifyDecoy_ok {password : String}
    (h : ((service.verifyDecoy draw password).perform s).1 = .ok ()) :
    ∃ dummy verified, (∀ kept, s.decoy = some kept → kept = dummy) ∧
      (s.decoy = none →
        ((service.hasher.hash draw.salt draw.filler).perform s.world).1 = .ok dummy) ∧
      (service.verifyDecoy draw password).perform s = (.ok (), ⟨some dummy, verified⟩) ∧
      ∀ calls, (service.recorded.verifyDecoy draw password).perform ⟨s.decoy, s.world, calls⟩ =
        (.ok (), ⟨some dummy, verified, calls ++
          (s.decoy.elim [.hash draw.filler] fun _ => []) ++ [.verify password dummy]⟩) := by
  rw [perform_verifyDecoy] at h ⊢
  rcases made : (service.theDecoy draw).perform s with ⟨_ | dummy, s'⟩ <;> rw [made] at h
  · cases h
  dsimp only at h ⊢
  obtain ⟨decoy, kept, hashed, recorded⟩ := theDecoy_ok made
  rcases verified : (service.hasher.verify password dummy).perform s'.world with ⟨_ | _, world⟩ <;>
    rw [verified] at h
  · cases h
  refine ⟨dummy, world, kept, hashed, by rw [decoy], fun calls => ?_⟩
  rw [perform_verifyDecoy, recorded calls]
  dsimp only
  rw [recorded_verify verified]

/-- A sign-in with a name that is known verifies the password against the hash of the user, once,
and the decoy stays as it is. -/
theorem signIn_known_calls {credential : Credential} {world : σ} {isRight : Bool}
    (hfind : (service.users.find login.username).perform s.world = (.ok (some credential), world))
    (hverify : ((service.hasher.verify login.password credential.passwordHash).perform world).1 =
      .ok isRight) :
    let recorded := ((service.recorded.signIn draw login).perform ⟨s.decoy, s.world, []⟩).2
    recorded.world.2.filter Call.isToHasher = [.verify login.password credential.passwordHash] ∧
      recorded.decoy = s.decoy := by
  obtain ⟨after, verified⟩ : ∃ after, (service.hasher.verify login.password
      credential.passwordHash).perform world = (.ok isRight, after) := ⟨_, Prod.ext hverify rfl⟩
  dsimp only
  rw [perform_signIn, recorded_findUser hfind]
  dsimp only
  rw [recorded_verify verified]
  simp only [List.nil_append, List.cons_append]
  split
  · have kept := (sessionsKeep_recorded service
      [.verify login.password credential.passwordHash]).issue s.decoy draw credential
      ⟨s.decoy, after, [.findUser login.username,
        .verify login.password credential.passwordHash]⟩ ⟨rfl, rfl⟩
    generalize (service.recorded.issue draw credential).perform _ = issued at kept ⊢
    rcases issued with ⟨_ | _, s'⟩ <;> exact ⟨kept.2, kept.1⟩
  · exact ⟨rfl, rfl⟩

/-- A sign-in with a name that is not known is refused, whether or not the password belongs to the
decoy, and verifies the password against the decoy, once. -/
theorem signIn_unknown_calls {world : σ}
    (hfind : (service.users.find login.username).perform s.world = (.ok none, world))
    (hdecoy : service.hasher.AnswersDecoy draw login.password world s.decoy) :
    ∃ dummy, (∀ kept, s.decoy = some kept → kept = dummy) ∧
      (s.decoy = none → ((service.hasher.hash draw.salt draw.filler).perform world).1 = .ok dummy) ∧
      ((service.signIn draw login).perform s).1 = .ok (.rejected .invalid) ∧
      let recorded := ((service.recorded.signIn draw login).perform ⟨s.decoy, s.world, []⟩).2
      recorded.decoy = some dummy ∧ recorded.world.2.filter Call.isToHasher =
        (s.decoy.elim [.hash draw.filler] fun _ => []) ++ [.verify login.password dummy] := by
  obtain ⟨dummy, verified, kept, hashed, called, recorded⟩ :=
    verifyDecoy_ok (service.verifyDecoy_answers ⟨s.decoy, world⟩ hdecoy)
  refine ⟨dummy, kept, hashed, ?_, ?_⟩
  · rw [perform_signIn, hfind]
    dsimp only
    rw [called]
  · rw [perform_signIn, recorded_findUser hfind]
    dsimp only
    rw [recorded]
    refine ⟨rfl, ?_⟩
    rcases s.decoy with _ | hash <;> rfl

/-- The wrong password and an inactive user are refused alike. -/
theorem signIn_refused_alike {credential : Credential} {world : σ} {isRight : Bool}
    (hfind : (service.users.find login.username).perform s.world = (.ok (some credential), world))
    (hverify : ((service.hasher.verify login.password credential.passwordHash).perform world).1 =
      .ok isRight) (refused : credential.isActive = false ∨ isRight = false) :
    ((service.signIn draw login).perform s).1 = .ok (.rejected .invalid) := by
  obtain ⟨after, verified⟩ : ∃ after, (service.hasher.verify login.password
      credential.passwordHash).perform world = (.ok isRight, after) := ⟨_, Prod.ext hverify rfl⟩
  rw [perform_signIn, hfind]
  dsimp only
  rw [verified]
  dsimp only
  rw [if_neg (by grind)]

/-- If the decoy cannot be made, that is the answer, and no decoy is kept. -/
theorem signIn_unhashed {world found failed : σ} {error : AuthError}
    (hfind : (service.users.find login.username).perform world = (.ok none, found))
    (hhash : (service.hasher.hash draw.salt draw.filler).perform found = (.error error, failed)) :
    (service.signIn draw login).perform ⟨none, world⟩ = (.error error, ⟨none, failed⟩) := by
  rw [Draw.filler] at hhash
  rw [perform_signIn, hfind]
  dsimp only
  rw [perform_verifyDecoy, perform_theDecoy]
  dsimp only
  rw [hhash]

theorem decoy_recorded (step : Step) :
    ((service.recorded.take step).perform ⟨s.decoy, s.world, []⟩).2.decoy =
      ((service.take step).perform s).2.decoy := by
  have stops : Stops (fun _ => none) (service.take step) (service.recorded.take step) :=
    service.perform_recorded step
  obtain ⟨made, same, -⟩ := stops s []
  rw [same]

end Service

end SignIn
