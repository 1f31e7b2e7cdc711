import SignIn.Proofs.KeptStates
import SignIn.Proofs.RecordedCalls
import SignIn.Server.Startup

/-!
# How long sessions last

The settings accept lengths of sessions that are whole seconds within bounds, and each of these can
be used from every moment from which the longest can be counted (`Service.expiry?_ofSeconds`). So a
sign-in over stores that can be chosen meets faults of the stores and the hasher only
(`Service.failsOnly_signIn`), and the session that it hands out is the one that it saves
(`Service.recorded_signIn`).
-/

namespace SignIn

namespace Instant

theorem add?_ofSeconds {seconds : Nat} (positive : seconds ≠ 0) (t : Instant) :
    t.add? (.ofSeconds seconds) = ofParts? (t.seconds + seconds) (t.nanos % 1000000000) := by
  have carry : ((t.nanos % 1000000000 : Nat) : Int) / 1000000000 = 0 := by omega
  simp only [add?, Duration.ofSeconds, positive, false_and, and_false, if_false, Nat.add_zero,
    carry, Int.add_zero, Nat.mod_mod]

end Instant

namespace Session

/-- A session ends so many seconds after it began. Inside a leap second it counts from the second
before. -/
def Lasts (session : Session) (seconds : Nat) : Prop :=
  session.expiresAt.seconds = session.createdAt.seconds + seconds ∧
    session.expiresAt.nanos = session.createdAt.nanos % 1000000000

end Session

namespace AuthSettings

/-- A time to live is accepted exactly from one second to the longest one, and is then as long as
the settings say. -/
theorem sessionTtl_eq_ok {auth : AuthSettings} {ttl : Duration} :
    auth.sessionTtl = .ok ttl ↔
      (1 ≤ auth.sessionTtlSecs.toNat ∧ auth.sessionTtlSecs.toNat ≤ maxSessionTtlSecs) ∧
        ttl = .ofSeconds auth.sessionTtlSecs.toNat := by
  have zero : auth.sessionTtlSecs = 0 ↔ auth.sessionTtlSecs.toNat = 0 := by
    rw [← UInt64.toNat_inj]
    rfl
  unfold sessionTtl
  split_ifs with none tooLong
  · rw [zero] at none
    simp [none]
  · simp only [false_iff, not_and]
    omega
  · rw [zero] at none
    simp only [Except.ok.injEq]
    constructor
    · rintro rfl
      exact ⟨by omega, rfl⟩
    · exact fun h => h.2.symm

end AuthSettings

namespace Service

open Attempt

/-- A length of whole seconds that the settings accept can be used at every moment from which the
longest one can be counted. -/
theorem expiry?_ofSeconds {seconds : Nat} (positive : 1 ≤ seconds)
    (short : seconds ≤ maxSessionTtlSecs) {now : Instant}
    (roomy : (now.add? (.ofSeconds maxSessionTtlSecs)).isSome) :
    ∃ expiresAt, expiry? (.ofSeconds seconds) now = some expiresAt ∧
      expiresAt.seconds = now.seconds + seconds ∧
      expiresAt.nanos = now.nanos % 1000000000 := by
  have countable : 0 < (Duration.ofSeconds seconds).totalNanos ∧
      (Duration.ofSeconds seconds).totalNanos ≤ Duration.largest.totalNanos := by
    simp only [Duration.totalNanos, Duration.ofSeconds, Duration.largest, maxSessionTtlSecs] at *
    omega
  obtain ⟨last, hlast⟩ := Option.isSome_iff_exists.1 roomy
  rw [Instant.add?_ofSeconds (by decide), Instant.ofParts?_eq_some] at hlast
  have lastLe := last.seconds_le
  have nowGe := now.seconds_ge
  have inRange :
      -8334601228800 ≤ now.seconds + seconds ∧ now.seconds + seconds ≤ 8210266876799 := by
    omega
  have whole : now.nanos % 1000000000 < 1000000000 := Nat.mod_lt _ (by decide)
  refine ⟨⟨now.seconds + seconds, now.nanos % 1000000000, inRange.1, inRange.2, by omega⟩,
    ?_, rfl, rfl⟩
  rw [expiry?, if_pos countable, Instant.add?_ofSeconds (by omega), Instant.ofParts?_eq_some]
  exact ⟨rfl, rfl⟩

/-- Who is given a session costs a search, a verification and an entry into the store of sessions,
in that order, and the entry is the session that is handed out. -/
theorem recorded_signIn {σ : Type} {service : Service σ} {draw : Draw} {login : Login}
    {s s' : State σ} {issued : IssuedSession}
    (h : (service.signIn draw login).perform s = (.ok (.authenticated issued), s')) :
    ∃ (credential : Credential) (expiresAt : Instant), credential.isActive = true ∧
      expiry? service.ttl draw.now = some expiresAt ∧
      issued = ⟨.ofRandom draw.token, service.csrfKey.bind (.ofRandom draw.token),
        credential.userId, credential.username, expiresAt⟩ ∧
      (service.recorded.signIn draw login).perform ⟨s.decoy, s.world, []⟩ =
        (.ok (.authenticated issued), ⟨s'.decoy, s'.world,
          [.findUser login.username, .verify login.password credential.passwordHash,
            .save issued.session
              ⟨credential.userId, credential.username, draw.now, expiresAt⟩
              (ttlSeconds service.ttl)]⟩) := by
  have stops : Stops (fun _ => none) (service.signIn draw login)
      (service.recorded.signIn draw login) := service.stops_signIn draw login
  obtain ⟨made, same, -⟩ := stops s []
  rw [h] at same
  obtain ⟨credential, expiresAt, found, verified, find, verify, active, ends, save, issuedEq⟩ :=
    signIn_authenticated service.recorded same
  refine ⟨credential, expiresAt, active, ends, issuedEq, ?_⟩
  have afterFind : found.2 = [.findUser login.username] := congrArg (·.2.2) find.symm
  have afterVerify : verified.2 = found.2 ++ [.verify login.password credential.passwordHash] :=
    congrArg (·.2.2) verify.symm
  have afterSave : made = verified.2 ++ [.save (.ofRandom draw.token)
      ⟨credential.userId, credential.username, draw.now, expiresAt⟩
      (ttlSeconds service.ttl)] := congrArg (·.2.2) save.symm
  rw [same, afterSave, afterVerify, afterFind, issuedEq]
  rfl

end Service

namespace Attempt

variable {σ τ α β : Type} {P : AuthError → Prop}

/-- Whatever the state, the faults that an attempt can meet are such. -/
def FailsOnly (P : AuthError → Prop) (attempt : Attempt σ α) : Prop :=
  ∀ s error, (attempt.perform s).1 = .error error → P error

theorem FailsOnly.pure (a : α) : FailsOnly P (Pure.pure a : Attempt σ α) := fun _ _ h => nomatch h

theorem FailsOnly.bind {attempt : Attempt σ α} {next : α → Attempt σ β}
    (h : attempt.FailsOnly P) (hn : ∀ a, (next a).FailsOnly P) :
    (attempt >>= next).FailsOnly P := by
  intro s error failed
  have first := h s
  rw [perform_bind] at failed
  generalize attempt.perform s = given at first failed
  rcases given with ⟨_ | a, s'⟩
  · cases failed
    exact first _ rfl
  · exact hn a s' error failed

theorem FailsOnly.within {attempt : Attempt σ α} (h : attempt.FailsOnly P) (part : τ → σ)
    (replace : σ → τ → τ) : (attempt.within part replace).FailsOnly P := fun s => h (part s)

end Attempt

namespace Service

open Attempt

variable {σ : Type} {P : AuthError → Prop} {service : Service σ}

/-- A sign-in meets no other faults than those of the calls that it makes and that of a length of
sessions that cannot be used. -/
theorem failsOnly_signIn {draw : Draw}
    (unusable : expiry? service.ttl draw.now = none → P (unusableTtl service.ttl))
    (findUser : ∀ username, (service.users.find username).FailsOnly P)
    (hash : ∀ salt password, (service.hasher.hash salt password).FailsOnly P)
    (verify : ∀ password hash, (service.hasher.verify password hash).FailsOnly P)
    (save : ∀ token session seconds, (service.sessions.save token session seconds).FailsOnly P)
    (login : Login) : (service.signIn draw login).FailsOnly P := by
  unfold signIn
  refine .bind ((findUser login.username).within _ _) fun found => ?_
  rcases found with _ | credential
  · unfold verifyDecoy theDecoy
    refine .bind (.bind (.bind (fun _ _ h => nomatch h) fun kept => ?_) fun hash => ?_)
      fun _ => .pure _
    · rcases kept with _ | kept
      · exact .bind ((hash _ _).within _ _) fun _ => .bind (fun _ _ h => nomatch h) fun _ => .pure _
      · exact .pure kept
    · exact .bind ((verify login.password hash).within _ _) fun _ => .pure ()
  refine .bind ((verify login.password _).within _ _) fun isRight => ?_
  split
  · refine .bind ?_ fun _ => .pure _
    unfold issue
    rcases ends : expiry? service.ttl draw.now with _ | expiresAt
    · rintro s error ⟨⟩
      exact unusable ends
    · exact .bind ((save _ _ _).within _ _) fun _ => .pure _
  · exact .pure _

/-- A fault that does not come from a length of sessions that cannot be used. -/
def IsOther (error : AuthError) : Prop := ∀ ttl, error ≠ unusableTtl ttl

theorem isOther_store (reason : String) : IsOther (.store reason) := fun _ => nofun

theorem isOther_internal {reason : String} (h : reason.toList.head? ≠ some 'u') :
    IsOther (.internal reason) := by
  rintro ttl same
  refine h ?_
  rw [AuthError.internal.inj same, String.toList_append, List.head?_append]
  rfl

end Service

namespace UserBackend

open Attempt

variable {P : AuthError → Prop}

theorem failsOnly_find [Causes] (ofStore : ∀ reason, P (.store reason)) (username : String) :
    (store.find username).FailsOnly P := by
  rintro (roster | ⟨rows, _ | reason, asked⟩) error failed
  · cases failed
  · change CredentialTable.exact _ username = .error error at failed
    unfold CredentialTable.exact at failed
    split at failed
    · rename_i row _
      unfold CredentialRow.credential at failed
      split at failed <;> cases failed
      exact ofStore _
    · cases failed
  · cases failed
    exact ofStore _

end UserBackend

namespace SessionBackend

open Attempt

theorem failsOnly_save [Causes] {P : AuthError → Prop} (ofStore : ∀ reason, P (.store reason))
    (name : String) (token : SessionToken) (session : Session) (seconds : Nat) :
    ((store name).save token session seconds).FailsOnly P := by
  rintro (registry | ⟨values, forced, received⟩) error failed
  · cases failed
  · rcases forced with _ | (_ | _ | _ | _ | reason) <;> cases failed
    exact ofStore _

end SessionBackend

namespace Argon2

open Attempt

theorem failsOnly_verify [Causes] {P : AuthError → Prop}
    (unread : ∀ cause : String, P (.internal s!"invalid PHC hash: {cause}"))
    (unusable : ∀ cause : String, P (.internal s!"verify error: {cause}")) (cost : HashCost)
    (password hash : String) :
    ((hasher World cost).verify password hash).FailsOnly P := by
  intro s error failed
  change verifyText password hash = .error error at failed
  unfold verifyText at failed
  split at failed
  · cases failed
    exact unread _
  · split at failed
    · split at failed <;> cases failed
      exact unusable _
    · cases failed

end Argon2

end SignIn
