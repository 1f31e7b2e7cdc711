import Mathlib.Data.List.Nodup
import SignIn.Proofs.RegistryCalls
import SignIn.Users.Roster

/-!
# Sessions by their history

Whose session a token names can be told from the history of a run alone: the session was issued,
it was not ended since, and it is not over (`whoIs_iff_history`).

The invariant that carries this (`Recalls`) says that every session in the registry is one that the
history holds, and that every session that the history holds is in the registry or is over at some
clock reading of the run. A session is taken out by purges and by being asked for, but only when it
is over, so a later reading cannot tell the difference.
-/

namespace SignIn

namespace Service

namespace Event

/-- The session that was handed out. -/
def issued? : Event → Option IssuedSession
  | (_, .ok (.signIn (.authenticated issued))) => some issued
  | _ => none

/-- The token whose session was ended. -/
def ended? : Event → Option SessionToken
  | (.signOut _ token _, .ok _) => some token
  | _ => none

end Event

def issuedIn (history : List Event) : List IssuedSession := history.filterMap Event.issued?

def endedIn (history : List Event) : List SessionToken := history.filterMap Event.ended?

/-- A session was handed out under a token, and its end was not asked for since. -/
def Holds (history : List Event) (token : SessionToken) (issued : IssuedSession) : Prop :=
  issued.session = token ∧ ∃ before event after, history = before ++ event :: after ∧
    event.issued? = some issued ∧ ∀ later ∈ after, later.ended? ≠ some token

section History

variable {history : List Event} {event : Event} {token : SessionToken} {issued : IssuedSession}

theorem issuedIn_snoc :
    issuedIn (history ++ [event]) = issuedIn history ++ event.issued?.toList := by
  rcases h : event.issued? with _ | issued <;> simp [issuedIn, h]

theorem mem_endedIn_snoc :
    token ∈ endedIn (history ++ [event]) ↔ token ∈ endedIn history ∨ event.ended? = some token := by
  simp [endedIn, eq_comm]

/-- What is held after one more event was handed out by it, or was held before and is not ended by
it. -/
theorem holds_snoc : Holds (history ++ [event]) token issued ↔
    issued.session = token ∧ event.issued? = some issued ∨
      Holds history token issued ∧ event.ended? ≠ some token := by
  constructor
  · rintro ⟨rfl, before, e, after, split, he, hlater⟩
    rcases after.eq_nil_or_concat with rfl | ⟨init, last, rfl⟩
    · obtain ⟨rfl, same⟩ := List.append_inj' split rfl
      cases same
      exact .inl ⟨rfl, he⟩
    · have split' : history ++ [event] = (before ++ e :: init) ++ [last] := by simpa using split
      obtain ⟨rfl, same⟩ := List.append_inj' split' rfl
      cases same
      refine .inr ⟨⟨rfl, before, e, init, rfl, he, fun l hl => ?_⟩, ?_⟩
      · exact hlater l (by simp [hl])
      · exact hlater event (by simp)
  · rintro (⟨rfl, he⟩ | ⟨⟨rfl, before, e, after, rfl, he, hlater⟩, hended⟩)
    · exact ⟨rfl, history, event, [], rfl, he, by simp⟩
    · refine ⟨rfl, before, e, after ++ [event], by simp, he, fun l hl => ?_⟩
      rcases List.mem_append.1 hl with hl | hl
      · exact hlater l hl
      · rw [List.mem_singleton.1 hl]
        exact hended

theorem Holds.mem_issuedIn (h : Holds history token issued) : issued ∈ issuedIn history := by
  obtain ⟨-, before, event, after, rfl, he, -⟩ := h
  exact List.mem_filterMap.2 ⟨event, by simp, he⟩

/-- A registry after a run is what the history of the run makes of it. -/
structure Recalls (history : List Event) (registry : Registry) : Prop where
  held : ∀ {token session}, registry.get? token = some session →
    ∃ issued, Holds history token issued ∧ issued.info = session.info
  kept : ∀ {token issued}, Holds history token issued →
    (∃ session, registry.get? token = some session ∧ session.info = issued.info) ∨
      ∃ event ∈ history, ∃ now, event.1.now? = some now ∧ issued.expiresAt ≤ now
  ended : ∀ {token}, token ∈ endedIn history →
    token ∈ (issuedIn history).map (·.session) ∧ ∀ issued, ¬Holds history token issued

theorem recalls_nil : Recalls [] .empty where
  held h := by simp at h
  kept h := by simp [Holds] at h
  ended h := by simp [endedIn] at h

/-- An event that hands nothing out and ends nothing leaves the same sessions held. -/
theorem Recalls.lapse {registry after : Registry} {now : Instant} (h : Recalls history registry)
    (hissued : event.issued? = none) (hended : event.ended? = none)
    (hnow : event.1.now? = some now) (hlapse : registry.LapsesTo after now) :
    Recalls (history ++ [event]) after := by
  have same : ∀ token issued,
      Holds (history ++ [event]) token issued ↔ Holds history token issued := by
    intro token issued
    simp [holds_snoc, hissued, hended]
  refine ⟨fun {token session} found => ?_, fun {token issued} held => ?_, fun {token} hend => ?_⟩
  · simp only [same]
    rcases hlapse token with eq | ⟨gone, -⟩
    · exact h.held (eq ▸ found)
    · rw [gone] at found
      cases found
  · rw [same] at held
    -- A session that this event takes out is over at the event's own clock reading.
    rcases h.kept held with ⟨session, found, info⟩ | ⟨e, he, t, ht, expired⟩
    · rcases hlapse token with eq | ⟨-, session', found', expired⟩
      · exact .inl ⟨session, eq ▸ found, info⟩
      · rw [found] at found'
        cases found'
        refine .inr ⟨event, by simp, now, hnow, ?_⟩
        have same : session.expiresAt = issued.expiresAt := congrArg SessionInfo.expiresAt info
        exact same ▸ expired
    · exact .inr ⟨e, List.mem_append_left _ he, t, ht, expired⟩
  · have hend' : token ∈ endedIn history := by simpa [mem_endedIn_snoc, hended] using hend
    obtain ⟨hi, hn⟩ := h.ended hend'
    simp only [same, issuedIn_snoc, hissued]
    exact ⟨by simpa using hi, hn⟩

/-- A session that is handed out under a new token is held from then on. -/
theorem Recalls.issue {registry : Registry} {session : Session} (h : Recalls history registry)
    (hissued : event.issued? = some issued) (hended : event.ended? = none)
    (hinfo : session.info = issued.info)
    (hnew : issued.session ∉ (issuedIn history).map (·.session)) :
    Recalls (history ++ [event]) (registry.put issued.session session) := by
  -- The token was never handed out, so nothing that is held is written over.
  have notHeld : ∀ {other}, ¬Holds history issued.session other := by
    intro other held
    exact hnew (held.1 ▸ List.mem_map_of_mem held.mem_issuedIn)
  refine ⟨fun {token other} found => ?_, fun {token other} held => ?_, fun {token} hend => ?_⟩
  · rw [Table.get?_put] at found
    split_ifs at found with htoken
    · cases found
      exact ⟨issued, holds_snoc.2 (.inl ⟨htoken.symm, hissued⟩), hinfo.symm⟩
    · obtain ⟨i, hi, info⟩ := h.held found
      exact ⟨i, holds_snoc.2 (.inr ⟨hi, by simp [hended]⟩), info⟩
  · rw [Table.get?_put]
    rcases holds_snoc.1 held with ⟨rfl, hother⟩ | ⟨held, -⟩
    · rw [hissued] at hother
      cases hother
      exact .inl ⟨session, by simp, hinfo⟩
    · have htoken : token ≠ issued.session := by
        rintro rfl
        exact notHeld held
      rw [if_neg htoken]
      rcases h.kept held with hkept | ⟨e, he, t, ht, expired⟩
      · exact .inl hkept
      · exact .inr ⟨e, List.mem_append_left _ he, t, ht, expired⟩
  · have hend' : token ∈ endedIn history := by simpa [mem_endedIn_snoc, hended] using hend
    obtain ⟨hi, hn⟩ := h.ended hend'
    refine ⟨?_, fun other held => ?_⟩
    · rw [issuedIn_snoc, List.map_append]
      exact List.mem_append_left _ hi
    · rcases holds_snoc.1 held with ⟨rfl, hother⟩ | ⟨held, -⟩
      · rw [hissued] at hother
        cases hother
        exact hnew hi
      · exact hn other held

/-- A session that is ended is held no longer. -/
theorem Recalls.finish {registry : Registry} {session : Session} (h : Recalls history registry)
    (hissued : event.issued? = none) (hended : event.ended? = some token)
    (found : registry.get? token = some session) :
    Recalls (history ++ [event]) (registry.erase token) := by
  have same : ∀ other issued, Holds (history ++ [event]) other issued ↔
      Holds history other issued ∧ other ≠ token := by
    intro other issued
    simp [holds_snoc, hissued, hended, eq_comm]
  refine ⟨fun {other session} found' => ?_, fun {other issued} held => ?_, fun {other} hend => ?_⟩
  · rw [Table.get?_erase] at found'
    split_ifs at found' with hother
    obtain ⟨i, hi, info⟩ := h.held found'
    exact ⟨i, (same other i).2 ⟨hi, hother⟩, info⟩
  · obtain ⟨held, hother⟩ := (same other issued).1 held
    rw [Table.get?_erase, if_neg hother]
    rcases h.kept held with hkept | ⟨e, he, t, ht, expired⟩
    · exact .inl hkept
    · exact .inr ⟨e, List.mem_append_left _ he, t, ht, expired⟩
  · simp only [same, issuedIn_snoc, hissued, Option.toList_none, List.append_nil]
    rcases mem_endedIn_snoc.1 hend with hend | hend
    · obtain ⟨hi, hn⟩ := h.ended hend
      exact ⟨hi, fun issued held => hn issued held.1⟩
    · rw [hended] at hend
      cases hend
      obtain ⟨i, hi, -⟩ := h.held found
      exact ⟨hi.1 ▸ List.mem_map_of_mem hi.mem_issuedIn, fun issued held => held.2 rfl⟩

end History

section Run

variable {τ : Type} {users : UserStore τ} {hasher : PasswordHasher τ} {csrfKey : CsrfKey}
  {ttl : Duration}

theorem Recalls.take {history : List Event} {s s' : State (τ × Registry)} {step : Step}
    {reply : Except AuthError Reply} (h : Recalls history s.world.2) (hstep : step.isDirect = false)
    (htokens : ((issuedIn (history ++ [(step, reply)])).map (·.session)).Nodup)
    (hs : ((ofParts users hasher Registry.store csrfKey ttl).take step).perform s = (reply, s')) :
    Recalls (history ++ [(step, reply)]) s'.world.2 := by
  rw [← inMemory_none] at hs
  cases step with
  | signIn draw login =>
    rcases hr : ((inMemory users hasher csrfKey ttl fun _ => none).signIn draw login).perform s
      with ⟨result, s₁⟩
    rw [Service.take, Attempt.perform_bind_pure, hr] at hs
    cases hs
    rcases signIn_registry hr with ⟨issued, session, rfl, -, -, hinfo, hput⟩ | ⟨hn, hsame⟩
    · rw [hput]
      refine h.issue rfl rfl hinfo ?_
      rw [issuedIn_snoc, List.map_append] at htokens
      exact fun hi => (List.disjoint_of_nodup_append htokens) hi (List.mem_singleton_self _)
    · rw [hsame]
      refine h.lapse ?_ rfl rfl (.refl _ draw.now)
      rcases result with _ | _ | _
      · rfl
      · exact absurd rfl (hn _)
      · rfl
  | whoIs now token =>
    rcases hr : ((inMemory users hasher csrfKey ttl fun _ => none).whoIs now token).perform s
      with ⟨result, s₁⟩
    rw [Service.take, Attempt.perform_bind_pure, hr] at hs
    cases hs
    rcases whoIs_registry hr with ⟨session, -, -, rfl, hsame⟩ | ⟨error, rfl, hlapse⟩
    · exact h.lapse rfl rfl rfl (hsame ▸ .refl _ now)
    · exact h.lapse rfl rfl rfl hlapse
  | authorize now token csrf =>
    rcases hr : ((inMemory users hasher csrfKey ttl fun _ => none).authorize now token csrf).perform
      s with ⟨result, s₁⟩
    rw [Service.take, Attempt.perform_bind_pure, hr] at hs
    cases hs
    rcases authorize_registry hr with ⟨session, -, -, -, rfl, hsame⟩ | ⟨error, rfl, hlapse⟩
    · exact h.lapse rfl rfl rfl (hsame ▸ .refl _ now)
    · exact h.lapse rfl rfl rfl hlapse
  | signOut now token csrf =>
    rcases hr : ((inMemory users hasher csrfKey ttl fun _ => none).signOut now token csrf).perform s
      with ⟨result, s₁⟩
    rw [Service.take, Attempt.perform_bind_pure, hr] at hs
    cases hs
    rcases signOut_registry hr with ⟨session, found, -, -, rfl, herase⟩ | ⟨error, rfl, hlapse⟩
    · exact herase ▸ h.finish rfl rfl found
    · exact h.lapse rfl rfl rfl hlapse
  | purge now =>
    cases hs
    exact h.lapse rfl rfl rfl (Registry.lapsesTo_live _ now)
  | save | find | revoke => cases hstep

theorem Recalls.run : ∀ (past : List Event) {steps : List Step} {s : State (τ × Registry)},
    Recalls past s.world.2 → (∀ step ∈ steps, step.isDirect = false) →
    ((issuedIn (past ++ ((ofParts users hasher Registry.store csrfKey ttl).run steps s).1)).map
      (·.session)).Nodup →
    Recalls (past ++ ((ofParts users hasher Registry.store csrfKey ttl).run steps s).1)
      ((ofParts users hasher Registry.store csrfKey ttl).run steps s).2.world.2
  | past, [], s, h, _, _ => by simpa [Service.run] using h
  | past, step :: steps, s, h, hsteps, htokens => by
    rcases hs : ((ofParts users hasher Registry.store csrfKey ttl).take step).perform s
      with ⟨reply, s₁⟩
    simp only [Service.run, hs] at htokens ⊢
    rw [List.append_cons] at htokens ⊢
    refine Recalls.run _ ?_ (fun step' h' => hsteps step' (List.mem_cons_of_mem _ h')) htokens
    refine h.take (hsteps step List.mem_cons_self) ?_ hs
    rw [issuedIn, List.filterMap_append, List.map_append] at htokens
    exact htokens.of_append_left

theorem mem_of_mem_run {service : Service τ} {event : Event} : ∀ {steps : List Step} {s : State τ},
    event ∈ (service.run steps s).1 → event.1 ∈ steps
  | [], s, h => by simp [Service.run] at h
  | step :: steps, s, h => by
    simp only [Service.run, List.mem_cons] at h
    rcases h with rfl | h
    · exact List.mem_cons_self
    · exact List.mem_cons_of_mem _ (mem_of_mem_run h)

theorem whoIs_answer {now : Instant} {token : SessionToken} (s : State (τ × Registry)) :
    (((ofParts users hasher Registry.store csrfKey ttl).whoIs now token).perform s).1 =
      match s.world.2.get? token with
      | none => .error .invalidSession
      | some session =>
        if session.IsExpiredAt now then .error .invalidSession else .ok session.info := by
  rw [← inMemory_none, perform_whoIs, perform_find]
  simp only [Option.elim]
  rcases s.world.2.get? token with _ | session
  · rfl
  · dsimp only
    split
    · rw [perform_revoke]
      rfl
    · rfl

/-- Without a fault, a token that names no session that is told is invalid. -/
theorem whoIs_invalid {now : Instant} {token : SessionToken} {s : State (τ × Registry)}
    (h : ∀ info, (((ofParts users hasher Registry.store csrfKey ttl).whoIs now token).perform s).1 ≠
      .ok info) :
    (((ofParts users hasher Registry.store csrfKey ttl).whoIs now token).perform s).1 =
      .error .invalidSession := by
  rw [whoIs_answer] at h ⊢
  split
  · rfl
  · rename_i session found
    by_cases expired : session.IsExpiredAt now
    · rw [if_pos expired]
    · simp only [found, if_neg expired] at h
      exact absurd rfl (h session.info)

theorem Recalls.whoIs_ok {history : List Event} {s : State (τ × Registry)} {now : Instant}
    {token : SessionToken} (h : Recalls history s.world.2)
    (hnow : ∀ event ∈ history, ∀ reading, event.1.now? = some reading → reading ≤ now)
    (info : SessionInfo) :
    (((ofParts users hasher Registry.store csrfKey ttl).whoIs now token).perform s).1 = .ok info ↔
      ∃ issued, Holds history token issued ∧ now < issued.expiresAt ∧ info = issued.info := by
  rw [whoIs_answer]
  constructor
  · intro told
    split at told
    · cases told
    · rename_i session found
      split_ifs at told with expired
      cases told
      obtain ⟨issued, held, hinfo⟩ := h.held found
      refine ⟨issued, held, ?_, hinfo.symm⟩
      have same : issued.expiresAt = session.expiresAt := congrArg SessionInfo.expiresAt hinfo
      rw [same]
      exact Instant.not_le.1 expired
  · rintro ⟨issued, held, hlt, rfl⟩
    rcases h.kept held with ⟨session, found, hinfo⟩ | ⟨event, he, reading, hread, hle⟩
    · have same : session.expiresAt = issued.expiresAt := congrArg SessionInfo.expiresAt hinfo
      rw [found]
      dsimp only
      rw [if_neg, hinfo]
      exact Instant.not_le.2 (same ▸ hlt)
    -- It was over at an earlier reading, so it is over now.
    · have hle' := Instant.le_trans hle (hnow event he reading hread)
      exact absurd hle' (Instant.not_le.2 hlt)

/-- After any run from an empty registry, in which no token is handed out twice, a token names the
session that was handed out under it, as long as that was not ended since and is not yet at its end;
it names none otherwise, and in particular none once the session was ended or has come to its
end. The moment of asking is no earlier than any clock reading of the run. -/
theorem whoIs_iff_history (users : UserStore τ) (hasher : PasswordHasher τ) (csrfKey : CsrfKey)
    (ttl : Duration) (decoy : Option String) (world : τ) (steps : List Step)
    (hsteps : ∀ step ∈ steps, step.isDirect = false)
    (htokens : ((issuedIn ((ofParts users hasher Registry.store csrfKey ttl).run steps
      ⟨decoy, world, .empty⟩).1).map (·.session)).Nodup)
    (token : SessionToken) (now : Instant)
    (hnow : ∀ step ∈ steps, ∀ reading, step.now? = some reading → reading ≤ now) :
    let service := ofParts users hasher Registry.store csrfKey ttl
    let history := (service.run steps ⟨decoy, world, .empty⟩).1
    let answer :=
      ((service.whoIs now token).perform (service.run steps ⟨decoy, world, .empty⟩).2).1
    (∀ info, answer = .ok info ↔
        ∃ issued, Holds history token issued ∧ now < issued.expiresAt ∧ info = issued.info) ∧
      ((¬∃ issued, Holds history token issued ∧ now < issued.expiresAt) →
        answer = .error .invalidSession) ∧
      (token ∈ endedIn history → answer = .error .invalidSession) ∧
      ∀ issued ∈ issuedIn history, issued.session = token → issued.expiresAt ≤ now →
        answer = .error .invalidSession := by
  intro service history answer
  have hr : Recalls history (service.run steps ⟨decoy, world, .empty⟩).2.world.2 :=
    Recalls.run [] recalls_nil hsteps htokens
  have hok : ∀ info, answer = .ok info ↔
      ∃ issued, Holds history token issued ∧ now < issued.expiresAt ∧ info = issued.info :=
    hr.whoIs_ok fun event he => hnow event.1 (mem_of_mem_run he)
  have hno : (¬∃ issued, Holds history token issued ∧ now < issued.expiresAt) →
      answer = .error .invalidSession := by
    intro hn
    refine whoIs_invalid fun info told => hn ?_
    obtain ⟨issued, held, hlt, -⟩ := (hok info).1 told
    exact ⟨issued, held, hlt⟩
  refine ⟨hok, hno, fun hend => hno ?_, fun issued hissued htoken hle => hno ?_⟩
  · rintro ⟨issued, held, -⟩
    exact (hr.ended hend).2 issued held
  -- No other session was handed out under the token, so it names none that is not over.
  · rintro ⟨other, held, hlt⟩
    have same : other = issued :=
      List.inj_on_of_nodup_map htokens held.mem_issuedIn hissued (held.1.trans htoken.symm)
    exact Instant.not_le.2 hlt (same ▸ hle)

end Run

section Sample

def plainHasher (σ : Type) : PasswordHasher σ where
  hash _ password := pure password
  verify password hash := pure (password == hash)

def sampleMoment (second : UInt8) : Instant :=
  have := second.toNat_lt
  ⟨second.toNat, 0, by omega, by omega, by decide⟩

def sampleDraw (now byte : UInt8) : Draw :=
  ⟨sampleMoment now, .replicate 32 byte, .replicate 32 0, .replicate 16 0⟩

def sampleUser : Credential := ⟨⟨.replicate 16 7⟩, "alice", "secret", true, sampleMoment 0⟩

/-- One user, passwords kept as they are, sessions in memory for ten seconds. -/
def sampleService : Service (Roster × Registry) :=
  ofParts Roster.store (plainHasher Roster) Registry.store ⟨[]⟩ (.ofSeconds 10)

/-- Two sign-ins and a purge between the ends of their sessions. -/
def sampleSteps : List Step :=
  [.signIn (sampleDraw 0 1) ⟨"alice", "secret"⟩, .signIn (sampleDraw 5 2) ⟨"alice", "secret"⟩,
    .purge (sampleMoment 12)]

def sampleRun : List Event × State (Roster × Registry) :=
  sampleService.run sampleSteps ⟨none, .ofCredentials [sampleUser], .empty⟩

def sampleIssued (byte ends : UInt8) : IssuedSession :=
  ⟨.ofRandom (.replicate 32 byte), CsrfKey.bind ⟨[]⟩ (.ofRandom (.replicate 32 byte)),
    ⟨.replicate 16 7⟩, "alice", sampleMoment ends⟩

theorem whoIs_iff_history_sample :
    (∀ step ∈ sampleSteps, step.isDirect = false) ∧
      ((issuedIn sampleRun.1).map (·.session)).Nodup ∧
      (∀ step ∈ sampleSteps, ∀ reading, step.now? = some reading → reading ≤ sampleMoment 14) ∧
      ((sampleService.whoIs (sampleMoment 14) (sampleIssued 2 15).session).perform
        sampleRun.2).1 = .ok (sampleIssued 2 15).info ∧
      ((sampleService.whoIs (sampleMoment 14) (sampleIssued 1 10).session).perform
        sampleRun.2).1 = .error .invalidSession := by
  have hsteps : ∀ step ∈ sampleSteps, step.isDirect = false := by decide
  have htokens : ((issuedIn sampleRun.1).map (·.session)).Nodup := by
    change [SessionToken.ofRandom (.replicate 32 1), .ofRandom (.replicate 32 2)].Nodup
    simp only [List.nodup_cons, List.mem_singleton, SessionToken.ofRandom_inj]
    decide
  have hnow : ∀ step ∈ sampleSteps, ∀ reading, step.now? = some reading →
      reading ≤ sampleMoment 14 := by
    simp only [sampleSteps, List.forall_mem_cons, Step.now?, Option.some.injEq, forall_eq']
    decide
  have h := fun token => whoIs_iff_history Roster.store (plainHasher Roster) ⟨[]⟩ (.ofSeconds 10)
    none (.ofCredentials [sampleUser]) sampleSteps hsteps htokens token (sampleMoment 14) hnow
  refine ⟨hsteps, htokens, hnow, ?_, ?_⟩
  · refine ((h _).1 _).2 ⟨sampleIssued 2 15, ⟨rfl, [_], _, [_], rfl, rfl, ?_⟩, by decide, rfl⟩
    simp [Event.ended?]
  · exact (h _).2.2.2 (sampleIssued 1 10) List.mem_cons_self rfl (by decide)

end Sample

end Service

end SignIn
