import SignIn.Proofs.Agreement
import SignIn.Proofs.History

/-!
# Purges that nobody sees

A purge takes out what is over and nothing else (`Service.perform_purge`), and what is over is never
told again. So two registries that have the same sessions that are not over (`Registry.SameLive`)
stay so as time goes on, and the service answers the same over either of them: purges can be put
anywhere into a run, or left out, and no other answer changes (`Service.run_purges`).
-/

namespace SignIn

namespace Instant

/-- There is a first moment of all. -/
theorem exists_le : ∃ first : Instant, ∀ t, first ≤ t := by
  refine ⟨⟨-8334601228800, 0, by omega, by omega, by omega⟩, fun t => ?_⟩
  have := t.seconds_ge
  simp only [le_def]
  omega

end Instant

namespace Registry

/-- The same sessions that are not over at a moment. -/
def SameLive (now : Instant) (a b : Registry) : Prop :=
  ∀ token, (a.live now).get? token = (b.live now).get? token

variable {a b c : Registry} {now later : Instant}

theorem SameLive.refl (now : Instant) (a : Registry) : SameLive now a a := fun _ => rfl

theorem SameLive.symm (h : SameLive now a b) : SameLive now b a := fun token => (h token).symm

theorem SameLive.trans (h : SameLive now a b) (k : SameLive now b c) : SameLive now a c :=
  fun token => (h token).trans (k token)

section Live

variable {token : SessionToken} {session : Session}

theorem get?_live_of_none (absent : a.get? token = none) : (a.live now).get? token = none := by
  rw [get?_live, absent]
  rfl

theorem get?_live_of_over (found : a.get? token = some session)
    (expired : session.IsExpiredAt now) : (a.live now).get? token = none := by
  rw [get?_live, found, Option.filter_some, if_neg (by simpa using expired)]

theorem get?_live_of_live (found : a.get? token = some session)
    (live : ¬session.IsExpiredAt now) : (a.live now).get? token = some session := by
  rw [get?_live, found, Option.filter_some, if_pos (by simpa using live)]

theorem get?_live_eq_some :
    (a.live now).get? token = some session ↔
      a.get? token = some session ∧ ¬session.IsExpiredAt now := by
  rw [get?_live, Option.filter_eq_some_iff, decide_eq_true_eq]

/-- What is not over later is not over now. -/
theorem get?_live_live (h : now ≤ later) (a : Registry) (token : SessionToken) :
    ((a.live now).live later).get? token = (a.live later).get? token := by
  rcases found : a.get? token with _ | session
  · rw [get?_live_of_none found, get?_live_of_none (get?_live_of_none found)]
  · by_cases expired : session.IsExpiredAt now
    · have expiredLater : session.IsExpiredAt later := Instant.le_trans expired h
      rw [get?_live_of_over found expiredLater, get?_live_of_none (get?_live_of_over found expired)]
    · rw [get?_live, get?_live_of_live found expired, get?_live _ later, found]

end Live

theorem SameLive.mono (h : SameLive now a b) (le : now ≤ later) : SameLive later a b := by
  intro token
  rw [← get?_live_live le a, ← get?_live_live le b, get?_live, get?_live _ later, h token]

theorem sameLive_live (now : Instant) (a : Registry) : SameLive now (a.live now) a :=
  get?_live_live (.inr ⟨rfl, Nat.le_refl _⟩) a

theorem SameLive.put (h : SameLive now a b) (token : SessionToken) (session : Session) :
    SameLive now (a.put token session) (b.put token session) := by
  intro other
  have same := h other
  simp only [get?_live, Table.get?_put] at same ⊢
  split
  · rfl
  · exact same

theorem SameLive.erase (h : SameLive now a b) (token : SessionToken) :
    SameLive now (a.erase token) (b.erase token) := by
  intro other
  have same := h other
  simp only [get?_live, Table.get?_erase] at same ⊢
  split
  · rfl
  · exact same

theorem sameLive_erase {token : SessionToken} {session : Session}
    (found : a.get? token = some session) (expired : session.IsExpiredAt now) :
    SameLive now (a.erase token) a := by
  intro other
  by_cases same : other = token
  · subst same
    have gone : (a.erase other).get? other = none := by rw [Table.get?_erase, if_pos rfl]
    rw [get?_live_of_none gone, get?_live_of_over found expired]
  · rw [get?_live, Table.get?_erase, if_neg same, get?_live]

end Registry

namespace Service

open Attempt Registry

variable {τ : Type} {users : UserStore τ} {hasher : PasswordHasher τ} {csrfKey : CsrfKey}
  {ttl : Duration} {now : Instant} {token : SessionToken} {csrf : CsrfToken}

/-- The same decoy, the same users, and the same sessions that are not over. -/
def SameLiveStates (now : Instant) : State (τ × Registry) → State (τ × Registry) → Prop :=
  StatesAgree (Both Eq (SameLive now))

/-- Who asks for a token is told of a session that is not over, and of no other, and all such
sessions stay. -/
theorem whoIs_live (s : State (τ × Registry)) :
    ∃ after, ((ofParts users hasher Registry.store csrfKey ttl).whoIs now token).perform s =
        (((s.world.2.live now).get? token).elim (.error .invalidSession) fun session =>
            .ok session.info, ⟨s.decoy, s.world.1, after⟩) ∧
      SameLive now after s.world.2 := by
  rw [← inMemory_none, perform_whoIs, perform_find]
  simp only [Option.elim]
  rcases found : s.world.2.get? token with _ | session
  · rw [get?_live_of_none found]
    exact ⟨_, rfl, .refl _ _⟩
  · by_cases expired : session.IsExpiredAt now
    · rw [get?_live_of_over found expired]
      simp only [if_pos expired, perform_revoke, Option.elim]
      exact ⟨_, rfl, sameLive_erase found expired⟩
    · rw [get?_live_of_live found expired]
      simp only [if_neg expired]
      exact ⟨_, rfl, .refl _ _⟩

theorem agree_whoIs_live (now : Instant) (token : SessionToken) :
    Attempt.Agree (SameLiveStates now)
      ((ofParts users hasher Registry.store csrfKey ttl).whoIs now token)
      ((ofParts users hasher Registry.store csrfKey ttl).whoIs now token) := by
  rintro s t ⟨decoy, sameUsers, sessions⟩
  obtain ⟨after, told, kept⟩ : ∃ after,
      ((ofParts users hasher Registry.store csrfKey ttl).whoIs now token).perform s = _ ∧
        SameLive now after s.world.2 := whoIs_live s
  obtain ⟨after', told', kept'⟩ : ∃ after,
      ((ofParts users hasher Registry.store csrfKey ttl).whoIs now token).perform t = _ ∧
        SameLive now after t.world.2 := whoIs_live t
  rw [told, told', sessions token]
  exact ⟨rfl, decoy, sameUsers, (kept.trans sessions).trans kept'.symm⟩

theorem agree_signIn_live (now : Instant) :
    AgreeOnSignIn (Both Eq (SameLive now)) (ofParts users hasher Registry.store csrfKey ttl)
      (ofParts users hasher Registry.store csrfKey ttl) where
  csrfKey := rfl
  ttl := rfl
  findUser _ := .first (.refl _)
  hash _ _ := .first (.refl _)
  verify _ _ := .first (.refl _)
  save token session _ := .second fun _ _ same => ⟨rfl, same.put token session⟩

theorem agree_signOut_live (now : Instant) (token : SessionToken) (csrf : CsrfToken) :
    Attempt.Agree (SameLiveStates now)
      ((ofParts users hasher Registry.store csrfKey ttl).signOut now token csrf)
      ((ofParts users hasher Registry.store csrfKey ttl).signOut now token csrf) :=
  .bind ((agree_signIn_live now).authorize (agree_whoIs_live now token) csrf)
    fun _ _ _ states => ⟨rfl, states.1, states.2.1, states.2.2.erase token⟩

namespace Step

/-- Whether a step looks into the store itself, past the service. -/
def looksInside : Step → Bool
  | find _ | revoke _ => true
  | signIn .. | whoIs .. | authorize .. | signOut .. | purge _ | save .. => false

/-- The clock readings of steps, in order. -/
def readings (steps : List Step) : List Instant := steps.filterMap now?

/-- The steps without the purges among them. -/
def unpurged (steps : List Step) : List Step := steps.filter fun step => !step.isPurge

end Step

/-- The history without the purges in it. -/
def unpurged (history : List Event) : List Event := history.filter fun event => !event.1.isPurge

/-- At the moment of a step, no answer but that of a purge depends on what is over. -/
theorem agree_take_live {step : Step} (hpurge : step.isPurge = false)
    (hinside : step.looksInside = false)
    (hnow : ∀ reading, step.now? = some reading → reading = now) :
    Attempt.Agree (SameLiveStates now) ((ofParts users hasher Registry.store csrfKey ttl).take step)
      ((ofParts users hasher Registry.store csrfKey ttl).take step) := by
  cases step with
  | signIn draw login => exact .bind ((agree_signIn_live now).signIn draw login) fun _ => .pure _
  | whoIs reading token =>
    obtain rfl := hnow reading rfl
    exact .bind (agree_whoIs_live reading token) fun _ => .pure _
  | authorize reading token csrf =>
    obtain rfl := hnow reading rfl
    exact .bind ((agree_signIn_live reading).authorize (agree_whoIs_live reading token) csrf)
      fun _ => .pure _
  | signOut reading token csrf =>
    obtain rfl := hnow reading rfl
    exact .bind (agree_signOut_live reading token csrf) fun _ => .pure _
  | purge => cases hpurge
  | save token session seconds =>
    exact .bind (agree_onWorld ((agree_signIn_live now).save token session seconds))
      fun _ => .pure _
  | find | revoke => cases hinside

theorem SameLiveStates.mono {later : Instant} {s t : State (τ × Registry)}
    (h : SameLiveStates now s t) (le : now ≤ later) : SameLiveStates later s t :=
  ⟨h.1, h.2.1, h.2.2.mono le⟩

theorem perform_purge (s : State (τ × Registry)) :
    ((ofParts users hasher Registry.store csrfKey ttl).take (.purge now)).perform s =
      (.ok (.purged (s.world.2.size - (s.world.2.live now).size)),
        ⟨s.decoy, s.world.1, s.world.2.live now⟩) := rfl

/-- A purge takes out as many sessions as are over. -/
theorem size_sub_size_live (registry : Registry) (now : Instant) :
    registry.size - (registry.live now).size =
      (registry.entries.filter fun entry => entry.2.IsExpiredAt now).length := by
  have split := List.length_eq_length_filter_add (l := registry.entries)
    fun entry => decide (entry.2.IsExpiredAt now)
  have live : (registry.live now).size =
      (registry.entries.filter fun entry => !decide (entry.2.IsExpiredAt now)).length := by
    simp [Table.size, Registry.live, Table.filter]
  rw [live, Table.size, split]
  omega

/-- The clock goes on to the moment of the first step, or stands still if that reads none. -/
theorem moment_of_step {step : Step} {steps : List Step}
    (hclock : (now :: Step.readings (step :: steps)).Pairwise (· ≤ ·)) :
    ∃ moment, now ≤ moment ∧ (∀ reading, step.now? = some reading → reading = moment) ∧
      (moment :: Step.readings steps).Pairwise (· ≤ ·) := by
  rw [Step.readings, List.filterMap_cons] at hclock
  rcases hr : step.now? with _ | reading
  · rw [hr] at hclock
    exact ⟨now, .inr ⟨rfl, Nat.le_refl _⟩, by simp, hclock⟩
  · rw [hr, List.pairwise_cons] at hclock
    exact ⟨reading, hclock.1 reading List.mem_cons_self, fun _ same => (Option.some.inj same).symm,
      hclock.2⟩

theorem looksInside_of_unpurged {steps : List Step}
    (h : ∀ step ∈ Step.unpurged steps, step.looksInside = false) :
    ∀ step ∈ steps, step.looksInside = false := by
  intro step hs
  rcases hpurge : step.isPurge with _ | _
  · exact h step (List.mem_filter.2 ⟨hs, by simp [hpurge]⟩)
  · cases step with
    | purge => rfl
    | signIn | whoIs | authorize | signOut | save | find | revoke => cases hpurge

/-- Without its purges, a run answers the same. -/
theorem run_unpurged : ∀ {steps : List Step} {now : Instant} {s t : State (τ × Registry)},
    (∀ step ∈ steps, step.looksInside = false) →
    (now :: Step.readings steps).Pairwise (· ≤ ·) → SameLiveStates now s t →
    unpurged ((ofParts users hasher Registry.store csrfKey ttl).run steps s).1 =
      ((ofParts users hasher Registry.store csrfKey ttl).run (Step.unpurged steps) t).1
  | [], _, _, _, _, _, _ => rfl
  | step :: steps, now, s, t, hinside, hclock, states => by
    rw [List.forall_mem_cons] at hinside
    obtain ⟨moment, le, hnow, hclock⟩ := moment_of_step hclock
    have states := states.mono le
    rcases hpurge : step.isPurge with _ | _
    · have agree : Attempt.Agree (SameLiveStates moment)
          ((ofParts users hasher Registry.store csrfKey ttl).take step)
          ((ofParts users hasher Registry.store csrfKey ttl).take step) :=
        agree_take_live hpurge hinside.1 hnow
      obtain ⟨answer, next⟩ := agree states
      have later := run_unpurged hinside.2 hclock next
      have kept : Step.unpurged (step :: steps) = step :: Step.unpurged steps := by
        rw [Step.unpurged, List.filter_cons_of_pos (by simp [hpurge]), Step.unpurged]
      rw [kept, run, run, unpurged, List.filter_cons_of_pos (by simp [hpurge]), answer]
      exact congrArg _ later
    · cases step with
      | purge reading =>
        obtain rfl := hnow reading rfl
        have purged : SameLiveStates reading ⟨s.decoy, s.world.1, s.world.2.live reading⟩ t :=
          ⟨states.1, states.2.1, (sameLive_live reading s.world.2).trans states.2.2⟩
        have later : unpurged ((ofParts users hasher Registry.store csrfKey ttl).run steps
            ⟨s.decoy, s.world.1, s.world.2.live reading⟩).1 = _ :=
          run_unpurged hinside.2 hclock purged
        exact later
      | signIn | whoIs | authorize | signOut | save | find | revoke => cases hpurge

/-- Put purges anywhere into a run over sessions in memory, or leave them out: as long as the clock
never goes back and no step looks into the store past the service, all other steps answer the same.
A purge takes out exactly what is over, leaves all else as it is, and counts what it takes out. -/
theorem run_purges (users : UserStore τ) (hasher : PasswordHasher τ) (csrfKey : CsrfKey)
    (ttl : Duration) (steps steps' : List Step) (s : State (τ × Registry))
    (same : Step.unpurged steps = Step.unpurged steps')
    (hinside : ∀ step ∈ Step.unpurged steps, step.looksInside = false)
    (hclock : (Step.readings steps).Pairwise (· ≤ ·))
    (hclock' : (Step.readings steps').Pairwise (· ≤ ·)) :
    let service := ofParts users hasher Registry.store csrfKey ttl
    unpurged (service.run steps s).1 = unpurged (service.run steps' s).1 ∧
      ∀ now (s : State (τ × Registry)), ∃ count after,
        (service.take (.purge now)).perform s =
          (.ok (.purged count), ⟨s.decoy, s.world.1, after⟩) ∧
        count = (s.world.2.entries.filter fun entry => entry.2.IsExpiredAt now).length ∧
        ∀ token session, after.get? token = some session ↔
          s.world.2.get? token = some session ∧ ¬session.IsExpiredAt now := by
  intro service
  obtain ⟨first, hfirst⟩ := Instant.exists_le
  have alone (steps : List Step) (hinside : ∀ step ∈ Step.unpurged steps, step.looksInside = false)
      (hclock : (Step.readings steps).Pairwise (· ≤ ·)) :
      unpurged (service.run steps s).1 = (service.run (Step.unpurged steps) s).1 :=
    run_unpurged (looksInside_of_unpurged hinside)
      (List.pairwise_cons.2 ⟨fun reading _ => hfirst reading, hclock⟩)
      ⟨rfl, rfl, .refl _ _⟩
  refine ⟨?_, fun now s => ⟨_, _, perform_purge s, size_sub_size_live s.world.2 now,
    fun token session => get?_live_eq_some⟩⟩
  rw [alone steps hinside hclock, alone steps' (same ▸ hinside) hclock', same]

section Sample

/-- A session that is over after three seconds. -/
def shortSession : Session := ⟨⟨.replicate 16 7⟩, "alice", sampleMoment 0, sampleMoment 3⟩

/-- Two sign-ins, a session that is put in past the service, and three questions. -/
def unsweptSteps : List Step :=
  [.signIn (sampleDraw 0 1) ⟨"alice", "secret"⟩, .save ⟨"a"⟩ shortSession 3,
    .signIn (sampleDraw 5 2) ⟨"alice", "secret"⟩, .whoIs (sampleMoment 12) ⟨"a"⟩,
    .whoIs (sampleMoment 12) (sampleIssued 1 10).session,
    .whoIs (sampleMoment 12) (sampleIssued 2 15).session]

/-- The same steps with two purges between them. -/
def sweptSteps : List Step :=
  unsweptSteps.take 3 ++ .purge (sampleMoment 11) :: (unsweptSteps.drop 3).take 2 ++
    .purge (sampleMoment 12) :: unsweptSteps.drop 5

/-- The first purge takes out the session of the first sign-in and the one that was put in, and the
questions are answered as if they were still there. -/
theorem run_purges_sample :
    Step.unpurged sweptSteps = Step.unpurged unsweptSteps ∧
      (∀ step ∈ Step.unpurged sweptSteps, step.looksInside = false) ∧
      (Step.readings sweptSteps).Pairwise (· ≤ ·) ∧ (Step.readings unsweptSteps).Pairwise (· ≤ ·) ∧
      (unpurged (sampleService.run sweptSteps ⟨none, .ofCredentials [sampleUser], .empty⟩).1).map
          Prod.snd =
        [.ok (.signIn (.authenticated (sampleIssued 1 10))), .ok .done,
          .ok (.signIn (.authenticated (sampleIssued 2 15))), .error .invalidSession,
          .error .invalidSession, .ok (.info (sampleIssued 2 15).info)] ∧
      ((sampleService.take (.purge (sampleMoment 11))).perform
        (sampleService.run (unsweptSteps.take 3) ⟨none, .ofCredentials [sampleUser], .empty⟩).2).1 =
          .ok (.purged 2) := by
  have same : Step.unpurged sweptSteps = Step.unpurged unsweptSteps := rfl
  have hinside : ∀ step ∈ Step.unpurged sweptSteps, step.looksInside = false := by decide
  have hclock : (Step.readings sweptSteps).Pairwise (· ≤ ·) := by decide
  have hclock' : (Step.readings unsweptSteps).Pairwise (· ≤ ·) := by decide
  obtain ⟨answers, purges⟩ := run_purges Roster.store (plainHasher Roster) ⟨[]⟩ (.ofSeconds 10)
    sweptSteps unsweptSteps ⟨none, .ofCredentials [sampleUser], .empty⟩ same hinside hclock hclock'
  refine ⟨same, hinside, hclock, hclock', ?_, ?_⟩
  · exact (congrArg (List.map Prod.snd) answers).trans rfl
  · obtain ⟨count, after, purged, counted, -⟩ := purges (sampleMoment 11) (sampleService.run
      (unsweptSteps.take 3) ⟨none, .ofCredentials [sampleUser], .empty⟩).2
    have two : count = 2 := counted.trans rfl
    exact congrArg Prod.fst (two ▸ purged)

end Sample

end Service

end SignIn
