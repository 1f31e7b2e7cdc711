import SignIn.Http.Visits
import SignIn.Proofs.DecoyCalls
import SignIn.Proofs.Handling
import SignIn.Proofs.History

/-!
# Refusals that are alike

Nobody can tell from a refusal whether there is a user with the name. In any run of calls and
requests it is one and the same response, and it costs one verification (`refusals_cost_the_same`).

The invariant that carries this is that the decoy is made exactly if some name was not known before
(`decoy_cases`): then it is the decoy of the whole run, and only the first unknown name pays for it.
-/

namespace SignIn

open Attempt

namespace Http

open Service

variable {σ : Type} {service : Service σ} {policy : CookiePolicy} {s : Service.State σ}
  {visit : Visit} {draw : Draw} {login : Login}

namespace Visit

/-- The step of the service that a visit makes, if it makes one. -/
def step? : Visit → Option Service.Step
  | .call step => some step
  | .request draw asked => (asked.step draw).toOption

/-- The credentials that a visit presents to sign in. -/
def presents? (visit : Visit) : Option (Draw × Login) :=
  match visit.step? with
  | some (.signIn draw login) => some (draw, login)
  | _ => none

def isRequest : Visit → Bool
  | .call _ => false
  | .request .. => true

/-- The response to what a step gives. -/
def responseTo (policy : CookiePolicy) (result : Except AuthError Reply) : Visit → Response
  | .call _ => .reply result
  | .request .. => .answer (answerTo policy result)

/-- The one response to all credentials that are refused. -/
def refusal : Visit → Response
  | .call _ => .reply (.ok (.signIn (.rejected .invalid)))
  | .request .. => .answer (.failure .invalidCredentials ErrorCode.invalidCredentials.message)

/-- The response to a fault. -/
def fault (error : AuthError) : Visit → Response
  | .call _ => .reply (.error error)
  | .request .. => .answer (.failure (.ofFault error) (ErrorCode.ofFault error).message)

theorem step?_of_presents (h : visit.presents? = some (draw, login)) :
    visit.step? = some (.signIn draw login) := by
  unfold presents? at h
  split at h <;> cases h
  assumption

theorem presents?_request {asked : Request} (signIn : asked.IsFor "POST" "signin")
    (read : Route.readLogin asked = .ok login) :
    (request draw asked).presents? = some (draw, login) := by
  simp only [presents?, step?, Request.step_signIn signIn read, Except.toOption]

theorem respond_request {τ : Type} (service : Service τ) (asked : Request)
    (s : Service.State τ) : ((request draw asked).respond service policy).run s =
      (.answer ((handle service policy draw asked).run s).1,
        ((handle service policy draw asked).run s).2) := rfl

theorem make_of_step {step : Service.Step} (h : visit.step? = some step) :
    visit.make service policy s = ⟨visit, s,
      visit.responseTo policy ((service.take step).perform s).1,
      ((service.recorded.take step).perform ⟨s.decoy, s.world, []⟩).2.world.2,
      ((service.take step).perform s).2⟩ := by
  rcases visit with own | ⟨draw, asked⟩
  · cases h
    rfl
  · have step : asked.step draw = .ok step := by
      rcases hs : asked.step draw with _ | _ <;> simp [step?, hs, Except.toOption] at h
      rw [h]
    simp only [make, respond_request, handle_step step]
    rfl

/-- A request that is refused before it makes a step calls nothing. -/
theorem make_of_none (h : visit.step? = none) : ∃ refusal : Refusal,
    visit.make service policy s = ⟨visit, s, .answer refusal.answer, [], s⟩ := by
  rcases visit with own | ⟨draw, asked⟩
  · cases h
  · rcases refused : asked.step draw with refusal | step
    · refine ⟨refusal, ?_⟩
      simp only [make, respond_request, handle_refused refused]
    · simp [step?, refused, Except.toOption] at h

end Visit

namespace Visited

/-- The calls to the hasher, in order. -/
def toHasher (visited : Visited σ) : List Call := visited.calls.filter Call.isToHasher

/-- No call to the users or the hasher fails. -/
def IsUnfailing (service : Service σ) (visited : Visited σ) : Prop :=
  ∀ draw login, visited.visit.presents? = some (draw, login) →
    service.Unfailing draw login visited.before

/-- Credentials are presented, and nobody is found under their name. -/
def IsUnknown (service : Service σ) (visited : Visited σ) : Prop :=
  ∃ draw login world, visited.visit.presents? = some (draw, login) ∧
    (service.users.find login.username).perform visited.before.world = (.ok none, world)

/-- Credentials are presented, and there is no user with their name, or the user is not active or
has another password. -/
def IsRefused (service : Service σ) (visited : Visited σ) : Prop :=
  ∃ draw login found world, visited.visit.presents? = some (draw, login) ∧
    (service.users.find login.username).perform visited.before.world = (.ok found, world) ∧
    ∀ credential, found = some credential → credential.isActive = false ∨
      ((service.hasher.verify login.password credential.passwordHash).perform world).1 = .ok false

/-- What a visit costs and how it is refused, after others and with one decoy for all. -/
structure Costs (service : Service σ) (decoy : String) (past : List (Visited σ))
    (visited : Visited σ) : Prop where
  /-- Without credentials nothing is hashed or verified. -/
  unasked : visited.visit.presents? = none → visited.toHasher = []
  /-- A known name costs one verification, against the hash of its user. -/
  known : ∀ {draw login credential world}, visited.visit.presents? = some (draw, login) →
    (service.users.find login.username).perform visited.before.world =
      (.ok (some credential), world) →
    visited.toHasher = [.verify login.password credential.passwordHash]
  /-- The first unknown name costs one hash of a new hex text, the decoy, and one verification. -/
  first : ∀ {draw login world}, visited.visit.presents? = some (draw, login) →
    (service.users.find login.username).perform visited.before.world = (.ok none, world) →
    (∀ earlier ∈ past, ¬earlier.IsUnknown service) →
    visited.toHasher = [.hash draw.filler, .verify login.password decoy] ∧
      IsHexToken draw.filler ∧
      ((service.hasher.hash draw.salt draw.filler).perform world).1 = .ok decoy
  /-- Any later one costs one verification, against the same decoy. -/
  later : ∀ {draw login world}, visited.visit.presents? = some (draw, login) →
    (service.users.find login.username).perform visited.before.world = (.ok none, world) →
    (∃ earlier ∈ past, earlier.IsUnknown service) →
    visited.toHasher = [.verify login.password decoy]
  /-- All refusals are alike, also if the password belongs to the decoy. -/
  refused : visited.IsRefused service → visited.response = visited.visit.refusal

end Visited

section Visit

variable {past : List (Visited σ)}

/-- Without credentials nothing is hashed or verified, and the decoy stays as it is. -/
theorem make_unasked (h : visit.presents? = none) :
    (visit.make service policy s).toHasher = [] ∧
      (visit.make service policy s).after.decoy = s.decoy := by
  rcases hs : visit.step? with _ | step
  · obtain ⟨refusal, made⟩ : ∃ refusal : Refusal, visit.make service policy s = _ :=
      Visit.make_of_none hs
    rw [made]
    exact ⟨rfl, rfl⟩
  · have other : ∀ draw login, step ≠ .signIn draw login := by
      rintro draw login rfl
      simp [Visit.presents?, hs] at h
    have kept := (sessionsKeep_recorded service []).take s.decoy other ⟨s.decoy, s.world, []⟩
      ⟨rfl, rfl⟩
    rw [Visit.make_of_step hs]
    exact ⟨kept.2, (decoy_recorded step).symm.trans kept.1⟩

section Presents

variable (h : visit.presents? = some (draw, login))

include h

theorem toHasher_make : (visit.make service policy s).toHasher =
    ((service.recorded.signIn draw login).perform ⟨s.decoy, s.world, []⟩).2.world.2.filter
      Call.isToHasher := by
  rw [Visit.make_of_step (Visit.step?_of_presents h)]
  simp only [Visited.toHasher, Service.take, perform_bind_pure]

theorem decoy_make : (visit.make service policy s).after.decoy =
    ((service.recorded.signIn draw login).perform ⟨s.decoy, s.world, []⟩).2.decoy := by
  rw [Visit.make_of_step (Visit.step?_of_presents h), ← decoy_recorded, Service.take,
    perform_bind_pure]

theorem response_make {reply : SignInAnswer}
    (answered : ((service.signIn draw login).perform s).1 = .ok reply) :
    (visit.make service policy s).response = visit.responseTo policy (.ok (.signIn reply)) := by
  rw [Visit.make_of_step (Visit.step?_of_presents h), Service.take, perform_bind_pure, answered]
  rfl

end Presents

/-- A visit that makes the decoy or finds it made leaves it, and no other visit changes it. -/
theorem decoy_cases (unfailing : (visit.make service policy s).IsUnfailing service) :
    (∀ kept, s.decoy = some kept → (visit.make service policy s).after.decoy = some kept) ∧
      ((visit.make service policy s).after.decoy.isSome ↔
        s.decoy.isSome ∨ (visit.make service policy s).IsUnknown service) := by
  rcases hp : visit.presents? with _ | ⟨draw, login⟩
  · have known : ¬(visit.make service policy s).IsUnknown service := by
      rintro ⟨_, _, _, presents, -⟩
      cases hp.symm.trans presents
    rw [(make_unasked hp).2]
    exact ⟨fun _ => id, by simp [known]⟩
  obtain ⟨found, world, hfind, rest⟩ : service.Unfailing draw login s := unfailing draw login hp
  rw [decoy_make hp]
  rcases found with _ | credential
  · obtain ⟨dummy, kept, -, -, decoy, -⟩ := signIn_unknown_calls hfind rest
    have unknown : (visit.make service policy s).IsUnknown service :=
      ⟨draw, login, world, hp, hfind⟩
    rw [decoy]
    exact ⟨fun other same => by rw [kept other same], by simp [unknown]⟩
  · obtain ⟨isRight, hverify⟩ := rest
    have known : ¬(visit.make service policy s).IsUnknown service := by
      rintro ⟨_, _, _, presents, unknown⟩
      cases hp.symm.trans presents
      cases hfind.symm.trans unknown
    rw [(signIn_known_calls hfind hverify).2]
    exact ⟨fun _ => id, by simp [known]⟩

section Costs

variable (unfailing : (visit.make service policy s).IsUnfailing service)

include unfailing

theorem known_make (hp : visit.presents? = some (draw, login)) {credential : Credential} {world : σ}
    (hfind : (service.users.find login.username).perform s.world = (.ok (some credential), world)) :
    (visit.make service policy s).toHasher =
      [.verify login.password credential.passwordHash] := by
  obtain ⟨found, world', hfind', rest⟩ : service.Unfailing draw login s := unfailing draw login hp
  cases hfind.symm.trans hfind'
  obtain ⟨isRight, hverify⟩ := rest
  rw [toHasher_make hp]
  exact (signIn_known_calls hfind hverify).1

theorem unknown_make (hp : visit.presents? = some (draw, login)) {world : σ}
    (hfind : (service.users.find login.username).perform s.world = (.ok none, world))
    {decoy : String}
    (same : ∀ kept, (visit.make service policy s).after.decoy = some kept → kept = decoy) :
    (s.decoy = none → ((service.hasher.hash draw.salt draw.filler).perform world).1 = .ok decoy) ∧
      (visit.make service policy s).toHasher =
        (s.decoy.elim [.hash draw.filler] fun _ => []) ++ [.verify login.password decoy] := by
  obtain ⟨found, world', hfind', rest⟩ : service.Unfailing draw login s := unfailing draw login hp
  cases hfind.symm.trans hfind'
  obtain ⟨dummy, -, hashed, -, kept, calls⟩ := signIn_unknown_calls hfind rest
  obtain rfl : dummy = decoy := same dummy ((decoy_make hp).trans kept)
  exact ⟨hashed, (toHasher_make hp).trans calls⟩

theorem refused_make (refused : (visit.make service policy s).IsRefused service) :
    (visit.make service policy s).response = visit.refusal := by
  obtain ⟨draw, login, found, world, hp, hfind, wrong⟩ := refused
  change visit.presents? = _ at hp
  obtain ⟨found', world', hfind', rest⟩ : service.Unfailing draw login s := unfailing draw login hp
  cases hfind.symm.trans hfind'
  have answered : ((service.signIn draw login).perform s).1 = .ok (.rejected .invalid) := by
    rcases found with _ | credential
    · obtain ⟨-, -, -, answered, -⟩ := signIn_unknown_calls hfind rest
      exact answered
    · obtain ⟨isRight, hverify⟩ := rest
      refine signIn_refused_alike hfind hverify ?_
      have given := wrong credential rfl
      rwa [hverify, Except.ok.injEq] at given
  rw [response_make hp answered]
  rcases visit with _ | _ <;> rfl

/-- What one visit costs, where the decoy is made exactly if there was an unknown name before. -/
theorem costs_make (made : s.decoy.isSome ↔ ∃ earlier ∈ past, earlier.IsUnknown service)
    {decoy : String}
    (same : ∀ kept, (visit.make service policy s).after.decoy = some kept → kept = decoy) :
    (visit.make service policy s).Costs service decoy past where
  unasked h := (make_unasked h).1
  known hp hfind := known_make unfailing hp hfind
  first {draw login world} hp hfind first := by
    have unmade : s.decoy = none := by
      rw [← Option.not_isSome_iff_eq_none, made]
      exact fun ⟨earlier, member, unknown⟩ => first earlier member unknown
    obtain ⟨hashed, calls⟩ := unknown_make unfailing hp hfind same
    rw [unmade] at calls
    exact ⟨calls, draw.isHexToken_filler, hashed unmade⟩
  later {draw login world} hp hfind later := by
    obtain ⟨kept, some⟩ := Option.isSome_iff_exists.1 (made.2 later)
    obtain ⟨-, calls⟩ := unknown_make unfailing hp hfind same
    rw [some] at calls
    exact calls
  refused := refused_make unfailing

end Costs

end Visit

/-- In a run, every visit costs what it should, with one decoy for all. -/
theorem costs_visitAll : ∀ (past : List (Visited σ)) {visits : List Visit} {s : Service.State σ},
    (∀ visited ∈ visitAll service policy visits s, visited.IsUnfailing service) →
    (s.decoy.isSome ↔ ∃ earlier ∈ past, earlier.IsUnknown service) →
    ∃ decoy, (∀ kept, s.decoy = some kept → kept = decoy) ∧
      ∀ before visited after, visitAll service policy visits s = before ++ visited :: after →
        visited.Costs service decoy (past ++ before)
  | past, [], s, _, _ => by
    refine ⟨s.decoy.getD "", fun kept same => by rw [same]; rfl, fun before visited after h => ?_⟩
    simp [visitAll] at h
  | past, visit :: visits, s, unfailing, made => by
    rw [visitAll, List.forall_mem_cons] at unfailing
    obtain ⟨kept, now⟩ := decoy_cases unfailing.1
    obtain ⟨decoy, same, rest⟩ := costs_visitAll (past ++ [visit.make service policy s])
      unfailing.2 (by
        rw [now, made]
        simp [or_and_right, exists_or])
    refine ⟨decoy, fun hash h => same hash (kept hash h), fun before visited after h => ?_⟩
    rw [visitAll] at h
    rcases before with _ | ⟨first, before⟩
    · cases h
      rw [List.append_nil]
      exact costs_make unfailing.1 made same
    · obtain ⟨rfl, tail⟩ := List.cons.inj h
      simpa using rest before visited after tail

theorem refused_visitAll {visits : List Visit} {world : σ} {visited : Visited σ}
    (unfailing : ∀ visited ∈ visitAll service policy visits (.fresh world),
      visited.IsUnfailing service)
    (member : visited ∈ visitAll service policy visits (.fresh world))
    (refused : visited.IsRefused service) : visited.response = visited.visit.refusal := by
  obtain ⟨decoy, -, costs⟩ := costs_visitAll [] unfailing (by simp [State.fresh])
  obtain ⟨before, after, split⟩ := List.append_of_mem member
  exact (costs before visited after split).refused refused

/-- If the decoy cannot be made, that is the answer, nothing is verified, and no decoy is kept. -/
theorem make_unhashed (presents : visit.presents? = some (draw, login)) {world found failed : σ}
    {error : AuthError}
    (hfind : (service.users.find login.username).perform world = (.ok none, found))
    (hhash : (service.hasher.hash draw.salt draw.filler).perform found = (.error error, failed)) :
    visit.make service policy (.fresh world) = ⟨visit, .fresh world, visit.fault error,
      [.findUser login.username, .hash draw.filler], .fresh failed⟩ := by
  have plain := signIn_unhashed hfind hhash
  have recorded : (service.recorded.signIn draw login).perform ⟨none, world, []⟩ = _ :=
    signIn_unhashed (recorded_findUser hfind) (recorded_hash hhash)
  rw [Visit.make_of_step (Visit.step?_of_presents presents)]
  simp only [Service.take, perform_bind_pure, State.fresh, plain, recorded]
  rcases visit with _ | _ <;> rfl

/-- In a run of calls and requests of any kind, over any users and any hasher, in which no call to
them fails in a sign-in: whoever presents credentials costs exactly one verification of the password
that was presented, against the hash of the user if the name is known and else against a decoy. The
decoy is one and the same in the whole run. It is the hash of a new text of 64 hexadecimal digits,
made for the first unknown name, and nothing else is ever hashed. An unknown name is refused even if
the password belongs to the decoy. Any two who are refused, in any two runs over any two services,
get the very same response: it tells neither why nor by whom.

If the decoy cannot be made, that fault is the response, nothing is verified, and the service is as
it was before the first unknown name. -/
theorem refusals_cost_the_same {σ τ : Type} (service : Service σ) (other : Service τ)
    (policy policy' : CookiePolicy) (visits visits' : List Visit) (world : σ) (world' : τ)
    (unfailing : ∀ visited ∈ visitAll service policy visits (.fresh world),
      visited.IsUnfailing service)
    (unfailing' : ∀ visited ∈ visitAll other policy' visits' (.fresh world'),
      visited.IsUnfailing other) :
    (∃ decoy, ∀ before visited after,
      visitAll service policy visits (.fresh world) = before ++ visited :: after →
        visited.Costs service decoy before) ∧
    (∀ a ∈ visitAll service policy visits (.fresh world),
      ∀ b ∈ visitAll other policy' visits' (.fresh world'),
        a.IsRefused service → b.IsRefused other → a.visit.isRequest = b.visit.isRequest →
          a.response = b.response) ∧
    ∀ (visit : Visit) draw login start found failed error,
      visit.presents? = some (draw, login) →
      (service.users.find login.username).perform start = (.ok none, found) →
      (service.hasher.hash draw.salt draw.filler).perform found = (.error error, failed) →
      visit.make service policy (.fresh start) = ⟨visit, .fresh start, visit.fault error,
        [.findUser login.username, .hash draw.filler], .fresh failed⟩ := by
  refine ⟨?_, fun a ha b hb refused refused' same => ?_,
    fun _ _ _ _ _ _ _ presents hfind hhash => make_unhashed presents hfind hhash⟩
  · obtain ⟨decoy, -, costs⟩ := costs_visitAll [] unfailing (by simp [State.fresh])
    exact ⟨decoy, costs⟩
  · rw [refused_visitAll unfailing ha refused, refused_visitAll unfailing' hb refused']
    rcases ha' : a.visit with _ | _ <;> rcases hb' : b.visit with _ | _ <;>
      rw [ha', hb'] at same <;> first | rfl | cases same

section Sample

/-- A request to sign in. -/
def signInRequest (body : String) : Request :=
  ⟨ascii "POST", ascii "/api/v1/signin", [(ascii "content-length", ascii "39")], ascii body⟩

/-- An unknown name, a wrong password and another unknown name. -/
def sampleVisits : List Visit :=
  [.call (.signIn (sampleDraw 0 1) ⟨"mallory", "secret"⟩),
    .request (sampleDraw 1 2) (signInRequest
      "\x7b\x22username\x22:\x22alice\x22,\x22password\x22:\x22wrong!\x22\x7d"),
    .request (sampleDraw 2 3) (signInRequest
      "\x7b\x22username\x22:\x22mallo\x22,\x22password\x22:\x22secret\x22\x7d")]

def sampleVisited : List (Visited (Roster × Registry)) :=
  visitAll sampleService ⟨false, .ofSeconds 10⟩ sampleVisits
    (.fresh (.ofCredentials [sampleUser], .empty))

/-- A service whose hasher fails. -/
def hashlessService : Service (Roster × Registry) :=
  sampleService.interrupted fun call => if call.isToHasher then some (.internal "no hash") else none

/-- Over a roster and with passwords that are kept as they are, no call fails. -/
theorem unfailing_sample (draw : Draw) (login : Login) (s : Service.State (Roster × Registry)) :
    sampleService.Unfailing draw login s := by
  refine ⟨s.world.1.get? login.username, s.world, rfl, ?_⟩
  rcases s.world.1.get? login.username with _ | credential
  · rcases s with ⟨_ | decoy, world⟩
    · exact ⟨_, _, _, rfl, rfl⟩
    · exact ⟨_, rfl⟩
  · exact ⟨_, rfl⟩

/-- The name that is not known costs a hash only the first time, and a stranger is told what a user
with a wrong password is told. A hasher that fails is asked once, and no decoy is kept. -/
theorem refusals_cost_the_same_sample :
    (∀ visited ∈ sampleVisited, visited.IsUnfailing sampleService) ∧
      (∃ decoy, sampleVisited.map Visited.toHasher =
        [[.hash (sampleDraw 0 1).filler, .verify "secret" decoy], [.verify "wrong!" "secret"],
          [.verify "secret" decoy]]) ∧
      (∃ first second third, sampleVisited = [first, second, third] ∧
        second.response = third.response) ∧
      ((Visit.call (.signIn (sampleDraw 0 1) ⟨"mallory", "secret"⟩)).make hashlessService
        ⟨false, .ofSeconds 10⟩ (.fresh (.empty, .empty))).calls =
          [.findUser "mallory", .hash (sampleDraw 0 1).filler] := by
  have unfailing : ∀ visited ∈ sampleVisited, visited.IsUnfailing sampleService :=
    fun visited _ draw login _ => unfailing_sample draw login visited.before
  obtain ⟨⟨decoy, costs⟩, alike, -⟩ := refusals_cost_the_same sampleService sampleService
    ⟨false, .ofSeconds 10⟩ ⟨false, .ofSeconds 10⟩ sampleVisits sampleVisits
    (.ofCredentials [sampleUser], .empty) (.ofCredentials [sampleUser], .empty) unfailing unfailing
  have wrong : ∀ draw, (Visit.request draw (signInRequest
      "\x7b\x22username\x22:\x22alice\x22,\x22password\x22:\x22wrong!\x22\x7d")).presents? =
      some (draw, ⟨"alice", "wrong!"⟩) := fun draw =>
    Visit.presents?_request (by decide +kernel) (by decide +kernel)
  have unknown : ∀ draw, (Visit.request draw (signInRequest
      "\x7b\x22username\x22:\x22mallo\x22,\x22password\x22:\x22secret\x22\x7d")).presents? =
      some (draw, ⟨"mallo", "secret"⟩) := fun draw =>
    Visit.presents?_request (by decide +kernel) (by decide +kernel)
  have unknownCall : (Visit.call (.signIn (sampleDraw 0 1) ⟨"mallory", "secret"⟩)).presents? =
      some (sampleDraw 0 1, ⟨"mallory", "secret"⟩) := rfl
  have first := (costs [] _ _ rfl).first unknownCall rfl (by simp)
  have second : _ = [Call.verify "wrong!" sampleUser.passwordHash] :=
    (costs [_] _ _ rfl).known (wrong (sampleDraw 1 2)) (Prod.ext (by decide +kernel) rfl)
  have third := (costs [_, _] _ _ rfl).later (unknown (sampleDraw 2 3))
    (Prod.ext (by decide +kernel) rfl) ⟨_, List.mem_cons_self, _, _, _, rfl, rfl⟩
  obtain ⟨-, -, unhashed⟩ := refusals_cost_the_same hashlessService sampleService
    ⟨false, .ofSeconds 10⟩ ⟨false, .ofSeconds 10⟩ [] [] (.empty, .empty) (.empty, .empty)
    (fun _ member => absurd member List.not_mem_nil)
    (fun _ member => absurd member List.not_mem_nil)
  have noDecoy := unhashed (.call (.signIn (sampleDraw 0 1) ⟨"mallory", "secret"⟩)) _ _
    (.empty, .empty) (.empty, .empty) (.empty, .empty) (.internal "no hash") rfl rfl rfl
  refine ⟨unfailing, ⟨decoy, ?_⟩, ⟨_, _, _, rfl, ?_⟩, congrArg Visited.calls noDecoy⟩
  · exact congrArg₂ List.cons first.1 (congrArg₂ List.cons second (congrArg₂ List.cons third rfl))
  · refine alike _ (List.mem_cons_of_mem _ List.mem_cons_self) _
      (List.mem_cons_of_mem _ (List.mem_cons_of_mem _ List.mem_cons_self))
      ⟨_, _, some sampleUser, _, wrong _, Prod.ext (by decide +kernel) rfl, ?_⟩
      ⟨_, _, none, _, unknown _, Prod.ext (by decide +kernel) rfl, by rintro _ ⟨⟩⟩ rfl
    rintro _ ⟨⟩
    exact .inr (by decide +kernel)

end Sample

end Http

end SignIn
