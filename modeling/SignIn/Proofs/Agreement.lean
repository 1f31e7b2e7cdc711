import SignIn.Proofs.Calls

/-!
# Services that agree

Two attempts on different states agree when they answer the same from states that match and leave
states that match (`Attempt.Agree`). Attempts made of parts that agree agree, so two services agree
as soon as their calls do (`Service.Agree.take`), and so do all their runs (`Service.Agree.run`).
Over the same users and the same hasher that is so if their stores of sessions agree, as long as
nothing is purged (`agree_run`).
-/

namespace SignIn

namespace Attempt

variable {σ τ σ' τ' α β : Type} {Match : σ → τ → Prop}

/-- From states that match, the same answer and states that match. -/
def Agree (Match : σ → τ → Prop) (a : Attempt σ α) (b : Attempt τ α) : Prop :=
  ∀ ⦃s t⦄, Match s t →
    (a.perform s).1 = (b.perform t).1 ∧ Match (a.perform s).2 (b.perform t).2

theorem Agree.refl (attempt : Attempt σ α) : Agree Eq attempt attempt := by
  rintro s _ rfl
  exact ⟨rfl, rfl⟩

theorem Agree.pure (a : α) : Agree Match (Pure.pure a) (Pure.pure a) := fun _ _ h => ⟨rfl, h⟩

theorem Agree.fail (error : AuthError) :
    Agree Match (fail error : Attempt σ α) (fail error : Attempt τ α) := fun _ _ h => ⟨rfl, h⟩

theorem Agree.bind {a : Attempt σ α} {b : Attempt τ α} {next : α → Attempt σ β}
    {next' : α → Attempt τ β} (h : Agree Match a b) (hn : ∀ x, Agree Match (next x) (next' x)) :
    Agree Match (a >>= next) (b >>= next') := by
  intro s t match'
  obtain ⟨same, match''⟩ := h match'
  rw [perform_bind, perform_bind]
  rcases ha : a.perform s with ⟨result, s'⟩
  rcases hb : b.perform t with ⟨result', t'⟩
  rw [ha, hb] at same match''
  dsimp only at same match''
  subst same
  rcases result with error | x
  · exact ⟨rfl, match''⟩
  · exact hn x match''

/-- Two parts that match, each in its own way. -/
def Both (Match : σ → σ' → Prop) (Match' : τ → τ' → Prop) (s : σ × τ) (t : σ' × τ') : Prop :=
  Match s.1 t.1 ∧ Match' s.2 t.2

section Parts

variable {MatchFst : σ → σ' → Prop} {MatchSnd : τ → τ' → Prop}

theorem Agree.first {a : Attempt σ α} {b : Attempt σ' α} (h : Agree MatchFst a b) :
    Agree (Both MatchFst MatchSnd) (a.within Prod.fst fun part (state : σ × τ) => (part, state.2))
      (b.within Prod.fst fun part (state : σ' × τ') => (part, state.2)) :=
  fun _ _ both => ⟨(h both.1).1, (h both.1).2, both.2⟩

theorem Agree.second {a : Attempt τ α} {b : Attempt τ' α} (h : Agree MatchSnd a b) :
    Agree (Both MatchFst MatchSnd) (a.within Prod.snd fun part (state : σ × τ) => (state.1, part))
      (b.within Prod.snd fun part (state : σ' × τ') => (state.1, part)) :=
  fun _ _ both => ⟨(h both.2).1, both.1, (h both.2).2⟩

end Parts

end Attempt

namespace SessionStore

variable {ρ ρ' : Type}

/-- Two stores of sessions agree on all that they do for the service. -/
structure Agree (Match : ρ → ρ' → Prop) (a : SessionStore ρ) (b : SessionStore ρ') : Prop where
  save : ∀ token session seconds,
    Attempt.Agree Match (a.save token session seconds) (b.save token session seconds)
  find : ∀ token, Attempt.Agree Match (a.find token) (b.find token)
  revoke : ∀ token, Attempt.Agree Match (a.revoke token) (b.revoke token)

end SessionStore

namespace Service

open Attempt

variable {σ τ α : Type} {Match : σ → τ → Prop}

/-- The same decoy, and what the services work with matches. -/
def StatesAgree (Match : σ → τ → Prop) (s : State σ) (t : State τ) : Prop :=
  s.decoy = t.decoy ∧ Match s.world t.world

/-- Two services agree on all that a sign-in takes. -/
structure AgreeOnSignIn (Match : σ → τ → Prop) (a : Service σ) (b : Service τ) : Prop where
  csrfKey : a.csrfKey = b.csrfKey
  ttl : a.ttl = b.ttl
  findUser : ∀ username, Attempt.Agree Match (a.users.find username) (b.users.find username)
  hash : ∀ salt password,
    Attempt.Agree Match (a.hasher.hash salt password) (b.hasher.hash salt password)
  verify : ∀ password hash,
    Attempt.Agree Match (a.hasher.verify password hash) (b.hasher.verify password hash)
  save : ∀ token session seconds, Attempt.Agree Match (a.sessions.save token session seconds)
    (b.sessions.save token session seconds)

/-- Two services agree on all that they call, but for a purge. -/
structure Agree (Match : σ → τ → Prop) (a : Service σ) (b : Service τ) : Prop
    extends AgreeOnSignIn Match a b where
  find : ∀ token, Attempt.Agree Match (a.sessions.find token) (b.sessions.find token)
  revoke : ∀ token, Attempt.Agree Match (a.sessions.revoke token) (b.sessions.revoke token)

theorem agree_onWorld {x : Attempt σ α} {y : Attempt τ α} (h : Attempt.Agree Match x y) :
    Attempt.Agree (StatesAgree Match) (onWorld x) (onWorld y) :=
  fun _ _ states => ⟨(h states.2).1, states.1, (h states.2).2⟩

variable {a : Service σ} {b : Service τ}

namespace AgreeOnSignIn

variable (h : AgreeOnSignIn Match a b)

include h

theorem theDecoy (draw : Draw) :
    Attempt.Agree (StatesAgree Match) (a.theDecoy draw) (b.theDecoy draw) := by
  refine .bind (fun s t states => ⟨congrArg Except.ok states.1, states⟩) fun kept => ?_
  rcases kept with _ | hash
  · refine .bind (agree_onWorld (h.hash _ _)) fun hash => ?_
    exact .bind (fun s t states => ⟨rfl, rfl, states.2⟩) fun _ => .pure hash
  · exact .pure hash

theorem verifyDecoy (draw : Draw) (password : String) :
    Attempt.Agree (StatesAgree Match) (a.verifyDecoy draw password) (b.verifyDecoy draw password) :=
  .bind (h.theDecoy draw) fun _ => .bind (agree_onWorld (h.verify _ _)) fun _ => .pure _

theorem issue (draw : Draw) (credential : Credential) :
    Attempt.Agree (StatesAgree Match) (a.issue draw credential) (b.issue draw credential) := by
  unfold Service.issue
  simp only [h.ttl, h.csrfKey]
  rcases expiry? b.ttl draw.now with _ | expiresAt
  · exact .fail _
  · exact .bind (agree_onWorld (h.save _ _ _)) fun _ => .pure _

theorem signIn (draw : Draw) (login : Login) :
    Attempt.Agree (StatesAgree Match) (a.signIn draw login) (b.signIn draw login) := by
  refine .bind (agree_onWorld (h.findUser _)) fun found => ?_
  rcases found with _ | credential
  · exact .bind (h.verifyDecoy draw _) fun _ => .pure _
  · refine .bind (agree_onWorld (h.verify _ _)) fun isRight => ?_
    split
    · exact .bind (h.issue draw credential) fun _ => .pure _
    · exact .pure _

/-- Who may act for a session is told alike if whose session it is is told alike. -/
theorem authorize {now : Instant} {token : SessionToken}
    (told : Attempt.Agree (StatesAgree Match) (a.whoIs now token) (b.whoIs now token))
    (csrf : CsrfToken) :
    Attempt.Agree (StatesAgree Match) (a.authorize now token csrf)
      (b.authorize now token csrf) := by
  refine .bind told fun info => ?_
  rw [h.csrfKey]
  split
  · exact .pure _
  · exact .fail _

end AgreeOnSignIn

namespace Agree

variable (h : Agree Match a b)

include h

theorem whoIs (now : Instant) (token : SessionToken) :
    Attempt.Agree (StatesAgree Match) (a.whoIs now token) (b.whoIs now token) := by
  refine .bind (agree_onWorld (h.find token)) fun found => ?_
  rcases found with _ | session
  · exact .fail _
  · dsimp only
    split
    · exact .bind (agree_onWorld (h.revoke token)) fun _ => .fail _
    · exact .pure _

theorem signOut (now : Instant) (token : SessionToken) (csrf : CsrfToken) :
    Attempt.Agree (StatesAgree Match) (a.signOut now token csrf) (b.signOut now token csrf) :=
  .bind (h.authorize (h.whoIs now token) csrf) fun _ =>
    .bind (agree_onWorld (h.revoke token)) fun _ => .pure _

theorem take {step : Step} (purge : ∀ now, step = .purge now →
      Attempt.Agree Match (a.sessions.purge now) (b.sessions.purge now)) :
    Attempt.Agree (StatesAgree Match) (a.take step) (b.take step) := by
  cases step with
  | signIn draw login => exact .bind (h.signIn draw login) fun _ => .pure _
  | whoIs now token => exact .bind (h.whoIs now token) fun _ => .pure _
  | authorize now token csrf =>
    exact .bind (h.authorize (h.whoIs now token) csrf) fun _ => .pure _
  | signOut now token csrf => exact .bind (h.signOut now token csrf) fun _ => .pure _
  | purge now => exact .bind (agree_onWorld (purge now rfl)) fun _ => .pure _
  | save token session seconds =>
    exact .bind (agree_onWorld (h.save token session seconds)) fun _ => .pure _
  | find token => exact .bind (agree_onWorld (h.find token)) fun _ => .pure _
  | revoke token => exact .bind (agree_onWorld (h.revoke token)) fun _ => .pure _

theorem run {steps : List Step} (purge : ∀ now, .purge now ∈ steps →
      Attempt.Agree Match (a.sessions.purge now) (b.sessions.purge now))
    {s : State σ} {t : State τ} (start : StatesAgree Match s t) :
    (a.run steps s).1 = (b.run steps t).1 ∧
      StatesAgree Match (a.run steps s).2 (b.run steps t).2 := by
  induction steps generalizing s t with
  | nil => exact ⟨rfl, start⟩
  | cons step steps ih =>
    obtain ⟨answer, next⟩ : ((a.take step).perform s).1 = _ ∧ _ :=
      h.take (fun now same => purge now (same ▸ List.mem_cons_self)) start
    obtain ⟨history, last⟩ := ih (fun now hp => purge now (List.mem_cons_of_mem _ hp)) next
    refine ⟨?_, last⟩
    simp only [Service.run]
    rw [answer, history]

end Agree

section Parts

variable {τ ρ ρ' : Type} {Match : ρ → ρ' → Prop} {users : UserStore τ} {hasher : PasswordHasher τ}
  {a : SessionStore ρ} {b : SessionStore ρ'} {csrfKey : CsrfKey} {ttl : Duration}

/-- The same decoy, the same users, and sessions that match. -/
def StatesMatch (Match : ρ → ρ' → Prop) (s : State (τ × ρ)) (t : State (τ × ρ')) : Prop :=
  s.decoy = t.decoy ∧ s.world.1 = t.world.1 ∧ Match s.world.2 t.world.2

theorem agree_ofParts (h : SessionStore.Agree Match a b) :
    Agree (Both Eq Match) (ofParts users hasher a csrfKey ttl)
      (ofParts users hasher b csrfKey ttl) where
  csrfKey := rfl
  ttl := rfl
  findUser _ := .first (.refl _)
  hash _ _ := .first (.refl _)
  verify _ _ := .first (.refl _)
  save token session seconds := .second (h.save token session seconds)
  find token := .second (h.find token)
  revoke token := .second (h.revoke token)

theorem agree_run (h : SessionStore.Agree Match a b) {steps : List Step}
    (hsteps : ∀ step ∈ steps, step.isPurge = false) {s : State (τ × ρ)} {t : State (τ × ρ')}
    (start : StatesMatch Match s t) :
    ((ofParts users hasher a csrfKey ttl).run steps s).1 =
        ((ofParts users hasher b csrfKey ttl).run steps t).1 ∧
      StatesMatch Match ((ofParts users hasher a csrfKey ttl).run steps s).2
        ((ofParts users hasher b csrfKey ttl).run steps t).2 :=
  (agree_ofParts h).run (fun _ hp => nomatch hsteps _ hp) start

end Parts

end Service

end SignIn
