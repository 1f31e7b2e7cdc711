import Mathlib.Data.List.TakeWhile
import SignIn.Server.Sweeping

/-!
# The schedule of the sweeper

As long as a sweeper is not stopped, its purges were called at the multiples of its interval that are
over, and its next tick is due at the next multiple (`Sweeper.OnSchedule`). A turn of the loop keeps
to this whatever the purge gives, which is only noted (`Sweeper.Notes`). So the number of purges
follows from the time alone, however the time was passed and whichever purges failed
(`Sweeping.run_sweeps`).
-/

namespace SignIn

namespace Sweeper

variable {σ : Type} {purge : Nat → Attempt σ Nat} {sweeper : Sweeper} {state : σ} {bound span : Nat}
  {comesFirst : Bool}

theorem isStopped_stop (sweeper : Sweeper) : sweeper.stop.isStopped = true := by
  unfold stop
  split
  · assumption
  · rfl

theorem stop_keeps (sweeper : Sweeper) : sweeper.stop.every = sweeper.every ∧
    sweeper.stop.elapsed = sweeper.elapsed ∧ sweeper.stop.purges = sweeper.purges := by
  unfold stop
  split <;> exact ⟨rfl, rfl, rfl⟩

theorem sweep_eq {outcome : Except AuthError Nat} {after : σ}
    (h : (purge sweeper.tick.elapsed).perform state = (outcome, after)) :
    sweeper.sweep purge state = (sweeper.tick.note outcome, after) := by
  rw [sweep, h]

/-- As many purges were called as intervals are over, and the next tick is due at the end of the next
one. When it is due, one interval more may be over. -/
structure OnSchedule (sweeper : Sweeper) : Prop where
  due_eq : sweeper.due = (sweeper.purges + 1) * sweeper.every
  mul_le : sweeper.purges * sweeper.every ≤ sweeper.elapsed
  ahead : sweeper.elapsed ≤ sweeper.due

/-- The tick at the start is no purge, and the next one is due one interval later. -/
theorem onSchedule_start (every : Nat) : (start every).OnSchedule :=
  ⟨by simp [start, fresh, tick], by simp [start, fresh, tick], by simp [start, fresh, tick]⟩

/-- No tick is taken late. -/
theorem OnSchedule.elapsed_tick (h : sweeper.OnSchedule) : sweeper.tick.elapsed = sweeper.due :=
  Nat.max_eq_right h.ahead

/-- A turn of the loop keeps to the schedule, whatever the purge gives. -/
theorem OnSchedule.sweep (h : sweeper.OnSchedule) (purge : Nat → Attempt σ Nat) (state : σ) :
    (sweeper.sweep purge state).1.OnSchedule ∧
      (sweeper.sweep purge state).1.elapsed = sweeper.due := by
  have time := h.elapsed_tick
  have due : sweeper.tick.due = sweeper.tick.elapsed + sweeper.every := rfl
  refine ⟨⟨?_, ?_, ?_⟩, time⟩
  · change sweeper.tick.due = (sweeper.purges + 1 + 1) * sweeper.every
    rw [due, time, h.due_eq, Nat.succ_mul (sweeper.purges + 1)]
  · change (sweeper.purges + 1) * sweeper.every ≤ sweeper.tick.elapsed
    exact Nat.le_of_eq (by rw [time, h.due_eq])
  · change sweeper.tick.elapsed ≤ sweeper.tick.due
    rw [due]
    exact Nat.le_add_right _ _

/-- There was a purge at every multiple of the interval before a time that is none itself. -/
theorem OnSchedule.div_le_purges (h : sweeper.OnSchedule) {time : Nat} (past : time ≤ sweeper.elapsed)
    (between : ¬sweeper.every ∣ time) : time / sweeper.every ≤ sweeper.purges := by
  have notDue : time ≠ sweeper.due := by
    rintro rfl
    exact between (h.due_eq ▸ Nat.dvd_mul_left _ _)
  have before : time < (sweeper.purges + 1) * sweeper.every :=
    h.due_eq ▸ Nat.lt_of_le_of_ne (Nat.le_trans past h.ahead) notDue
  exact Nat.lt_succ_iff.1 (Nat.div_lt_of_lt_mul (Nat.mul_comm _ _ ▸ before))

/-- Between two ticks the number of purges is that of the intervals that are over. -/
theorem OnSchedule.purges_eq (h : sweeper.OnSchedule) (positive : 0 < sweeper.every)
    (between : ¬sweeper.every ∣ sweeper.elapsed) :
    sweeper.purges = sweeper.elapsed / sweeper.every :=
  Nat.le_antisymm ((Nat.le_div_iff_mul_le positive).2 h.mul_le) (h.div_le_purges Nat.le.refl between)

/-- What every turn of the loop keeps is kept by all that are taken. -/
theorem ticksBefore_induction {motive : Sweeper → σ → Prop}
    (turn : ∀ sweeper state, sweeper.isStopped = false → sweeper.due < bound →
      motive sweeper state →
        motive (sweeper.sweep purge state).1 (sweeper.sweep purge state).2) :
    ∀ sweeper state, motive sweeper state →
      motive (sweeper.ticksBefore purge bound state).1 (sweeper.ticksBefore purge bound state).2 := by
  intro sweeper state
  fun_induction ticksBefore purge bound sweeper state with
  | case1 sweeper state runs ih =>
    intro holds
    exact ih (turn sweeper state runs.1 runs.2.2 holds)
  | case2 sweeper state ends => exact id

theorem ticksBefore_stopped (h : sweeper.isStopped = true) :
    sweeper.ticksBefore purge bound state = (sweeper, state) := by
  rw [ticksBefore, if_neg (by simp [h])]

/-- A sweeper that is not stopped takes every tick that is due. -/
theorem le_due_ticksBefore (running : sweeper.isStopped = false) (positive : 0 < sweeper.every) :
    bound ≤ (sweeper.ticksBefore purge bound state).1.due := by
  fun_induction ticksBefore purge bound sweeper state with
  | case1 sweeper state runs ih => exact ih running positive
  | case2 sweeper state ends =>
    simp only [running, positive, true_and, Nat.not_lt] at ends
    exact ends

/-- What turns of the loop leave alone. -/
theorem ticksBefore_keeps :
    (sweeper.ticksBefore purge bound state).1.isStopped = sweeper.isStopped ∧
      (sweeper.ticksBefore purge bound state).1.every = sweeper.every :=
  ticksBefore_induction (motive := fun other _ => other.isStopped = sweeper.isStopped ∧
    other.every = sweeper.every) (fun _ _ _ _ same => same) sweeper state ⟨rfl, rfl⟩

theorem OnSchedule.pass (h : sweeper.OnSchedule) (running : sweeper.isStopped = false)
    (positive : 0 < sweeper.every) : (sweeper.pass purge span comesFirst state).1.OnSchedule := by
  let time := sweeper.elapsed + span
  let bound := if comesFirst then time + 1 else time
  have near : time ≤ bound ∧ bound ≤ time + 1 := by
    cases comesFirst <;> exact ⟨by simp [bound], by simp [bound]⟩
  -- The ticks that are taken are not past the end of the span.
  have kept : (sweeper.ticksBefore purge bound state).1.OnSchedule ∧
      (sweeper.ticksBefore purge bound state).1.elapsed ≤ time :=
    ticksBefore_induction (motive := fun sweeper _ => sweeper.OnSchedule ∧ sweeper.elapsed ≤ time)
      (fun sweeper state _ due holds => by
        obtain ⟨onSchedule, elapsed⟩ := holds.1.sweep purge state
        exact ⟨onSchedule, by omega⟩)
      sweeper state ⟨h, Nat.le_add_right _ _⟩
  have later : bound ≤ (sweeper.ticksBefore purge bound state).1.due :=
    le_due_ticksBefore running positive
  exact ⟨kept.1.due_eq, Nat.le_trans kept.1.mul_le kept.2, Nat.le_trans near.1 later⟩

theorem pass_keeps :
    (sweeper.pass purge span comesFirst state).1.isStopped = sweeper.isStopped ∧
      (sweeper.pass purge span comesFirst state).1.every = sweeper.every :=
  ticksBefore_keeps

theorem pass_stopped (h : sweeper.isStopped = true) :
    sweeper.pass purge span comesFirst state =
      ({ sweeper with elapsed := sweeper.elapsed + span }, state) := by
  rw [pass, ticksBefore_stopped h]

/-- Purges that do more do the same to a part that they do not look beyond. -/
theorem ticksBefore_part {τ : Type} (purge : Nat → Attempt σ Nat) (more : Nat → Attempt τ Nat)
    (part : τ → σ) (h : ∀ time state, (purge time).perform (part state) =
      (((more time).perform state).1, part ((more time).perform state).2)) (bound : Nat)
    (sweeper : Sweeper) (state : τ) : sweeper.ticksBefore purge bound (part state) =
      (sweeper.ticksBefore more bound state).map id part := by
  fun_induction ticksBefore more bound sweeper state with
  | case1 sweeper state runs ih =>
    have same : sweeper.sweep purge (part state) =
        ((sweeper.sweep more state).1, part (sweeper.sweep more state).2) := by
      simp only [sweep, h]
    rw [ticksBefore, if_pos runs, same, ih]
  | case2 sweeper state ends => rw [ticksBefore, if_neg ends, Prod.map, id]

end Sweeper

/-- What a purge does: nothing with a fault, and otherwise exactly the sessions that are over at its
moment go. -/
def Purge.Meets (fault : Option AuthError) (now : Instant) (purge : Purge) : Prop :=
  match fault with
  | some error => purge.outcome = .error error ∧ purge.after = purge.before
  | none => purge.outcome = .ok (purge.before.size - purge.after.size) ∧
    ∀ token, purge.after.get? token =
      (purge.before.get? token).filter fun session => ¬session.IsExpiredAt now

/-- Purges one after the other lead from one registry to another, and each of them does what it
should. -/
inductive PurgedBy (clock : Nat → Instant) (fault : Option AuthError) :
    Registry → List Purge → Registry → Prop
  | none (registry : Registry) : PurgedBy clock fault registry [] registry
  | more {first : Registry} {purges : List Purge} (purge : Purge) :
    PurgedBy clock fault first purges purge.before → purge.Meets fault (clock purge.time) →
      PurgedBy clock fault first (purges ++ [purge]) purge.after

/-- The log tells of these purges, in order, and at the end that the loop is over. -/
def Sweeper.Notes (sweeper : Sweeper) (purges : List Purge) : Prop :=
  sweeper.log = purges.filterMap (fun purge => LogLine.ofPurge? purge.outcome) ++
    if sweeper.isStopped then [.stopping] else []

theorem Sweeper.Notes.note {sweeper : Sweeper} {purges : List Purge} (h : sweeper.Notes purges)
    (running : sweeper.isStopped = false) (purge : Purge) :
    (sweeper.tick.note purge.outcome).Notes (purges ++ [purge]) := by
  have running' : (sweeper.tick.note purge.outcome).isStopped = false := running
  have before : sweeper.tick.log = sweeper.log := rfl
  unfold Notes at h ⊢
  rw [running] at h
  rw [running', List.filterMap_append, Sweeper.note, before, h]
  rcases line : LogLine.ofPurge? purge.outcome with _ | line <;> simp [line]

theorem Sweeper.Notes.stop {sweeper : Sweeper} {purges : List Purge} (h : sweeper.Notes purges) :
    sweeper.stop.Notes purges := by
  unfold Sweeper.stop
  split
  · exact h
  · rename_i running
    rw [Notes, if_neg running] at h
    simp [Notes, h]

namespace Sweeping

variable {clock : Nat → Instant} {sweeping : Sweeping} {every : Nat} {registry : Registry}
  {step : Step} {steps : List Step}

/-- A purge at a time is entered in the account as what it did. -/
theorem purge_eq (clock : Nat → Instant) (fault : Option AuthError) (time : Nat)
    (registry : Registry) (purges : List Purge) :
    ∃ made : Purge, (purge clock fault time).perform (registry, purges) =
        (made.outcome, made.after, purges ++ [made]) ∧
      made.time = time ∧ made.before = registry ∧ made.Meets fault (clock time) := by
  cases fault with
  | some error => exact ⟨⟨time, registry, .error error, registry⟩, rfl, rfl, rfl, rfl, rfl⟩
  | none =>
    exact ⟨⟨time, registry, .ok _, registry.live (clock time)⟩, rfl, rfl, rfl, rfl,
      fun token => Registry.get?_live registry (clock time) token⟩

namespace Step

/-- The registry after a step, but for the purges during it. -/
def enter (registry : Registry) : Step → Registry
  | save token session => registry.put token session
  | setFault _ | sleep _ _ | cancel _ => registry

/-- How long a step takes. -/
def span : Step → Nat
  | sleep span _ => span
  | save _ _ | setFault _ | cancel _ => 0

def isCancel : Step → Bool
  | cancel _ => true
  | save _ _ | setFault _ | sleep _ _ => false

end Step

/-- The time that steps take. -/
def slept : List Step → Nat
  | [] => 0
  | step :: steps => step.span + slept steps

theorem pass_purges (clock : Nat → Instant) (span : Nat) (tickFirst : Bool) (sweeping : Sweeping) :
    ∃ made, (sweeping.pass clock span tickFirst).purges = sweeping.purges ++ made ∧
      PurgedBy clock sweeping.fault sweeping.registry made
        (sweeping.pass clock span tickFirst).registry := by
  refine Sweeper.ticksBefore_induction (motive := fun _ (kept : Registry × List Purge) => ∃ made,
    kept.2 = sweeping.purges ++ made ∧
      PurgedBy clock sweeping.fault sweeping.registry made kept.1) ?turn _ _
    ⟨[], (List.append_nil _).symm, .none _⟩
  rintro sweeper ⟨registry, purges⟩ - - ⟨made, rfl, purged⟩
  obtain ⟨one, same, time, rfl, meets⟩ := purge_eq clock sweeping.fault sweeper.tick.elapsed
    registry (sweeping.purges ++ made)
  rw [Sweeper.sweep_eq same]
  exact ⟨made ++ [one], List.append_assoc _ _ _, .more one purged (time ▸ meets)⟩

/-- What is done to the registry in a step is entered in the account. -/
theorem take_purges (clock : Nat → Instant) (sweeping : Sweeping) (step : Step) :
    ∃ made, (sweeping.take clock step).purges = sweeping.purges ++ made ∧
      PurgedBy clock sweeping.fault (step.enter sweeping.registry) made
        (sweeping.take clock step).registry := by
  cases step with
  | save | setFault => exact ⟨[], (List.append_nil _).symm, .none _⟩
  | sleep span tickFirst => exact pass_purges clock span tickFirst sweeping
  | cancel tickFirst => exact pass_purges clock 0 tickFirst sweeping

theorem isStopped_pass (clock : Nat → Instant) (span : Nat) (tickFirst : Bool) :
    (sweeping.pass clock span tickFirst).sweeper.isStopped = sweeping.sweeper.isStopped :=
  Sweeper.pass_keeps.1

/-- Only a cancel stops the sweeper. -/
theorem isStopped_take (clock : Nat → Instant) (sweeping : Sweeping) (step : Step) :
    (sweeping.take clock step).sweeper.isStopped = (sweeping.sweeper.isStopped || step.isCancel) := by
  cases step with
  | save | setFault => exact (Bool.or_false _).symm
  | sleep span tickFirst =>
    exact (isStopped_pass clock span tickFirst).trans (Bool.or_false _).symm
  | cancel tickFirst =>
    exact (Sweeper.isStopped_stop _).trans (Bool.or_true _).symm

theorem elapsed_take (clock : Nat → Instant) (sweeping : Sweeping) (step : Step) :
    (sweeping.take clock step).sweeper.elapsed = sweeping.sweeper.elapsed + step.span := by
  cases step with
  | save | setFault | sleep => rfl
  | cancel tickFirst => exact (Sweeper.stop_keeps _).2.1

/-- A sweeper that is stopped purges no more. -/
theorem take_stopped (h : sweeping.sweeper.isStopped = true) (clock : Nat → Instant) (step : Step) :
    (sweeping.take clock step).purges = sweeping.purges ∧
      (sweeping.take clock step).registry = step.enter sweeping.registry := by
  cases step with
  | save | setFault => exact ⟨rfl, rfl⟩
  | sleep | cancel => simp [take, pass, Sweeper.pass_stopped h, Step.enter]

/-- The account has a purge at each multiple of the interval, as many as were called, and a sweeper
that is not stopped is on schedule. -/
structure Punctual (every : Nat) (sweeping : Sweeping) : Prop where
  every_eq : sweeping.sweeper.every = every
  times_eq : sweeping.purges.map Purge.time =
    (List.range sweeping.sweeper.purges).map fun n => (n + 1) * every
  onSchedule : sweeping.sweeper.isStopped = false → sweeping.sweeper.OnSchedule

theorem punctual_start (every : Nat) (registry : Registry) : (start every registry).Punctual every :=
  ⟨rfl, rfl, fun _ => Sweeper.onSchedule_start every⟩

theorem Punctual.length_eq (h : sweeping.Punctual every) :
    sweeping.purges.length = sweeping.sweeper.purges := by
  simpa using congrArg List.length h.times_eq

theorem Punctual.pass (h : sweeping.Punctual every) (positive : 0 < every) (clock : Nat → Instant)
    (span : Nat) (tickFirst : Bool) : (sweeping.pass clock span tickFirst).Punctual every := by
  refine ⟨Sweeper.pass_keeps.2.trans h.every_eq, ?times, ?schedule⟩
  case schedule =>
    intro running
    rw [isStopped_pass] at running
    exact (h.onSchedule running).pass running (h.every_eq ▸ positive)
  case times =>
    -- A tick is taken only by a sweeper on schedule, so it is at the multiple that comes next.
    refine (Sweeper.ticksBefore_induction
      (motive := fun sweeper (kept : Registry × List Purge) => sweeper.every = every ∧
        (sweeper.isStopped = false → sweeper.OnSchedule) ∧
        kept.2.map Purge.time = (List.range sweeper.purges).map fun n => (n + 1) * every)
      ?turn _ _ ⟨h.every_eq, h.onSchedule, h.times_eq⟩).2.2
    rintro sweeper ⟨registry, purges⟩ running - ⟨same, schedule, times⟩
    obtain ⟨one, made, time, -⟩ := purge_eq clock sweeping.fault sweeper.tick.elapsed registry purges
    have next : one.time = (sweeper.purges + 1) * every := by
      rw [time, (schedule running).elapsed_tick, (schedule running).due_eq, same]
    refine ⟨same, fun _ => ((schedule running).sweep _ _).1, ?_⟩
    rw [Sweeper.sweep_eq made]
    simp only [Sweeper.note, Sweeper.tick, List.map_append, List.range_succ, times, List.map_cons,
      List.map_nil, next]

theorem Punctual.take (h : sweeping.Punctual every) (positive : 0 < every) (clock : Nat → Instant)
    (step : Step) : (sweeping.take clock step).Punctual every := by
  cases step with
  | save | setFault => exact ⟨h.every_eq, h.times_eq, h.onSchedule⟩
  | sleep span tickFirst => exact h.pass positive clock span tickFirst
  | cancel tickFirst =>
    have passed := h.pass positive clock 0 tickFirst
    obtain ⟨every, -, purges⟩ := Sweeper.stop_keeps (sweeping.pass clock 0 tickFirst).sweeper
    refine ⟨every.trans passed.every_eq, ?_, fun running => ?_⟩
    · change _ = (List.range (sweeping.pass clock 0 tickFirst).sweeper.stop.purges).map _
      rw [purges]
      exact passed.times_eq
    · cases running.symm.trans (Sweeper.isStopped_stop _)

theorem Punctual.run (h : sweeping.Punctual every) (positive : 0 < every) (clock : Nat → Instant)
    (steps : List Step) : (sweeping.run clock steps).Punctual every := by
  induction steps generalizing sweeping with
  | nil => exact h
  | cons step steps ih => exact ih (h.take positive clock step)

theorem run_append (clock : Nat → Instant) (sweeping : Sweeping) (earlier later : List Step) :
    sweeping.run clock (earlier ++ later) = (sweeping.run clock earlier).run clock later :=
  List.foldl_append

theorem isStopped_run (clock : Nat → Instant) (sweeping : Sweeping) (steps : List Step) :
    (sweeping.run clock steps).sweeper.isStopped =
      (sweeping.sweeper.isStopped || steps.any Step.isCancel) := by
  induction steps generalizing sweeping with
  | nil => exact (Bool.or_false _).symm
  | cons step steps ih =>
    rw [List.any_cons, ← Bool.or_assoc, ← isStopped_take clock]
    exact ih _

theorem elapsed_run (clock : Nat → Instant) (sweeping : Sweeping) (steps : List Step) :
    (sweeping.run clock steps).sweeper.elapsed = sweeping.sweeper.elapsed + slept steps := by
  induction steps generalizing sweeping with
  | nil => rfl
  | cons step steps ih =>
    rw [slept, ← Nat.add_assoc, ← elapsed_take clock]
    exact ih _

/-- Purges stay in the account. -/
theorem purges_prefix_run (clock : Nat → Instant) (sweeping : Sweeping) (steps : List Step) :
    sweeping.purges <+: (sweeping.run clock steps).purges := by
  induction steps generalizing sweeping with
  | nil => exact List.prefix_rfl
  | cons step steps ih =>
    obtain ⟨made, same, -⟩ := take_purges clock sweeping step
    exact List.IsPrefix.trans ⟨made, same.symm⟩ (ih _)

theorem run_stopped (h : sweeping.sweeper.isStopped = true) (steps : List Step) :
    (sweeping.run clock steps).purges = sweeping.purges ∧
      (sweeping.run clock steps).registry = steps.foldl Step.enter sweeping.registry := by
  induction steps generalizing sweeping with
  | nil => exact ⟨rfl, rfl⟩
  | cons step steps ih =>
    have stopped : (sweeping.take clock step).sweeper.isStopped = true := by
      rw [isStopped_take, h, Bool.true_or]
    have ⟨purges, registry⟩ := take_stopped h clock step
    exact ⟨(ih stopped).1.trans purges, (ih stopped).2.trans (by rw [registry]; rfl)⟩

theorem notes_start (every : Nat) (registry : Registry) :
    (start every registry).sweeper.Notes (start every registry).purges := rfl

theorem notes_pass {sweeping : Sweeping} (h : sweeping.sweeper.Notes sweeping.purges)
    (clock : Nat → Instant) (span : Nat) (tickFirst : Bool) :
    (sweeping.pass clock span tickFirst).sweeper.Notes
      (sweeping.pass clock span tickFirst).purges := by
  refine Sweeper.ticksBefore_induction (motive := fun sweeper (kept : Registry × List Purge) =>
    sweeper.Notes kept.2) ?turn _ _ h
  rintro sweeper ⟨registry, purges⟩ running - logged
  obtain ⟨one, made, -⟩ := purge_eq clock sweeping.fault sweeper.tick.elapsed registry purges
  rw [Sweeper.sweep_eq made]
  exact logged.note running one

theorem notes_take {sweeping : Sweeping} (h : sweeping.sweeper.Notes sweeping.purges)
    (clock : Nat → Instant) (step : Step) :
    (sweeping.take clock step).sweeper.Notes (sweeping.take clock step).purges := by
  cases step with
  | save | setFault => exact h
  | sleep span tickFirst => exact notes_pass h clock span tickFirst
  | cancel tickFirst => exact (notes_pass h clock 0 tickFirst).stop

/-- Whatever becomes of the purges, each of them is noted, and the loop goes on until it is
cancelled. -/
theorem notes_run {sweeping : Sweeping} (h : sweeping.sweeper.Notes sweeping.purges)
    (clock : Nat → Instant) (steps : List Step) :
    (sweeping.run clock steps).sweeper.Notes (sweeping.run clock steps).purges := by
  induction steps generalizing sweeping with
  | nil => exact h
  | cons step steps ih => exact ih (notes_take h clock step)

/-- The account apart, a sleep is what the sweeper does with the store. -/
theorem advance_eq_take {store : SessionStore Registry} {now : Instant} {span : Nat}
    (h : store.purge now = .orFault sweeping.fault (Registry.store.purge now)) :
    sweeping.sweeper.advance store now span sweeping.registry =
      ((sweeping.take (fun _ => now) (.sleep span true)).sweeper,
        (sweeping.take (fun _ => now) (.sleep span true)).registry) := by
  have same := Sweeper.ticksBefore_part (fun _ => store.purge now)
    (purge (fun _ => now) sweeping.fault) Prod.fst (fun time kept => by rw [h]; rfl)
    (sweeping.sweeper.elapsed + span + 1) sweeping.sweeper (sweeping.registry, sweeping.purges)
  rw [Sweeper.advance, Sweeper.pass, if_pos rfl, same]
  rfl

/-- How many purges were called up to a time. -/
def callsBy (sweeping : Sweeping) (time : Nat) : Nat :=
  sweeping.purges.countP fun purge => purge.time ≤ time

/-- The first purges of a punctual account are those up to a time, if it has enough. -/
theorem Punctual.callsBy_eq (h : sweeping.Punctual every) (positive : 0 < every) {time : Nat}
    (enough : time / every ≤ sweeping.sweeper.purges) : sweeping.callsBy time = time / every := by
  have inTime (n : Nat) : (n + 1) * every ≤ time ↔ n < time / every :=
    (Nat.le_div_iff_mul_le positive).symm
  obtain ⟨rest, purges⟩ := Nat.exists_eq_add_of_le enough
  calc sweeping.callsBy time
      = (sweeping.purges.map Purge.time).countP fun called => called ≤ time := by
        rw [List.countP_map]
        rfl
    _ = (List.range (time / every + rest)).countP fun n => n < time / every := by
        rw [h.times_eq, purges, List.countP_map]
        simp [Function.comp_def, inTime]
    _ = time / every := by
        rw [List.range_add, List.countP_append, List.countP_map]
        have first : (List.range (time / every)).countP (fun n => n < time / every) =
            (List.range (time / every)).length :=
          List.countP_eq_length.2 fun n hn => decide_eq_true (List.mem_range.1 hn)
        have none : (List.range rest).countP
            ((fun n => decide (n < time / every)) ∘ fun n => time / every + n) = 0 := by
          simp [List.countP_eq_zero]
        rw [first, none, List.length_range, Nat.add_zero]

/-- The steps before a sweeper is cancelled. -/
def untilCancel (steps : List Step) : List Step := steps.takeWhile fun step => !step.isCancel

theorem any_isCancel_untilCancel (steps : List Step) :
    (untilCancel steps).any Step.isCancel = false := by
  refine List.any_eq_false.2 fun step h => ?_
  simpa using List.mem_takeWhile_imp h

/-- A run whose steps do not cancel the sweeper leaves it on schedule. -/
theorem onSchedule_run (positive : 0 < every) (clock : Nat → Instant) (registry : Registry)
    (uncancelled : steps.any Step.isCancel = false) :
    ((start every registry).run clock steps).sweeper.OnSchedule :=
  ((punctual_start every registry).run positive clock steps).onSchedule <| by
    rw [isStopped_run, uncancelled]
    rfl

theorem elapsed_run_start (clock : Nat → Instant) (every : Nat) (registry : Registry)
    (steps : List Step) :
    ((start every registry).run clock steps).sweeper.elapsed = slept steps :=
  (elapsed_run clock _ steps).trans (Nat.zero_add _)

theorem purges_prefix_untilCancel (clock : Nat → Instant) (sweeping : Sweeping) (steps : List Step) :
    (sweeping.run clock (untilCancel steps)).purges <+: (sweeping.run clock steps).purges := by
  have split : untilCancel steps ++ steps.dropWhile (fun step => !step.isCancel) = steps :=
    List.takeWhile_append_dropWhile
  have kept := purges_prefix_run clock (sweeping.run clock (untilCancel steps))
    (steps.dropWhile fun step => !step.isCancel)
  rwa [← run_append, split] at kept

/-- There was a purge at every multiple of the interval before a time that is none itself and at which
the sweeper is not cancelled. -/
theorem div_le_purges_run (positive : 0 < every) (clock : Nat → Instant) (registry : Registry)
    {time : Nat} (past : time ≤ slept (untilCancel steps)) (between : ¬every ∣ time) :
    time / every ≤ ((start every registry).run clock steps).purges.length := by
  let early := (start every registry).run clock (untilCancel steps)
  have punctual : early.Punctual every :=
    (punctual_start every registry).run positive clock (untilCancel steps)
  have onSchedule : early.sweeper.OnSchedule :=
    onSchedule_run positive clock registry (any_isCancel_untilCancel steps)
  have enough : time / every ≤ early.sweeper.purges := by
    rw [← punctual.every_eq] at between ⊢
    exact onSchedule.div_le_purges (elapsed_run_start clock every registry _ ▸ past) between
  exact Nat.le_trans (punctual.length_eq ▸ enough) (purges_prefix_untilCancel clock _ steps).length_le

/-- **The sweeper keeps its schedule until it is cancelled.** A sweeper purges at the multiples of its
interval, the first one not at the start. Up to a time that is no multiple and at which it is not
cancelled, the number of purges is that of the intervals that are over, however the time was passed
and whichever purges failed. A purge that succeeds leaves exactly the sessions that are not over, and
one that fails leaves all; the log tells of both. After it is cancelled it is over: there are no more
purges, and every session that is saved stays. -/
theorem run_sweeps (positive : 0 < every) (clock : Nat → Instant) (registry : Registry)
    (steps : List Step) :
    let final := (start every registry).run clock steps
    (final.sweeper.purges = final.purges.length ∧
      final.purges.map Purge.time =
        (List.range final.purges.length).map (fun n => (n + 1) * every) ∧
      final.sweeper.Notes final.purges) ∧
    (steps.any Step.isCancel = false → ¬every ∣ slept steps →
      final.sweeper.purges = slept steps / every) ∧
    (∀ time ≤ slept (untilCancel steps), ¬every ∣ time → final.callsBy time = time / every) ∧
    (∀ earlier step later, steps = earlier ++ step :: later →
      let before := (start every registry).run clock earlier
      let after := before.take clock step
      ∃ made, after.purges = before.purges ++ made ∧
        PurgedBy clock before.fault (step.enter before.registry) made after.registry) ∧
    ∀ earlier tickFirst later, steps = earlier ++ .cancel tickFirst :: later →
      let ended := ((start every registry).run clock earlier).take clock (.cancel tickFirst)
      final.sweeper.isStopped = true ∧ final.purges = ended.purges ∧
        final.registry = later.foldl Step.enter ended.registry := by
  intro final
  have punctual : final.Punctual every :=
    (punctual_start every registry).run positive clock steps
  refine ⟨⟨punctual.length_eq.symm, punctual.length_eq ▸ punctual.times_eq,
    notes_run (notes_start every registry) clock steps⟩, ?total, ?calls,
    fun earlier step later _ => take_purges clock _ step, ?cancelled⟩
  case total =>
    intro uncancelled between
    have elapsed : final.sweeper.elapsed = slept steps := elapsed_run_start clock every registry steps
    rw [← elapsed, ← punctual.every_eq] at between ⊢
    exact (onSchedule_run positive clock registry uncancelled).purges_eq
      (punctual.every_eq.symm ▸ positive) between
  case calls =>
    intro time past between
    have enough := div_le_purges_run positive clock registry past between
    exact punctual.callsBy_eq positive (punctual.length_eq ▸ enough)
  case cancelled =>
    rintro earlier tickFirst later rfl ended
    have same : final = ended.run clock later := run_append clock _ earlier _
    have stopped : ended.sweeper.isStopped = true := Sweeper.isStopped_stop _
    rw [same, isStopped_run, stopped]
    exact ⟨rfl, run_stopped stopped later⟩

section Sample

/-- A moment at which a clock stands still, a microsecond before noon. -/
def nearNoon : Instant := ⟨43199, 999999000, by decide, by decide, by decide⟩

/-- A session that is over at once. -/
def overSession : Session := ⟨⟨.replicate 16 7⟩, "alice", nearNoon, nearNoon⟩

/-- The second of three purges fails, and the session that is saved last comes after the cancel. -/
def tiringSteps : List Step :=
  [.save ⟨"a"⟩ overSession, .sleep 11 true, .setFault (some (.store "down")), .sleep 4 false,
    .sleep 10 true, .setFault none, .sleep 7 true, .cancel true, .save ⟨"c"⟩ overSession,
    .sleep 100 true]

theorem run_sweeps_sample :
    0 < 10 ∧ ¬10 ∣ slept (untilCancel tiringSteps) ∧
      ((start 10 .empty).run (fun _ => nearNoon) (untilCancel tiringSteps)).sweeper.purges = 3 ∧
      let final := (start 10 .empty).run (fun _ => nearNoon) tiringSteps
      final.callsBy 9 = 0 ∧ final.callsBy 11 = 1 ∧ final.callsBy 25 = 2 ∧ final.callsBy 32 = 3 ∧
        final.sweeper.isStopped = true ∧ final.registry.get? ⟨"c"⟩ = some overSession := by
  have between : ¬10 ∣ slept (untilCancel tiringSteps) := by decide
  have positive : 0 < 10 := by decide
  obtain ⟨-, total, -⟩ := run_sweeps positive (fun _ => nearNoon) .empty (untilCancel tiringSteps)
  obtain ⟨-, -, calls, -, cancelled⟩ := run_sweeps positive (fun _ => nearNoon) .empty tiringSteps
  obtain ⟨stopped, -, saved⟩ := cancelled (tiringSteps.take 7) true (tiringSteps.drop 8) rfl
  refine ⟨positive, between, total (by decide) between, calls 9 (by decide) (by decide),
    calls 11 (by decide) (by decide), calls 25 (by decide) (by decide),
    calls 32 (by decide) (by decide), stopped, ?_⟩
  rw [saved]
  exact (Table.get?_put _ _ _ _).trans (if_pos rfl)

end Sample

end Sweeping

end SignIn
