import SignIn.LogFilter
import SignIn.Session.Store

/-!
# The sweeper

The sweeper purges a store at the ticks of its interval until it is stopped. Its first tick, at the
start, is taken before the loop, and nothing is done at it. Whatever a purge gives is noted in the
log, and the loop goes on: a purge that fails neither ends it nor moves the later ones.
-/

namespace SignIn

/-- A line of the log, with a number if it has one. -/
structure LogLine where
  level : LogLevel
  message : String
  count : Option Nat := none
  deriving DecidableEq, Repr

namespace LogLine

/-- What is noted about a purge, if anything. -/
def ofPurge? : Except AuthError Nat → Option LogLine
  | .ok 0 => none
  | .ok count => some ⟨.debug, "expired sessions purged", some count⟩
  | .error error => some ⟨.warn, s!"session sweep failed: {error.message}", none⟩

def stopping : LogLine := ⟨.debug, "session sweeper stopping", none⟩

end LogLine

/-- The interval, the time since the start, when the next tick is due, how often a purge was called,
whether the loop is over, and the log. Times are in milliseconds. -/
structure Sweeper where
  every : Nat
  elapsed : Nat
  due : Nat
  purges : Nat
  isStopped : Bool
  log : List LogLine
  deriving DecidableEq, Repr

namespace Sweeper

variable {σ : Type}

/-- A sweeper whose first tick is due at once. -/
def fresh (every : Nat) : Sweeper := ⟨every, 0, 0, 0, false, []⟩

/-- The sweeper after the tick that is due, which is taken late if its time is over. The tick after it
is due one interval after it was taken, so a late tick delays all later ones. -/
def tick (sweeper : Sweeper) : Sweeper :=
  let time := max sweeper.elapsed sweeper.due
  { sweeper with elapsed := time, due := time + sweeper.every }

/-- A sweeper that enters its loop: the first tick is over. -/
def start (every : Nat) : Sweeper := (fresh every).tick

/-- The sweeper after a purge that gave this. -/
def note (sweeper : Sweeper) (outcome : Except AuthError Nat) : Sweeper :=
  { sweeper with
    purges := sweeper.purges + 1
    log := sweeper.log ++ (LogLine.ofPurge? outcome).toList }

/-- One turn of the loop: the tick that is due is taken, and the purge at its time is called. -/
def sweep (purge : Nat → Attempt σ Nat) (sweeper : Sweeper) (state : σ) : Sweeper × σ :=
  let sweeper := sweeper.tick
  let (outcome, state) := (purge sweeper.elapsed).perform state
  (sweeper.note outcome, state)

def stop (sweeper : Sweeper) : Sweeper :=
  if sweeper.isStopped then sweeper
  else { sweeper with isStopped := true, log := sweeper.log ++ [.stopping] }

/-- Takes the ticks that are due before a time, one after the other. There is no interval of no
time. -/
def ticksBefore (purge : Nat → Attempt σ Nat) (bound : Nat) (sweeper : Sweeper) (state : σ) :
    Sweeper × σ :=
  if sweeper.isStopped = false ∧ 0 < sweeper.every ∧ sweeper.due < bound then
    ticksBefore purge bound (sweeper.sweep purge state).1 (sweeper.sweep purge state).2
  else (sweeper, state)
termination_by bound - sweeper.due
decreasing_by
  simp only [sweep, note, tick]
  omega

/-- Lets time pass. Purges take no time. A tick that falls on the end of the span is taken only if it
comes first. -/
def pass (purge : Nat → Attempt σ Nat) (span : Nat) (comesFirst : Bool) (sweeper : Sweeper)
    (state : σ) : Sweeper × σ :=
  let time := sweeper.elapsed + span
  let (sweeper, state) := sweeper.ticksBefore purge (if comesFirst then time + 1 else time) state
  ({ sweeper with elapsed := time }, state)

/-- Lets time pass while the clock stands still, with the ticks up to its end. -/
def advance (store : SessionStore σ) (now : Instant) (span : Nat) (sweeper : Sweeper) (state : σ) :
    Sweeper × σ :=
  sweeper.pass (fun _ => store.purge now) span true state

end Sweeper

end SignIn
