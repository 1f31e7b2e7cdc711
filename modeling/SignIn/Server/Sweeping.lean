import SignIn.Server.Sweeper
import SignIn.Service.Calls
import SignIn.Session.Registry

/-!
# Runs of the sweeper

While a sweeper is at work on a registry, sessions are saved, time passes, purges begin to fail and
cease to, and the sweeper is cancelled. An account is kept of the purges.
-/

namespace SignIn

/-- A purge that was called: when, what was in the registry before and after it, and what it gave. -/
structure Purge where
  time : Nat
  before : Registry
  outcome : Except AuthError Nat
  after : Registry

/-- A sweeper at work, the registry, the fault that purges meet with, and the purges so far. -/
structure Sweeping where
  sweeper : Sweeper
  registry : Registry
  fault : Option AuthError
  purges : List Purge

namespace Sweeping

/-- What happens while a sweeper is at work. Where a tick falls on the moment when a sleep ends or the
sweeper is cancelled, either of the two may come first. -/
inductive Step
  | save (token : SessionToken) (session : Session)
  | setFault (fault : Option AuthError)
  | sleep (span : Nat) (tickFirst : Bool)
  | cancel (tickFirst : Bool)

/-- A sweeper that starts over a registry. -/
def start (every : Nat) (registry : Registry) : Sweeping := ⟨.start every, registry, none, []⟩

/-- A purge at a time, which is entered in the account. -/
def purge (clock : Nat → Instant) (fault : Option AuthError) (time : Nat) :
    Attempt (Registry × List Purge) Nat :=
  .of fun (registry, purges) =>
    let (outcome, after) :=
      (Attempt.orFault fault (Registry.store.purge (clock time))).perform registry
    (outcome, after, purges ++ [⟨time, registry, outcome, after⟩])

/-- Lets time pass. -/
def pass (clock : Nat → Instant) (span : Nat) (tickFirst : Bool) (sweeping : Sweeping) : Sweeping :=
  let (sweeper, registry, purges) := sweeping.sweeper.pass (purge clock sweeping.fault) span
    tickFirst (sweeping.registry, sweeping.purges)
  { sweeping with sweeper, registry, purges }

/-- Takes one step, with a clock that tells the moment at each time since the start. -/
def take (clock : Nat → Instant) (sweeping : Sweeping) : Step → Sweeping
  | .save token session => { sweeping with registry := sweeping.registry.put token session }
  | .setFault fault => { sweeping with fault }
  | .sleep span tickFirst => sweeping.pass clock span tickFirst
  | .cancel tickFirst =>
    let sweeping := sweeping.pass clock 0 tickFirst
    { sweeping with sweeper := sweeping.sweeper.stop }

/-- Takes steps one after the other. -/
def run (clock : Nat → Instant) (sweeping : Sweeping) (steps : List Step) : Sweeping :=
  steps.foldl (take clock) sweeping

end Sweeping

end SignIn
