import SignIn.Auth.Error

/-!
# Attempts

An attempt acts on a state and gives a value or a fault. What it did to the state before a fault
stays done.
-/

namespace SignIn

abbrev Attempt (σ α : Type) : Type := ExceptT AuthError (StateM σ) α

namespace Attempt

variable {σ τ α : Type}

/-- The attempt that a function describes. -/
def of (f : σ → Except AuthError α × σ) : Attempt σ α := ExceptT.mk f

/-- Makes an attempt on a state. -/
def perform (attempt : Attempt σ α) (state : σ) : Except AuthError α × σ :=
  ExceptT.run attempt state

def fail (error : AuthError) : Attempt σ α := of fun state => (.error error, state)

/-- An attempt on a part of a state. -/
def within (part : τ → σ) (replace : σ → τ → τ) (attempt : Attempt σ α) : Attempt τ α :=
  of fun state =>
    let (result, changed) := attempt.perform (part state)
    (result, replace changed state)

@[simp]
theorem perform_of (f : σ → Except AuthError α × σ) (state : σ) : (of f).perform state = f state :=
  rfl

@[simp]
theorem perform_pure (a : α) (state : σ) : (pure a : Attempt σ α).perform state = (.ok a, state) :=
  rfl

@[simp]
theorem perform_fail (error : AuthError) (state : σ) :
    (fail error : Attempt σ α).perform state = (.error error, state) := rfl

theorem perform_bind {β : Type} (attempt : Attempt σ α) (next : α → Attempt σ β) (state : σ) :
    (attempt >>= next).perform state =
      match attempt.perform state with
      | (.ok a, state) => (next a).perform state
      | (.error error, state) => (.error error, state) := by
  show (ExceptT.bindCont next (attempt.perform state).1) (attempt.perform state).2 = _
  cases attempt.perform state with
  | mk result state => cases result <;> rfl

@[simp]
theorem perform_within (part : τ → σ) (replace : σ → τ → τ) (attempt : Attempt σ α) (state : τ) :
    (attempt.within part replace).perform state =
      ((attempt.perform (part state)).1, replace (attempt.perform (part state)).2 state) := rfl

end Attempt

end SignIn
