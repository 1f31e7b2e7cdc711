import SignIn.Auth.Attempt
import SignIn.Session.Record
import SignIn.Session.Token

/-!
# Where sessions are kept

The operations that any keeper of sessions has, on a state of its own.
-/

namespace SignIn

/-- Operations on kept sessions. A session that is over may still be found: who asks looks at the
time. -/
structure SessionStore (σ : Type) where
  /-- Keeps a session under its token, for so many seconds. -/
  save : SessionToken → Session → Nat → Attempt σ Unit
  find : SessionToken → Attempt σ (Option Session)
  /-- Removes a session and tells whether there was one. -/
  revoke : SessionToken → Attempt σ Bool
  /-- Removes the sessions that are over and counts them. -/
  purge : Instant → Attempt σ Nat

namespace SessionStore

variable {σ τ : Type}

/-- The same store as a part of a larger state. -/
def within (part : τ → σ) (replace : σ → τ → τ) (store : SessionStore σ) : SessionStore τ where
  save token session seconds := (store.save token session seconds).within part replace
  find token := (store.find token).within part replace
  revoke token := (store.revoke token).within part replace
  purge now := (store.purge now).within part replace

end SessionStore

end SignIn
