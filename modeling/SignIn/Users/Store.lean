import SignIn.Auth.Attempt
import SignIn.Users.Credential

/-!
# Where credentials are kept

Signing in only ever looks users up, by their exact names.
-/

namespace SignIn

/-- The operation that any keeper of credentials has, on a state of its own. -/
structure UserStore (σ : Type) where
  find : String → Attempt σ (Option Credential)

namespace UserStore

variable {σ τ : Type}

/-- The same store as a part of a larger state. -/
def within (part : τ → σ) (replace : σ → τ → τ) (store : UserStore σ) : UserStore τ where
  find username := (store.find username).within part replace

end UserStore

end SignIn
