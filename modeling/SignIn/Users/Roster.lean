import SignIn.Table
import SignIn.Users.Store

/-!
# Users in memory

A roster has at most one credential for each name.
-/

namespace SignIn

abbrev Roster : Type := Table String Credential

namespace Roster

/-- Adds a credential under its name, in place of the one that was there. -/
def enter (roster : Roster) (credential : Credential) : Roster :=
  roster.put credential.username credential

def ofCredentials (credentials : List Credential) : Roster := credentials.foldl enter .empty

/-- The roster as a store. -/
def store : UserStore Roster where
  find username := .of fun roster => (.ok (roster.get? username), roster)

end Roster

end SignIn
