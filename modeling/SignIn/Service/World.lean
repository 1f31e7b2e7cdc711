import SignIn.Session.KeyServer
import SignIn.Session.Registry
import SignIn.Users.CredentialTable
import SignIn.Users.Roster

/-!
# The stores that can be chosen

Users are kept in memory or in a database, sessions in memory or in a key server.
-/

namespace SignIn

/-- Where users are kept. -/
inductive UserBackend
  | memory (roster : Roster)
  | database (table : CredentialTable)

namespace UserBackend

def store [Causes] : UserStore UserBackend where
  find username := .of fun
    | memory roster =>
      let (result, roster) := (Roster.store.find username).perform roster
      (result, memory roster)
    | database table =>
      let (result, table) :=
        ((CredentialTable.store CredentialTable.sameName).find username).perform table
      (result, database table)

end UserBackend

/-- Where sessions are kept. -/
inductive SessionBackend
  | memory (registry : Registry)
  | keyServer (server : KeyServer)

namespace SessionBackend

/-- An operation on the store that was chosen. -/
def either {α : Type} (onMemory : Attempt Registry α) (onServer : Attempt KeyServer α) :
    Attempt SessionBackend α :=
  .of fun
    | memory registry =>
      let (result, registry) := onMemory.perform registry
      (result, memory registry)
    | keyServer server =>
      let (result, server) := onServer.perform server
      (result, keyServer server)

/-- The store that was chosen, with the common name of keys in a key server. -/
def store [Causes] (name : String) : SessionStore SessionBackend :=
  let server := KeyServer.store name
  { save token session seconds :=
      either (Registry.store.save token session seconds) (server.save token session seconds)
    find token := either (Registry.store.find token) (server.find token)
    revoke token := either (Registry.store.revoke token) (server.revoke token)
    purge now := either (Registry.store.purge now) (server.purge now) }

end SessionBackend

/-- The stores in use. -/
structure World where
  users : UserBackend
  sessions : SessionBackend

namespace World

def userStore [Causes] : UserStore World :=
  UserBackend.store.within World.users fun users world => { world with users }

def sessionStore [Causes] (name : String) : SessionStore World :=
  (SessionBackend.store name).within World.sessions fun sessions world => { world with sessions }

end World

end SignIn
