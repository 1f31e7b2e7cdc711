import SignIn.Http.CookiePolicy
import SignIn.Server.Sweeper
import SignIn.Service.World
import SignIn.Settings.Basic

/-!
# Starting the server

A server is put together from settings: first the time that sessions live and the cost of hashing,
then the users, then the sessions. The first of these that cannot be had ends it.
-/

namespace SignIn

/-- What a server finds where it starts: the key that CSRF tokens are made with, and what answers at
an address. -/
structure Surroundings where
  signingKey : Option String
  database : String → Option CredentialTable
  keyServer : String → Option KeyServer

inductive StartFault
  | ttl (fault : TtlFault)
  | cost (error : AuthError)
  | seed (error : SeedError)
  | noDatabaseSettings
  | noKeyServerSettings
  | unknownUserBackend (name : String)
  | unknownSessionBackend (name : String)
  | noDatabase
  | noKeyServer
  deriving DecidableEq, Repr

namespace StartFault

def message : StartFault → String
  | ttl fault => fault.message
  | cost error => error.message
  | seed error => error.message
  | noDatabaseSettings => "user backend mysql needs a [mysql] section"
  | noKeyServerSettings => "session backend redis needs a [redis] section"
  | unknownUserBackend name => s!"Unknown user backend: {name}"
  | unknownSessionBackend name => s!"Unknown session backend: {name}"
  | noDatabase => "the database cannot be reached"
  | noKeyServer => "the key server cannot be reached"

end StartFault

namespace AuthSettings

/-- The cost of hashing, with the standard half where only one half is chosen. -/
def hashCost [Causes] (auth : AuthSettings) : Except AuthError HashCost :=
  HashCost.ofNumbers ((auth.memoryKib.map UInt32.toNat).getD HashCost.standard.memoryKib)
    ((auth.passes.map UInt32.toNat).getD HashCost.standard.passes)

/-- The milliseconds between two sweeps. -/
def sweepInterval (auth : AuthSettings) : Nat := max 1 auth.sweepIntervalSecs.toNat * 1000

end AuthSettings

namespace Settings

/-- The users that a server starts with: the settings' own in memory, or those of a database. -/
def openUsers [Causes] (settings : Settings) (around : Surroundings) (cost : HashCost)
    (draw : Nat → SeedDraw) : Except StartFault UserBackend :=
  if settings.auth.userBackend = "memory" then
    let users := settings.users.zipIdx.map fun (user, index) => (user, draw index)
    match Roster.seed (Argon2.hasher Unit cost) .empty () users with
    | (.ok _, roster, _) => .ok (.memory roster)
    | (.error error, _) => .error (.seed error)
  else if settings.auth.userBackend = "mysql" then
    match settings.databaseDsn with
    | none => .error .noDatabaseSettings
    | some dsn => ((around.database dsn).map UserBackend.database).elim (.error .noDatabase) .ok
  else .error (.unknownUserBackend settings.auth.userBackend)

/-- The sessions that a server starts with: none in memory, or those of a key server. -/
def openSessions (settings : Settings) (around : Surroundings) : Except StartFault SessionBackend :=
  if settings.auth.sessionBackend = "memory" then .ok (.memory .empty)
  else if settings.auth.sessionBackend = "redis" then
    match settings.keyServerDsn with
    | none => .error .noKeyServerSettings
    | some dsn =>
      ((around.keyServer dsn).map SessionBackend.keyServer).elim (.error .noKeyServer) .ok
  else .error (.unknownSessionBackend settings.auth.sessionBackend)

end Settings

/-- A service with its stores, the cookies it hands out and the sweeper of sessions in memory. -/
structure Server where
  service : Service World
  policy : Http.CookiePolicy
  world : World
  sweeper : Option Sweeper

namespace Server

/-- The name that keys of sessions have in common in a key server. -/
def sessionKeyName : String := "loginwarden:session"

/-- The key that CSRF tokens are made with where none is set. -/
def developmentKey : String := "loginwarden-dev-csrf-key"

/-- Starts a server. Chance and the clock give a draw to each user who is entered. -/
def start [Causes] (settings : Settings) (around : Surroundings) (draw : Nat → SeedDraw) :
    Except StartFault Server := do
  let ttl ← settings.auth.sessionTtl.mapError .ttl
  let cost ← settings.auth.hashCost.mapError .cost
  let users ← settings.openUsers around cost draw
  let sessions ← settings.openSessions around
  let sweeper := match sessions with
    | .memory _ => some (.start settings.auth.sweepInterval)
    | .keyServer _ => none
  return {
    service := {
      users := World.userStore
      hasher := Argon2.hasher World cost
      sessions := World.sessionStore sessionKeyName
      csrfKey := .ofText (around.signingKey.getD developmentKey)
      ttl }
    policy := ⟨settings.http.isSecure, ttl⟩
    world := ⟨users, sessions⟩
    sweeper }

end Server

end SignIn
