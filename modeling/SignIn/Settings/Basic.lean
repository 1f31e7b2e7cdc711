import SignIn.Calendar.Instant
import SignIn.Settings.Dsn
import SignIn.Settings.Field
import SignIn.Settings.KeyPath
import SignIn.Toml.Document
import SignIn.Users.Seed

/-!
# Settings

The settings of the service: how users and sessions are kept, where it listens, what it logs, the
addresses of its databases and the users it starts with. Settings are read from a TOML text.
-/

namespace SignIn

structure AuthSettings where
  userBackend : String
  sessionBackend : String
  sessionTtlSecs : UInt64
  sweepIntervalSecs : UInt64
  memoryKib : Option UInt32
  passes : Option UInt32
  deriving DecidableEq, Repr

structure HttpSettings where
  address : String
  certPath : Option String
  keyPath : Option String
  deriving DecidableEq, Repr

structure Settings where
  auth : AuthSettings
  http : HttpSettings
  logFilter : String
  databaseDsn : Option String
  keyServerDsn : Option String
  users : List SeedUser
  deriving DecidableEq, Repr

/-- Why a time to live is not accepted. -/
inductive TtlFault
  | zero
  | tooLong (seconds : UInt64)
  deriving DecidableEq, Repr

/-- The longest time that a session may live: one leap year. -/
def maxSessionTtlSecs : Nat := 366 * 24 * 60 * 60

def TtlFault.message : TtlFault → String
  | zero => "auth.session_ttl_secs must be greater than 0"
  | tooLong seconds =>
    s!"auth.session_ttl_secs must be at most {maxSessionTtlSecs}, got {seconds}"

namespace AuthSettings

/-- How long a session lives. -/
def sessionTtl (auth : AuthSettings) : Except TtlFault Duration :=
  if auth.sessionTtlSecs = 0 then .error .zero
  else if maxSessionTtlSecs < auth.sessionTtlSecs.toNat then .error (.tooLong auth.sessionTtlSecs)
  else .ok (.ofSeconds auth.sessionTtlSecs.toNat)

/-- How many seconds lie between two sweeps where none are given. -/
def standardSweepSecs : UInt64 := 60

def ofTree (tree : Tree) : Except SettingsFault AuthSettings := do
  let record ← Record.ofTree "Auth" ["user_backend", "session_backend", "session_ttl_secs",
    "sweep_interval_secs", "argon2_memory_kib", "argon2_iterations"] tree
  let userBackend ← record.read? Tree.readText "user_backend"
  let sessionBackend ← record.read? Tree.readText "session_backend"
  let sessionTtl ← record.read? Tree.readWord64 "session_ttl_secs"
  let sweepInterval ← record.read? Tree.readWord64 "sweep_interval_secs"
  let memoryKib ← record.read? (Tree.readOption Tree.readWord32) "argon2_memory_kib"
  let passes ← record.read? (Tree.readOption Tree.readWord32) "argon2_iterations"
  return {
    userBackend := ← record.require "user_backend" userBackend
    sessionBackend := ← record.require "session_backend" sessionBackend
    sessionTtlSecs := ← record.require "session_ttl_secs" sessionTtl
    sweepIntervalSecs := sweepInterval.getD standardSweepSecs
    memoryKib := ← record.optional "argon2_memory_kib" memoryKib
    passes := ← record.optional "argon2_iterations" passes }

def debugText (auth : AuthSettings) : String :=
  Text.record "Auth" [("user_backend", Text.quoted auth.userBackend),
    ("session_backend", Text.quoted auth.sessionBackend),
    ("session_ttl_secs", toString auth.sessionTtlSecs),
    ("sweep_interval_secs", toString auth.sweepIntervalSecs),
    ("argon2_memory_kib", Text.optional toString auth.memoryKib),
    ("argon2_iterations", Text.optional toString auth.passes)]

end AuthSettings

namespace HttpSettings

/-- Whether connections are secure: both the certificate and its key are given. -/
def isSecure (http : HttpSettings) : Bool := http.certPath.isSome && http.keyPath.isSome

def ofTree (tree : Tree) : Except SettingsFault HttpSettings := do
  let record ← Record.ofTree "Http" ["address", "cert_path", "key_path"] tree
  let address ← record.read? Tree.readText "address"
  let certPath ← record.read? (Tree.readOption Tree.readText) "cert_path"
  let keyPath ← record.read? (Tree.readOption Tree.readText) "key_path"
  return {
    address := ← record.require "address" address
    certPath := ← record.optional "cert_path" certPath
    keyPath := ← record.optional "key_path" keyPath }

def debugText (http : HttpSettings) : String :=
  Text.record "Http" [("address", Text.quoted http.address),
    ("cert_path", Text.optional Text.quoted http.certPath),
    ("key_path", Text.optional Text.quoted http.keyPath)]

end HttpSettings

namespace SeedUser

def ofTree (tree : Tree) : Except SettingsFault SeedUser := do
  let record ← Record.ofTree "SeedUser" ["username", "password", "password_hash", "is_active"] tree
  let username ← record.read? Tree.readText "username"
  let password ← record.read? (Tree.readOption Tree.readText) "password"
  let passwordHash ← record.read? (Tree.readOption Tree.readText) "password_hash"
  let isActive ← record.read? Tree.readBool "is_active"
  return {
    username := ← record.require "username" username
    password := ← record.optional "password" password
    passwordHash := ← record.optional "password_hash" passwordHash
    isActive := isActive.getD true }

end SeedUser

inductive SettingsError
  /-- The text is not TOML. -/
  | notToml
  /-- There is no such file, or it has another extension. -/
  | noFile
  /-- The values do not fit, in a file if one was read. -/
  | misfit (file : Option String) (fault : SettingsFault)
  deriving DecidableEq, Repr

namespace SettingsError

def message : SettingsError → String
  | notToml => "the settings are not TOML"
  | noFile => "there is no such settings file"
  | misfit file fault => fault.message file

end SettingsError

namespace Settings

/-- A record with one text in it. -/
def readSingle (name field : String) (tree : Tree) : Except SettingsFault String := do
  let record ← Record.ofTree name [field] tree
  let value ← record.read? Tree.readText field
  record.require field value

def ofTree (tree : Tree) : Except SettingsFault Settings := do
  let record ← Record.ofTree "Settings" ["auth", "http", "log", "mysql", "redis", "users"] tree
  let auth ← record.read? AuthSettings.ofTree "auth"
  let http ← record.read? HttpSettings.ofTree "http"
  let log ← record.read? (readSingle "Log" "filter") "log"
  let database ← record.read? (Tree.readOption (readSingle "MySql" "dsn")) "mysql"
  let keyServer ← record.read? (Tree.readOption (readSingle "Redis" "dsn")) "redis"
  let users ← record.read? (Tree.readList SeedUser.ofTree) "users"
  return {
    auth := ← record.require "auth" auth
    http := ← record.require "http" http
    logFilter := ← record.require "log" log
    databaseDsn := ← record.optional "mysql" database
    keyServerDsn := ← record.optional "redis" keyServer
    users := users.getD [] }

/-- Reads settings from a text, which stands in a file if one is named. -/
def ofText (file : Option String) (text : String) : Except SettingsError Settings :=
  match Toml.entries? text with
  | none => .error .notToml
  | some entries => (ofTree (.ofTopLevel entries)).mapError (.misfit file)

/-- The form of an address in logs. -/
def dsnText (name dsn : String) : String :=
  Text.record name [("dsn", Text.quoted (Dsn.redact dsn))]

/-- The form for logs, without secrets. -/
def debugText (settings : Settings) : String :=
  Text.record "Settings" [("auth", settings.auth.debugText), ("http", settings.http.debugText),
    ("log", Text.record "Log" [("filter", Text.quoted settings.logFilter)]),
    ("mysql", Text.optional (dsnText "MySql") settings.databaseDsn),
    ("redis", Text.optional (dsnText "Redis") settings.keyServerDsn),
    ("users", "[" ++ ", ".intercalate (settings.users.map SeedUser.debugText) ++ "]")]

end Settings

end SignIn
