import SignIn.Auth.Causes
import SignIn.Text.LowerCase
import SignIn.Users.Store

/-!
# Users in a database

A database compares names liberally: spaces at the end and the case of letters do not matter to it.
The first row that it finds counts only if its name is exactly the one that was asked for.
-/

namespace SignIn

/-- A row of the table of credentials. -/
structure CredentialRow where
  userId : List UInt8
  username : String
  passwordHash : String
  isActive : Bool
  createdAt : Instant
  deriving DecidableEq, Repr

namespace CredentialRow

/-- The row, if it has exactly this name. -/
def named? (row : CredentialRow) (username : String) : Option CredentialRow :=
  if row.username = username then some row else none

/-- The credential in a row. An id that has not sixteen bytes is a fault of the store. -/
def credential [causes : Causes] (row : CredentialRow) : Except AuthError Credential :=
  match UserId.ofBytes? row.userId with
  | some userId => .ok ⟨userId, row.username, row.passwordHash, row.isActive, row.createdAt⟩
  | none => .error (.store s!"bad user_id in auth_credential: {causes.userId row.userId}")

end CredentialRow

/-- The rows of a table, the fault with which the next query is answered whatever it is, and the
names that were asked for, the last one first. -/
structure CredentialTable where
  rows : List CredentialRow
  forced : Option String
  asked : List String

namespace CredentialTable

def ofRows (rows : List CredentialRow) : CredentialTable := ⟨rows, none, []⟩

/-- The query for the row of a name. -/
def query : String :=
  "SELECT user_id, username, password_hash, is_active, created_at " ++
    "FROM auth_credential WHERE username = ?"

/-- A text without the spaces at its end. -/
def trimEnd (text : List Char) : List Char := (text.reverse.dropWhile (· == ' ')).reverse

/-- What the database compares of a name. -/
def collated (username : String) : String := Text.lower (String.ofList (trimEnd username.toList))

def sameName (a b : String) : Bool := collated a == collated b

/-- The first row whose name the database takes for this one, by its own comparison. -/
def select (same : String → String → Bool) (rows : List CredentialRow) (username : String) :
    Option CredentialRow :=
  rows.find? fun row => same row.username username

/-- The credential of a row that was found, if its name is exactly the one asked for. -/
def exact [Causes] (found : Option CredentialRow) (username : String) :
    Except AuthError (Option Credential) :=
  match found.bind (·.named? username) with
  | some row => row.credential.map some
  | none => .ok none

/-- The table as a store, with the database's comparison of names. -/
def store [Causes] (same : String → String → Bool) : UserStore CredentialTable where
  find username := .of fun table =>
    let asked := username :: table.asked
    match table.forced with
    | some reason => (.error (.store reason), { table with forced := none, asked })
    | none => (exact (select same table.rows username) username, { table with asked })

end CredentialTable

end SignIn
