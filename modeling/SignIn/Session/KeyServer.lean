import SignIn.Auth.Causes
import SignIn.Bytes.Words
import SignIn.Session.Store
import SignIn.Table

/-!
# Sessions in a key server

A key server keeps texts under keys and answers three commands. Sessions are kept there in their
stored form, under the token with a common name and a colon before it; the server itself lets them
go when their seconds are over, so there is nothing to purge.
-/

namespace SignIn

namespace KeyServer

inductive Command
  | setFor (key : String) (seconds : Nat) (value : String)
  | get (key : String)
  | delete (key : String)
  deriving DecidableEq, Repr

inductive Reply
  | done
  | text (value : String)
  | number (value : Int)
  | nothing
  | error (reason : String)
  deriving DecidableEq, Repr

end KeyServer

/-- The texts of a key server, the reply that the next command gets whatever it is, and the
commands received, the last one first. -/
structure KeyServer where
  values : Table String String
  forced : Option KeyServer.Reply
  received : List KeyServer.Command

namespace KeyServer

def empty : KeyServer := ⟨.empty, none, []⟩

instance : Inhabited KeyServer := ⟨empty⟩

/-- Carries a command out. -/
def run (command : Command) (values : Table String String) : Reply × Table String String :=
  match command with
  | .setFor key _ value => (.done, values.put key value)
  | .get key =>
    match values.get? key with
    | some value => (.text value, values)
    | none => (.nothing, values)
  | .delete key => (.number (if (values.get? key).isSome then 1 else 0), values.erase key)

/-- Receives a command. A forced reply stands in for carrying it out. -/
def receive (command : Command) (server : KeyServer) : Reply × KeyServer :=
  let received := command :: server.received
  match server.forced with
  | some reply => (reply, { server with forced := none, received })
  | none =>
    let (reply, values) := run command server.values
    (reply, { server with values, received })

/-- Sends a command and reads the reply. An error in reply is a fault of the store. -/
def ask {α : Type} (command : Command) (read : Reply → Except AuthError α) : Attempt KeyServer α :=
  .of fun server =>
    let (reply, server) := server.receive command
    match reply with
    | .error reason => (.error (.store reason), server)
    | reply => (read reply, server)

/-- The key of a token. -/
def key (name : String) (token : SessionToken) : String := s!"{name}:{token.text}"

/-- Reads an integer of 64 bits with an optional sign. -/
def integer? (text : String) : Option Int :=
  let signed (negative : Bool) (digits : List Char) : Option Int :=
    let n : Int := Instant.digitsValue digits
    let n := if negative then -n else n
    if digits.isEmpty ∨ ¬digits.all Char.isDigit ∨ ¬Bytes.IsSigned64 n then none else some n
  match text.toList with
  | '+' :: digits => signed false digits
  | '-' :: digits => signed true digits
  | digits => signed false digits

def readSession [causes : Causes] (text : String) : Except AuthError (Option Session) :=
  match Session.ofStored? text with
  | some session => .ok (some session)
  | none => .error (.internal s!"corrupt session: {causes.session text}")

def readFound [Causes] : Reply → Except AuthError (Option Session)
  | .nothing => .ok none
  | .text value => readSession value
  | .number value => readSession (toString value)
  | .done => readSession "OK"
  | .error reason => .error (.store reason)

def readRemoved [causes : Causes] : Reply → Except AuthError Bool
  | .number n => .ok (0 < n)
  | .text value =>
    match integer? value with
    | some n => .ok (0 < n)
    | none => .error (.store (causes.number (some value)))
  | .error reason => .error (.store reason)
  | .done | .nothing => .error (.store (causes.number none))

/-- A key server as a store, with the common name of its keys. -/
def store [Causes] (name : String) : SessionStore KeyServer where
  save token session seconds :=
    ask (.setFor (key name token) seconds session.stored) fun _ => .ok ()
  find token := ask (.get (key name token)) readFound
  revoke token := ask (.delete (key name token)) readRemoved
  purge _ := pure 0

end KeyServer

end SignIn
