import SignIn.Bytes.Utf8
import SignIn.Http.MediaType

/-!
# Requests

A request has a method, a path, headers in order and a body. A header can be asked for by its name
in small letters; a value is a text only where all its bytes are visible, spaces or tabs.
-/

namespace SignIn.Http

/-- Why a request cannot be sent. -/
inductive RequestFault
  | badRequestLine
  | badHeaderValue
  deriving DecidableEq, Repr

structure Request where
  method : List UInt8
  path : List UInt8
  headers : List (List UInt8 × List UInt8)
  body : List UInt8
  deriving DecidableEq, Repr

namespace Request

/-- Bytes that may be sent in the value of a header. -/
def isHeaderByte (b : UInt8) : Bool := b == 9 || (32 ≤ b && b != 127)

/-- Bytes of which the value of a header is a text. -/
def isTextByte (b : UInt8) : Bool := b == 9 || (32 ≤ b && b < 127)

/-- The request made of a method, a target, headers and a body. -/
def ofParts (method target : String) (headers : List (String × String)) (body : List UInt8) :
    Except RequestFault Request :=
  let method := Utf8.encode method
  let headers := headers.map fun (name, value) =>
    ((Utf8.encode name).map MediaType.lowerByte, Utf8.encode value)
  match Target.path? (Utf8.encode target) with
  | some path =>
    if method.isEmpty ∨ ¬method.all isToken then .error .badRequestLine
    else if headers.all fun (_, value) => value.all isHeaderByte then
      .ok ⟨method, path, headers, body⟩
    else .error .badHeaderValue
  | none => .error .badRequestLine

/-- The values of a header, in order. -/
def values (request : Request) (name : String) : List (List UInt8) :=
  (request.headers.filter fun header => header.1 = ascii name).map (·.2)

/-- The first value of a header. -/
def value? (request : Request) (name : String) : Option (List UInt8) :=
  (request.values name).head?

/-- The segments of a path, without one slash at its end. -/
def segments (request : Request) : List (List UInt8) :=
  let path : List UInt8 := match request.path with
    | 0x2f :: rest => rest
    | path => path
  let segments := splitSlash path
  match segments.getLast? with
  | some [] => segments.dropLast
  | _ => segments
where
  splitSlash : List UInt8 → List (List UInt8)
    | [] => [[]]
    | b :: rest =>
      match splitSlash rest with
      | [] => [[b]]
      | segment :: segments =>
        if b = 0x2f then [] :: segment :: segments else (b :: segment) :: segments

/-- Reads a decimal number below `2 ^ 64`; a plus sign may stand before it. -/
def decimal? (s : List UInt8) : Option Nat :=
  let digits : List UInt8 := match s with
    | 0x2b :: rest => rest
    | _ => s
  let n : Nat := digits.foldl (fun n b => 10 * n + (b.toNat - 0x30)) 0
  if digits.isEmpty ∨ ¬digits.all isDigitByte ∨ UInt64.size ≤ n then none else some n

/-- The length that a request says its body has. All that say it have to agree. -/
def contentLength? (request : Request) : Option Nat := do
  let lengths ← (request.values "content-length").mapM decimal?
  match lengths with
  | [] => none
  | length :: others => if others.all (· = length) then some length else none

/-- Whether the body is said to be JSON, or nothing is said. -/
def mayBeJson (request : Request) : Bool :=
  match request.value? "content-type" with
  | none => true
  | some value => value.all isTextByte && MediaType.ofBytes? value == some MediaType.json

end Request

end SignIn.Http
