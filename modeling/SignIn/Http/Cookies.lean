import SignIn.Http.Request

/-!
# Cookies in requests

The cookies of a request are pairs of a name and a value with semicolons between them. A semicolon
between quotation marks separates nothing. White space around names and values does not count.
-/

namespace SignIn.Http

namespace Request

def isSpace (b : UInt8) : Bool := b == 0x20 || b == 9

def trim (s : List UInt8) : List UInt8 :=
  ((s.dropWhile isSpace).reverse.dropWhile isSpace).reverse

/-- The parts between semicolons outside quotation marks. -/
def splitCookies (quoted : Bool) : List UInt8 → List (List UInt8)
  | [] => [[]]
  | b :: rest =>
    if b = 0x3b ∧ ¬quoted then [] :: splitCookies false rest
    else
      match splitCookies (quoted != (b == 0x22)) rest with
      | [] => [[b]]
      | part :: parts => (b :: part) :: parts

/-- The name and the value of a cookie. -/
def cookie? (part : List UInt8) : Option (List UInt8 × List UInt8) :=
  let name := part.takeWhile (· != 0x3d)
  match part.drop name.length with
  | _ :: value => some (trim name, trim value)
  | [] => none

/-- The values of all cookie headers as one. -/
def cookieLine (request : Request) : List UInt8 :=
  [0x3b, 0x20].intercalate (request.values "cookie")

/-- The cookies of a request. One byte that is no part of a text takes them all away. -/
def cookies (request : Request) : List (List UInt8 × List UInt8) :=
  let line := request.cookieLine
  if line.all isTextByte then (splitCookies false line).filterMap fun part => cookie? (trim part)
  else []

/-- The value of the first cookie with a name. -/
def cookieValue? (request : Request) (name : String) : Option String :=
  ((request.cookies.find? fun cookie => cookie.1 = ascii name).map (·.2)).bind Utf8.decode

end Request

end SignIn.Http
