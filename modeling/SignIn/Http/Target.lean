/-!
# Request targets

The target of a request is a path with a query, an address with a scheme before them, an authority
alone, or a single asterisk. Only its path matters here; a fragment is cut off.
-/

namespace SignIn.Http

def isLetter (b : UInt8) : Bool := (0x41 ≤ b && b ≤ 0x5a) || (0x61 ≤ b && b ≤ 0x7a)

def isDigitByte (b : UInt8) : Bool := 0x30 ≤ b && b ≤ 0x39

/-- The bytes of a text of ASCII characters. -/
def ascii (text : String) : List UInt8 := text.toList.map fun c => UInt8.ofNat c.toNat

/-- The bytes of methods and of the names of media types. -/
def isToken (b : UInt8) : Bool :=
  isLetter b || isDigitByte b || (ascii "!#$%&'*+-.^_\x60|~").contains b

/-- Bytes that may stand in a path as they are. -/
def isPathByte (b : UInt8) : Bool :=
  b == 0x21 || b == 0x22 || (0x24 ≤ b && b ≤ 0x3b) || b == 0x3d || (0x40 ≤ b && b ≤ 0x5f) ||
    (0x61 ≤ b && b ≤ 0x7e) || 0x7f ≤ b

/-- Bytes that may stand in a query as they are. -/
def isQueryByte (b : UInt8) : Bool :=
  b == 0x21 || (0x24 ≤ b && b ≤ 0x3b) || b == 0x3d || 0x3f ≤ b

def isSchemeByte (b : UInt8) : Bool :=
  isLetter b || isDigitByte b || b == 0x2b || b == 0x2d || b == 0x2e

/-- Bytes of an authority, up to which no path, query or fragment has begun. -/
def isAuthorityByte (b : UInt8) : Bool :=
  isLetter b || isDigitByte b || (ascii "!$&'()*+,-.:;=@[]_~%").contains b

namespace Target

/-- Whether a query is well formed up to its end or a fragment. -/
def isQuery (s : List UInt8) : Bool :=
  match s.dropWhile isQueryByte with
  | [] => true
  | b :: _ => b == 0x23

/-- The path at the front, if it and what follows are well formed. -/
def splitPath (s : List UInt8) : Option (List UInt8) :=
  let path := s.takeWhile isPathByte
  match s.drop path.length with
  | [] => some path
  | b :: rest => if b = 0x23 ∨ b = 0x3f ∧ isQuery rest then some path else none

/-- What is known of an authority up to a place in it. -/
structure Reading where
  colons : Nat
  opened : Bool
  closed : Bool
  hasPercent : Bool
  endsInAt : Bool

/-- Takes a byte of an authority in. A colon or percent sign counts only after the last at sign
and outside brackets. -/
def Reading.step (r : Reading) (b : UInt8) : Option Reading :=
  let r := { r with endsInAt := false }
  if b = 0x3a then if 8 ≤ r.colons then none else some { r with colons := r.colons + 1 }
  else if b = 0x5b then
    if r.hasPercent ∨ r.opened then none else some { r with opened := true }
  else if b = 0x5d then
    if ¬r.opened ∨ r.closed then none
    else some { r with closed := true, colons := 0, hasPercent := false }
  else if b = 0x40 then some { r with colons := 0, hasPercent := false, endsInAt := true }
  else if b = 0x25 then some { r with hasPercent := true }
  else some r

def isAuthority (s : List UInt8) : Bool :=
  match s.foldlM Reading.step ⟨0, false, false, false, false⟩ with
  | some r => r.opened == r.closed && r.colons ≤ 1 && !r.hasPercent && !r.endsInAt
  | none => false

/-- The authority at the front, if it is well formed, and what follows. -/
def splitAuthority (s : List UInt8) : Option (List UInt8 × List UInt8) :=
  let authority := s.takeWhile isAuthorityByte
  let rest := s.drop authority.length
  let ended : Bool := match rest with
    | [] => true
    | b :: _ => b == 0x2f || b == 0x3f || b == 0x23
  if ended && isAuthority authority then some (authority, rest) else none

/-- What follows a scheme with its colon and slashes, and the length of its name. -/
def splitScheme (s : List UInt8) : Option (Nat × List UInt8) :=
  let scheme := s.takeWhile isSchemeByte
  match s.drop scheme.length with
  | 0x3a :: 0x2f :: 0x2f :: rest => some (scheme.length, rest)
  | _ => none

/-- The path of a target, if the target is well formed. -/
def path? (target : List UInt8) : Option (List UInt8) :=
  if 65534 < target.length then none
  else
    match target with
    | [] => none
    | 0x2f :: _ => splitPath target
    | [0x2a] => some [0x2a]
    | _ =>
      match splitScheme target with
      | some (length, rest) =>
        if 64 < length then none
        else
          match splitAuthority rest with
          | some (authority, rest) => if authority.isEmpty then none else splitPath rest
          | none => none
      | none =>
        match splitAuthority target with
        | some (_, []) => some []
        | _ => none

end Target

end SignIn.Http
