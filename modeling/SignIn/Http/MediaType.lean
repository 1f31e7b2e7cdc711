import SignIn.Http.Target

/-!
# Media types

A media type is a type and a subtype with a slash between them, then parameters after semicolons.
Letters count in either case, and what follows the last plus sign of a subtype is not a part of it.
-/

namespace SignIn.Http

structure MediaType where
  main : List UInt8
  sub : List UInt8
  deriving DecidableEq, Repr

namespace MediaType

def lowerByte (b : UInt8) : UInt8 := if 0x41 ≤ b ∧ b ≤ 0x5a then b + 0x20 else b

def isQuotedByte (b : UInt8) : Bool := 31 < b && b != 127

/-- What follows a quoted value after its first quotation mark. The value is not empty: a quotation
mark at its start belongs to it. -/
def afterQuoted : List UInt8 → Option (List UInt8)
  | [] => none
  | first :: rest =>
    if ¬isQuotedByte first then none
    else
      match rest.dropWhile fun b => isQuotedByte b && b != 0x22 with
      | 0x22 :: rest => some (rest.dropWhile (· == 0x20))
      | _ => none

theorem length_afterQuoted_lt {s r : List UInt8} (h : afterQuoted s = some r) :
    r.length < s.length := by
  unfold afterQuoted at h
  split at h
  · cases h
  · rename_i first rest
    split at h
    · cases h
    · split at h
      · rename_i rest' eq
        cases h
        have a :=
          (List.dropWhile_sublist (fun b => isQuotedByte b && b != 0x22) (l := rest)).length_le
        have b := (List.dropWhile_sublist (· == (0x20 : UInt8)) (l := rest')).length_le
        rw [eq] at a
        simp only [List.length_cons] at a ⊢; omega
      · cases h

/-- What follows the equals sign after the name of a parameter. -/
def afterName (s : List UInt8) : Option (List UInt8) :=
  match s, s.dropWhile isToken with
  | b :: _, 0x3d :: rest => if isToken b then some rest else none
  | _, _ => none

theorem length_afterName_lt {s r : List UInt8} (h : afterName s = some r) :
    r.length < s.length := by
  unfold afterName at h
  split at h
  · rename_i eq
    split at h
    · cases h
      have := (List.dropWhile_sublist isToken (l := ‹UInt8› :: ‹List UInt8›)).length_le
      rw [eq] at this
      simp only [List.length_cons] at this ⊢; omega
    · cases h
  · cases h

/-- What follows the value of a parameter. -/
def afterValue (s : List UInt8) : Option (List UInt8) :=
  match s with
  | [] => some []
  | 0x22 :: rest => afterQuoted rest
  | b :: _ => if isToken b then some (s.dropWhile isToken) else none

theorem length_afterValue_le {s r : List UInt8} (h : afterValue s = some r) :
    r.length ≤ s.length := by
  unfold afterValue at h
  split at h
  · cases h; exact Nat.le_refl _
  · have := length_afterQuoted_lt h
    simp only [List.length_cons]; omega
  · split at h
    · cases h; exact (List.dropWhile_sublist isToken).length_le
    · cases h

/-- Whether what follows a semicolon is well formed. -/
def areParams (s : List UInt8) : Bool :=
  have shorter := (List.dropWhile_sublist (· == (0x20 : UInt8)) (l := s)).length_le
  match e : s.dropWhile (· == 0x20) with
  | [] => true
  | b :: rest =>
    match h : afterName (b :: rest) with
    | none => false
    | some value =>
      match h' : afterValue value with
      | none => false
      | some [] => true
      | some (c :: rest') =>
        have := length_afterName_lt h
        have := length_afterValue_le h'
        have : rest'.length < s.length := by
          rw [e] at shorter
          simp only [List.length_cons] at *; omega
        c == 0x3b && areParams rest'
termination_by s.length

/-- A subtype without what follows the last plus sign in it. -/
def withoutSuffix (sub : List UInt8) : List UInt8 :=
  match sub.reverse.dropWhile (· != 0x2b) with
  | _ :: rest => if rest.isEmpty then sub else rest.reverse
  | [] => sub

/-- The media type that a text names. -/
def ofBytes? (s : List UInt8) : Option MediaType :=
  let main := s.takeWhile isToken
  match s.drop main.length with
  | 0x2f :: rest =>
    let sub := rest.takeWhile isToken
    let type : MediaType := ⟨main.map lowerByte, (withoutSuffix sub).map lowerByte⟩
    if main.isEmpty then none
    else
      match rest.drop sub.length with
      | [] => some type
      | 0x3b :: params => if ¬sub.isEmpty ∧ areParams params then some type else none
      | _ => none
  | _ => none

def json : MediaType := ⟨ascii "application", ascii "json"⟩

end MediaType

end SignIn.Http
