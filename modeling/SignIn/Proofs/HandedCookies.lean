import SignIn.Proofs.CookieLine
import SignIn.Proofs.SendableCookies
import SignIn.Proofs.UserIdRoundTrip

/-!
# Cookies that are handed out, as they are read

A cookie that is handed out is a name and a value with an equals sign between them, and attributes
after semicolons. The cookies of a session read as its two tokens, and those that take a session
back as the same names and attributes with no value and no time left (`ofText?_pair`). Tokens are
written in 64 hexadecimal digits (`isHexToken_encode`), so they can be sent back as they are.
-/

namespace SignIn

/-- 64 lower-case hexadecimal digits. -/
def IsHexToken (text : String) : Prop :=
  text.toList.length = 64 ∧ ∀ c ∈ text.toList, c ∈ "0123456789abcdef".toList

theorem isHexToken_encode {bytes : List UInt8} (h : bytes.length = 32) :
    IsHexToken (Hex.encode bytes) := by
  have digits : ∀ n : Fin 16, Hex.digit n ∈ "0123456789abcdef".toList := by decide
  refine ⟨by simp [Hex.encode, h], fun c hc => ?_⟩
  simp only [Hex.encode, String.toList_ofList, Hex.encodeChars, Hex.encodeByte, List.mem_flatMap,
    List.mem_cons, List.not_mem_nil, or_false] at hc
  obtain ⟨b, -, rfl | rfl⟩ := hc
  · exact digits ⟨b.toNat / 16, by have := b.toNat_lt; omega⟩
  · exact digits ⟨b.toNat % 16, by omega⟩

namespace IsHexToken

variable {text : String} (h : IsHexToken text)

include h

theorem ne_empty : text.isEmpty = false := by
  rcases he : text.isEmpty with _ | _
  · rfl
  · rw [String.isEmpty_iff] at he
    have := h.1
    simp [he] at this

theorem semicolon_not_mem : ';' ∉ text.toList := fun hc => absurd (h.2 _ hc) (by decide)

/-- The bytes of a token can be sent back in a cookie or a header. -/
theorem isPlainByte {b : UInt8} (hb : b ∈ Utf8.encode text) : Http.isPlainByte b = true := by
  have digits : "0123456789abcdef".toList.all (fun c =>
      decide (c.toNat < 0x80) && Http.isPlainByte (UInt8.ofNat c.toNat)) = true := by decide
  rw [Utf8.encode_eq] at hb
  obtain ⟨c, hc, hb⟩ := List.mem_flatMap.1 hb
  have plain := List.all_eq_true.1 digits c (h.2 c hc)
  rw [Bool.and_eq_true, decide_eq_true_eq] at plain
  obtain ⟨low, isPlain⟩ := plain
  rw [Utf8.utf8EncodeChar_of_lt low, List.mem_singleton] at hb
  rwa [hb]

end IsHexToken

namespace Http

/-- What a cookie that is handed out says. -/
structure HandedCookie where
  name : String
  value : String
  attributes : List String
  deriving DecidableEq, Repr

namespace HandedCookie

/-- A part between semicolons, without the space before it. -/
def field (part : List Char) : String := .ofList (part.dropWhile (· = ' '))

/-- Reads a cookie that is handed out: the name up to the first equals sign, the value up to the
first semicolon after it, and the attributes between semicolons. -/
def ofText? (text : String) : Option HandedCookie := do
  let (name, rest) ← Text.cut? '=' text.toList
  match Text.split ';' rest with
  | [] => none
  | value :: attributes => return ⟨.ofList name, .ofList value, attributes.map field⟩

end HandedCookie

/-- The attributes of cookies that are handed out. -/
def CookiePolicy.attributeList (policy : CookiePolicy) (maxAge : Nat) (httpOnly : Bool) :
    List String :=
  ["Path=/", s!"Max-Age={maxAge}", "SameSite=Lax"] ++ (if httpOnly then ["HttpOnly"] else []) ++
    if policy.secure then ["Secure"] else []

theorem semicolon_not_mem_toString (n : Nat) : ';' ∉ (toString n).toList := by
  intro h
  rw [Nat.toString_eq_ofList_toDigits, String.toList_ofList] at h
  exact absurd (Nat.isDigit_of_mem_toDigits (by decide) (by decide) h) (by decide)

theorem split_maxAge (maxAge : Nat) (flags : List Char) :
    Text.split ';' ("Path=/; Max-Age=".toList ++ (toString maxAge).toList ++
        "; SameSite=Lax".toList ++ flags) =
      "Path=/".toList :: (" Max-Age=".toList ++ (toString maxAge).toList) ::
        Text.split ';' (" SameSite=Lax".toList ++ flags) := by
  have chars : "Path=/; Max-Age=".toList ++ (toString maxAge).toList ++ "; SameSite=Lax".toList ++
      flags = "Path=/".toList ++ ';' :: (" Max-Age=".toList ++ (toString maxAge).toList ++
        ';' :: (" SameSite=Lax".toList ++ flags)) := by
    simp
  have age : ';' ∉ " Max-Age=".toList ++ (toString maxAge).toList := by
    rw [List.mem_append, not_or]
    exact ⟨by decide, semicolon_not_mem_toString maxAge⟩
  rw [chars, Text.split_append (by decide), Text.split_append age]

theorem toList_attributes (policy : CookiePolicy) (maxAge : Nat) (httpOnly : Bool) :
    (policy.attributes maxAge httpOnly).toList =
      "Path=/; Max-Age=".toList ++ (toString maxAge).toList ++ "; SameSite=Lax".toList ++
        ((if httpOnly then "; HttpOnly" else "").toList ++
          (if policy.secure then "; Secure" else "").toList) := by
  have same (text : String) : toString text = text := rfl
  unfold CookiePolicy.attributes
  simp only [String.toList_append, same, List.append_assoc]

theorem split_attributes (policy : CookiePolicy) (maxAge : Nat) (httpOnly : Bool) :
    (Text.split ';' (policy.attributes maxAge httpOnly).toList).map HandedCookie.field =
      policy.attributeList maxAge httpOnly := by
  have age : HandedCookie.field (" Max-Age=".toList ++ (toString maxAge).toList) =
      s!"Max-Age={maxAge}" := by
    have chars : " Max-Age=".toList = ' ' :: "Max-Age=".toList := by decide
    rw [HandedCookie.field, chars, List.cons_append, List.dropWhile_cons_of_pos (by decide)]
    have first : "Max-Age=".toList = 'M' :: "ax-Age=".toList := by decide
    rw [first, List.cons_append, List.dropWhile_cons_of_neg (by decide), ← List.cons_append,
      ← first, String.ofList_append, String.ofList_toList, String.ofList_toList]
    rfl
  have path : HandedCookie.field "Path=/".toList = "Path=/" := by decide
  have flags : ∀ httpOnly secure : Bool, (Text.split ';' (" SameSite=Lax".toList ++
      ((if httpOnly then "; HttpOnly" else "").toList ++
        (if secure then "; Secure" else "").toList))).map HandedCookie.field =
      "SameSite=Lax" :: ((if httpOnly then ["HttpOnly"] else []) ++
        (if secure then ["Secure"] else [])) := by
    decide
  rw [toList_attributes, split_maxAge, List.map_cons, List.map_cons, age, path, flags]
  rfl

/-- A space before the attributes does not count. -/
theorem map_field_space (text : List Char) :
    (Text.split ';' (' ' :: text)).map HandedCookie.field =
      (Text.split ';' text).map HandedCookie.field := by
  rw [Text.split, if_neg (by decide)]
  rcases h : Text.split ';' text with _ | ⟨part, parts⟩
  · exact absurd h (Text.split_ne_nil ';' text)
  · have trimmed : HandedCookie.field (' ' :: part) = HandedCookie.field part := by
      rw [HandedCookie.field, List.dropWhile_cons_of_pos (by decide), HandedCookie.field]
    rw [List.map_cons, trimmed, List.map_cons]

theorem ofText?_cookie {name value attributes : String} (hn : '=' ∉ name.toList)
    (hv : ';' ∉ value.toList) :
    HandedCookie.ofText? (name ++ "=" ++ value ++ "; " ++ attributes) = some ⟨name, value,
      (Text.split ';' attributes.toList).map HandedCookie.field⟩ := by
  have chars : (name ++ "=" ++ value ++ "; " ++ attributes).toList =
      name.toList ++ '=' :: (value.toList ++ ';' :: ' ' :: attributes.toList) := by
    simp
  have cut : Text.cut? '=' (name ++ "=" ++ value ++ "; " ++ attributes).toList = some (name.toList,
      value.toList ++ ';' :: ' ' :: attributes.toList) := Text.cut?_eq_some.2 ⟨chars, hn⟩
  rw [HandedCookie.ofText?, cut]
  simp only [Option.bind_eq_bind, Option.bind_some, Text.split_append hv, String.ofList_toList,
    map_field_space]
  rfl

theorem ofText?_pair (policy : CookiePolicy) {session csrf : String} (maxAge : Nat)
    (hs : ';' ∉ session.toList) (hc : ';' ∉ csrf.toList) :
    (policy.pair session csrf maxAge).map HandedCookie.ofText? =
      [some ⟨"session", session, policy.attributeList maxAge true⟩,
        some ⟨"X-CSRF", csrf, policy.attributeList maxAge false⟩] := by
  have read (name value : String) (hn : '=' ∉ name.toList) (hv : ';' ∉ value.toList)
      (httpOnly : Bool) : HandedCookie.ofText?
        (name ++ "=" ++ value ++ "; " ++ policy.attributes maxAge httpOnly) =
      some ⟨name, value, policy.attributeList maxAge httpOnly⟩ := by
    rw [ofText?_cookie hn hv, split_attributes]
  exact congrArg₂ (fun a b => [a, b]) (read "session" session (by decide) hs true)
    (read "X-CSRF" csrf (by decide) hc false)

end Http

end SignIn
