import Mathlib.Data.List.Basic
import SignIn.Http.Cookies

/-!
# Cookies that are sent back

A cookie header that is written as cookies are, pairs with a semicolon and a space between them,
reads back as those pairs in that order (`cookies_of_line`), so the value of a cookie is found among
any others (`cookieValue?_of_line`).
-/

namespace SignIn.Http

/-- A visible byte that is neither a semicolon nor a quotation mark. -/
def isPlainByte (b : UInt8) : Bool := 0x21 ≤ b && b ≤ 0x7e && b != 0x3b && b != 0x22

/-- A cookie that is written with plain bytes only, and with no equals sign in its name. -/
structure IsPlainCookie (cookie : List UInt8 × List UInt8) : Prop where
  name : ∀ b ∈ cookie.1, isPlainByte b = true ∧ b ≠ 0x3d
  value : ∀ b ∈ cookie.2, isPlainByte b = true

/-- A cookie as it is sent back. -/
def cookieText (cookie : List UInt8 × List UInt8) : List UInt8 := cookie.1 ++ 0x3d :: cookie.2

/-- Cookies as they are sent back. -/
def cookieLineOf (cookies : List (List UInt8 × List UInt8)) : List UInt8 :=
  [0x3b, 0x20].intercalate (cookies.map cookieText)

section Bytes

variable {b : UInt8}

theorem isPlainByte_iff :
    isPlainByte b = true ↔ (0x21 ≤ b.toNat ∧ b.toNat ≤ 0x7e) ∧ b ≠ 0x3b ∧ b ≠ 0x22 := by
  simp only [isPlainByte, Bool.and_eq_true, decide_eq_true_eq, bne_iff_ne, UInt8.le_iff_toNat_le,
    and_assoc]
  rfl

theorem not_isSpace (h : isPlainByte b = true) : Request.isSpace b = false := by
  obtain ⟨⟨low, -⟩, -, -⟩ := isPlainByte_iff.1 h
  have space : b ≠ 0x20 := fun eq => by simp [eq] at low
  have tab : b ≠ 9 := fun eq => by simp [eq] at low
  simp [Request.isSpace, space, tab]

theorem isTextByte_of_isPlainByte (h : isPlainByte b = true) : Request.isTextByte b = true := by
  obtain ⟨⟨low, high⟩, -, -⟩ := isPlainByte_iff.1 h
  have ge : (32 : UInt8) ≤ b := UInt8.le_iff_toNat_le.2 (Nat.le_of_succ_le low)
  have lt : b < 127 := UInt8.lt_iff_toNat_lt.2 (Nat.lt_succ_of_le high)
  simp [Request.isTextByte, ge, lt]

end Bytes

namespace Request

variable {part : List UInt8}

theorem dropWhile_isSpace (plain : ∀ b ∈ part, isPlainByte b = true) :
    part.dropWhile isSpace = part := by
  rcases part with _ | ⟨b, rest⟩
  · rfl
  · exact List.dropWhile_cons_of_neg (by simp [not_isSpace (plain b List.mem_cons_self)])

theorem trim_plain (plain : ∀ b ∈ part, isPlainByte b = true) : trim part = part := by
  have reversed : ∀ b ∈ part.reverse, isPlainByte b = true := fun b hb =>
    plain b (List.mem_reverse.1 hb)
  rw [trim, dropWhile_isSpace plain, dropWhile_isSpace reversed, List.reverse_reverse]

theorem trim_space (part : List UInt8) : trim (0x20 :: part) = trim part := by
  rw [trim, List.dropWhile_cons_of_pos rfl, trim]

theorem splitCookies_ne_nil (quoted : Bool) (line : List UInt8) :
    splitCookies quoted line ≠ [] := by
  unfold splitCookies
  split
  · simp
  · split
    · simp
    · split <;> simp

/-- White space before a line does not count. -/
theorem splitCookies_space (line : List UInt8) :
    (splitCookies false (0x20 :: line)).map trim = (splitCookies false line).map trim := by
  have outside : (false != ((0x20 : UInt8) == 0x22)) = false := by decide
  rw [splitCookies, if_neg (by decide), outside]
  rcases h : splitCookies false line with _ | ⟨part, parts⟩
  · exact absurd h (splitCookies_ne_nil false line)
  · simp only [List.map_cons, trim_space]

theorem splitCookies_plain (plain : ∀ b ∈ part, b ≠ 0x3b ∧ b ≠ 0x22) :
    splitCookies false part = [part] := by
  induction part with
  | nil => rfl
  | cons b rest ih =>
    rw [List.forall_mem_cons] at plain
    obtain ⟨⟨semicolon, quote⟩, plain⟩ := plain
    have inside : (false != (b == 0x22)) = false := by simp [quote]
    rw [splitCookies, if_neg fun h => semicolon h.1, inside, ih plain]

theorem splitCookies_append (plain : ∀ b ∈ part, b ≠ 0x3b ∧ b ≠ 0x22) (rest : List UInt8) :
    splitCookies false (part ++ 0x3b :: rest) = part :: splitCookies false rest := by
  induction part with
  | nil => rw [List.nil_append, splitCookies, if_pos (by simp)]
  | cons b part ih =>
    rw [List.forall_mem_cons] at plain
    obtain ⟨⟨semicolon, quote⟩, plain⟩ := plain
    have inside : (false != (b == 0x22)) = false := by simp [quote]
    rw [List.cons_append, splitCookies, if_neg fun h => semicolon h.1, inside, ih plain]

end Request

section Line

variable {cookie : List UInt8 × List UInt8} {cookies : List (List UInt8 × List UInt8)}

theorem IsPlainCookie.text (h : IsPlainCookie cookie) :
    ∀ b ∈ cookieText cookie, isPlainByte b = true := by
  intro b hb
  rcases List.mem_append.1 hb with hb | hb
  · exact (h.name b hb).1
  · rcases List.mem_cons.1 hb with rfl | hb
    · decide
    · exact h.value b hb

theorem cookie?_text (h : IsPlainCookie cookie) :
    Request.cookie? (cookieText cookie) = some cookie := by
  obtain ⟨name, value⟩ := cookie
  have whole : (cookieText (name, value)).takeWhile (· != 0x3d) = name := by
    rw [cookieText, List.takeWhile_append_of_pos fun b hb => by simp [(h.name b hb).2]]
    simp
  have rest : (cookieText (name, value)).drop name.length = 0x3d :: value := List.drop_left
  unfold Request.cookie?
  rw [whole]
  dsimp only
  rw [rest]
  exact congrArg some (Prod.ext (Request.trim_plain fun b hb => (h.name b hb).1)
    (Request.trim_plain h.value))

theorem cookieLineOf_cons (first second : List UInt8 × List UInt8)
    (others : List (List UInt8 × List UInt8)) :
    cookieLineOf (first :: second :: others) =
      cookieText first ++ 0x3b :: 0x20 :: cookieLineOf (second :: others) := by
  simp [cookieLineOf]

/-- The parts of a line of cookies are the cookies, each after the first with a space before it. -/
theorem splitCookies_line (plain : ∀ cookie ∈ cookies, IsPlainCookie cookie) (hne : cookies ≠ []) :
    (Request.splitCookies false (cookieLineOf cookies)).map Request.trim =
      cookies.map cookieText := by
  have apart : ∀ cookie ∈ cookies, ∀ b ∈ cookieText cookie, b ≠ 0x3b ∧ b ≠ 0x22 :=
    fun cookie hc b hb => (isPlainByte_iff.1 ((plain cookie hc).text b hb)).2
  induction cookies with
  | nil => exact absurd rfl hne
  | cons first others ih =>
    rw [List.forall_mem_cons] at plain apart
    have trimmed := Request.trim_plain plain.1.text
    rcases others with _ | ⟨second, others⟩
    · rw [cookieLineOf, List.map_singleton, List.intercalate_singleton,
        Request.splitCookies_plain apart.1, List.map_singleton, trimmed]
    · rw [cookieLineOf_cons, Request.splitCookies_append apart.1, List.map_cons, trimmed,
        Request.splitCookies_space, ih plain.2 (by simp) apart.2]
      rfl

theorem isTextByte_line (plain : ∀ cookie ∈ cookies, IsPlainCookie cookie) :
    (cookieLineOf cookies).all Request.isTextByte = true := by
  have text {cookie : List UInt8 × List UInt8} (h : IsPlainCookie cookie) :
      (cookieText cookie).all Request.isTextByte = true :=
    List.all_eq_true.2 fun b hb => isTextByte_of_isPlainByte (h.text b hb)
  induction cookies with
  | nil => rfl
  | cons first others ih =>
    rw [List.forall_mem_cons] at plain
    rcases others with _ | ⟨second, others⟩
    · rw [cookieLineOf, List.map_singleton, List.intercalate_singleton, text plain.1]
    · rw [cookieLineOf_cons, List.all_append, text plain.1, List.all_cons, List.all_cons,
        ih plain.2]
      rfl

/-- A line of cookies reads back. -/
theorem cookies_of_line {request : Request} (plain : ∀ cookie ∈ cookies, IsPlainCookie cookie)
    (hne : cookies ≠ []) (sent : request.values "cookie" = [cookieLineOf cookies]) :
    request.cookies = cookies := by
  have line : request.cookieLine = cookieLineOf cookies := by
    rw [Request.cookieLine, sent, List.intercalate_singleton]
  have parts : (Request.splitCookies false (cookieLineOf cookies)).filterMap
      (fun part => Request.cookie? (Request.trim part)) =
        (cookies.map cookieText).filterMap Request.cookie? := by
    rw [← splitCookies_line plain hne, List.filterMap_map]
    rfl
  have read : cookies.filterMap (Request.cookie? ∘ cookieText) = cookies.filterMap some :=
    List.filterMap_congr fun cookie hc => cookie?_text (plain cookie hc)
  rw [Request.cookies, line]
  exact (if_pos (isTextByte_line plain)).trans (parts.trans
    ((List.filterMap_map).trans (read.trans List.filterMap_some)))

/-- A cookie is found if no cookie before it has its name. -/
theorem cookieValue?_of_line {request : Request} {name : String} {value : List UInt8}
    {before after : List (List UInt8 × List UInt8)}
    (plain : ∀ cookie ∈ before ++ (ascii name, value) :: after, IsPlainCookie cookie)
    (other : ∀ cookie ∈ before, cookie.1 ≠ ascii name)
    (sent : request.values "cookie" = [cookieLineOf (before ++ (ascii name, value) :: after)]) :
    request.cookieValue? name = Utf8.decode value := by
  have skipped : before.find? (fun cookie => cookie.1 = ascii name) = none :=
    List.find?_eq_none.2 fun cookie hc => by simpa using other cookie hc
  rw [Request.cookieValue?, cookies_of_line plain (by simp) sent, List.find?_append, skipped]
  simp

end Line

end SignIn.Http
