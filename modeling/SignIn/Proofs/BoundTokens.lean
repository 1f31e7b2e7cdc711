import SignIn.Proofs.HandedCookies

/-!
# Which CSRF tokens are accepted

The CSRF token of a session has 64 hexadecimal digits, for a key and a session token of any length,
and it is accepted with its letters in either case; no other text is
(`CsrfKey.verify_iff_toLower_eq`). So no accepted token is part of another one, and the token of
another key or another session is accepted only if it has the same code.
-/

namespace SignIn

namespace CsrfKey

variable {key : CsrfKey} {session : SessionToken} {csrf : CsrfToken}

theorem verify_eq_true_iff :
    key.verify session csrf = true ↔ csrf.text.toLower = (key.bind session).text :=
  decide_eq_true_iff.trans Hex.decode_eq_some_iff

theorem isHexToken_bind (key : CsrfKey) (session : SessionToken) :
    IsHexToken (key.bind session).text :=
  isHexToken_encode (Hmac.length_code _ _)

theorem isHexToken_of_verify (h : key.verify session csrf = true) :
    IsHexToken csrf.text.toLower :=
  verify_eq_true_iff.1 h ▸ isHexToken_bind key session

theorem length_of_verify (h : key.verify session csrf = true) : csrf.text.toList.length = 64 := by
  have digits := (isHexToken_of_verify h).1
  rwa [Hex.toList_toLower, List.length_map] at digits

theorem digit_of_verify (h : key.verify session csrf = true) {c : Char}
    (hc : c ∈ csrf.text.toList) : c.toLower ∈ "0123456789abcdef".toList := by
  refine (isHexToken_of_verify h).2 c.toLower ?_
  rw [Hex.toList_toLower]
  exact List.mem_map_of_mem hc

/-- Of two tokens that are accepted neither has the other one as a part of it. -/
theorem eq_of_part {other : CsrfToken} (h : key.verify session csrf = true)
    (ho : key.verify session other = true) (part : csrf.text.toList <:+: other.text.toList) :
    csrf = other := by
  have chars := part.eq_of_length ((length_of_verify h).trans (length_of_verify ho).symm)
  exact congrArg CsrfToken.mk (String.toList_inj.1 chars)

theorem verify_bind_iff {key' : CsrfKey} {session' : SessionToken} :
    key.verify session (key'.bind session') = true ↔ key'.code session' = key.code session := by
  rw [verify, bind, Hex.decode_encode, decide_eq_true_iff, Option.some.injEq]

/-- A session has one CSRF token, of 64 digits, and a text is accepted for the session exactly if it
is that token but for the case of its letters. It then has 64 digits itself. What is accepted no
longer is if something is added or taken away at either end, and the token of another key or another
session is accepted exactly if both have the same code. -/
theorem verify_iff_toLower_eq (key : CsrfKey) (session : SessionToken) :
    IsHexToken (key.bind session).text ∧
      (∀ csrf : CsrfToken,
        key.verify session csrf = true ↔ csrf.text.toLower = (key.bind session).text) ∧
      (∀ csrf : CsrfToken, key.verify session csrf = true → csrf.text.toList.length = 64 ∧
        ∀ c ∈ csrf.text.toList, c.toLower ∈ "0123456789abcdef".toList) ∧
      (∀ csrf other : CsrfToken, key.verify session csrf = true → csrf ≠ other →
        csrf.text.toList <:+: other.text.toList ∨ other.text.toList <:+: csrf.text.toList →
        key.verify session other = false) ∧
      ∀ (key' : CsrfKey) (session' : SessionToken),
        key.verify session (key'.bind session') = true ↔
          Hmac.code key'.bytes (Utf8.encode session'.text) =
            Hmac.code key.bytes (Utf8.encode session.text) := by
  refine ⟨isHexToken_bind key session, fun csrf => verify_eq_true_iff, fun csrf h =>
    ⟨length_of_verify h, fun c hc => digit_of_verify h hc⟩, ?part,
    fun key' session' => verify_bind_iff⟩
  case part =>
    intro csrf other h ne part
    rw [Bool.eq_false_iff]
    intro ho
    rcases part with part | part
    · exact ne (eq_of_part h ho part)
    · exact ne (eq_of_part ho h part).symm

/-- The token of a session is accepted, and not with one more digit, nor the empty text. -/
theorem verify_iff_toLower_eq_sample :
    let csrf := (ofText "k").bind ⟨"s"⟩
    (ofText "k").verify ⟨"s"⟩ csrf = true ∧ csrf.text.toList.length = 64 ∧
      (ofText "k").verify ⟨"s"⟩ ⟨csrf.text ++ "0"⟩ = false ∧
      (ofText "k").verify ⟨"s"⟩ ⟨""⟩ = false := by
  intro csrf
  obtain ⟨-, -, accepted, part, bound⟩ := verify_iff_toLower_eq (ofText "k") ⟨"s"⟩
  have own : (ofText "k").verify ⟨"s"⟩ csrf = true := (bound (ofText "k") ⟨"s"⟩).2 rfl
  have length := (accepted csrf own).1
  refine ⟨own, length, part csrf _ own ?_ (.inl ?_), part csrf _ own ?_ (.inr ?_)⟩
  · intro same
    have longer := congrArg (fun csrf : CsrfToken => csrf.text.toList.length) same
    simp at longer
  · rw [String.toList_append]
    exact (List.prefix_append _ _).isInfix
  · intro same
    rw [same] at length
    cases length
  · exact List.nil_infix

end CsrfKey

end SignIn
