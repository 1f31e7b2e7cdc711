import SignIn.Http.CookiePolicy
import SignIn.Proofs.CharBytes

/-!
# Cookies that can be sent

The cookies of a session that was just opened can always be sent (`issue_cookies`): tokens are
written in hexadecimal digits, and all else in a cookie is visible.
-/

namespace SignIn

/-- A visible character of the first 128, or a space. -/
def isVisibleChar (c : Char) : Bool := 32 ≤ c.toNat && c.toNat < 127

def IsVisible (text : String) : Prop := text.toList.all isVisibleChar = true

instance (text : String) : Decidable (IsVisible text) :=
  inferInstanceAs (Decidable (text.toList.all isVisibleChar = true))

theorem isVisibleChar_iff {c : Char} : isVisibleChar c = true ↔ 32 ≤ c.toNat ∧ c.toNat < 127 := by
  simp [isVisibleChar]

theorem isVisible_iff {text : String} :
    IsVisible text ↔ ∀ c ∈ text.toList, 32 ≤ c.toNat ∧ c.toNat < 127 := by
  simp only [IsVisible, List.all_eq_true, isVisibleChar_iff]

theorem IsVisible.append {a b : String} (ha : IsVisible a) (hb : IsVisible b) :
    IsVisible (a ++ b) := by
  unfold IsVisible at *
  rw [String.toList_append, List.all_append, ha, hb, Bool.and_self]

theorem isVisible_toString (n : Nat) : IsVisible (toString n) := by
  refine isVisible_iff.2 fun c h => ?_
  rw [Nat.toString_eq_ofList_toDigits, String.toList_ofList] at h
  have : c.isDigit = true := Nat.isDigit_of_mem_toDigits (by decide) (by decide) h
  have hc : 48 ≤ c.toNat ∧ c.toNat ≤ 57 := by
    simpa [Char.isDigit, UInt32.le_iff_toNat_le] using this
  omega

theorem isVisible_hex (bytes : List UInt8) : IsVisible (Hex.encode bytes) := by
  have digits : ∀ n : Fin 16, 32 ≤ (Hex.digit n).toNat ∧ (Hex.digit n).toNat < 127 := by decide
  refine isVisible_iff.2 fun c h => ?_
  simp only [Hex.encode, String.toList_ofList, Hex.encodeChars, Hex.encodeByte, List.mem_flatMap,
    List.mem_cons, List.not_mem_nil, or_false] at h
  obtain ⟨b, -, rfl | rfl⟩ := h
  · exact digits ⟨b.toNat / 16, by have := b.toNat_lt; omega⟩
  · exact digits ⟨b.toNat % 16, by omega⟩

namespace Http

theorem isSendable_of_isVisible {text : String} (h : IsVisible text) :
    CookiePolicy.isSendable text = true := by
  rw [CookiePolicy.isSendable, Utf8.encode_eq, List.all_eq_true]
  intro b hb
  obtain ⟨c, hc, hb⟩ := List.mem_flatMap.1 hb
  have visible := isVisible_iff.1 h c hc
  rw [Utf8.utf8EncodeChar_of_lt (by omega), List.mem_singleton] at hb
  subst hb
  have code : (UInt8.ofNat c.toNat).toNat = c.toNat := by simp; omega
  have ge : (32 : UInt8) ≤ UInt8.ofNat c.toNat := by
    rw [UInt8.le_iff_toNat_le, code]
    exact visible.1
  have ne : UInt8.ofNat c.toNat ≠ 127 := by
    intro eq
    have : c.toNat = 127 := code.symm.trans (congrArg UInt8.toNat eq)
    omega
  simp [Request.isHeaderByte, ge, ne]

theorem isVisible_attributes (policy : CookiePolicy) (maxAge : Nat) (httpOnly : Bool) :
    IsVisible (policy.attributes maxAge httpOnly) := by
  unfold CookiePolicy.attributes
  refine .append (.append (.append (.append ?_ (isVisible_toString maxAge)) ?_) ?_) ?_
  · decide
  · decide
  · cases httpOnly <;> decide
  · cases policy.secure <;> decide

theorem isSendable_pair (policy : CookiePolicy) {session csrf : String} (maxAge : Nat)
    (hs : IsVisible session) (hc : IsVisible csrf) :
    (policy.pair session csrf maxAge).all CookiePolicy.isSendable = true := by
  have cookie : ∀ name value, IsVisible name → IsVisible value → ∀ httpOnly,
      CookiePolicy.isSendable s!"{name}={value}; {policy.attributes maxAge httpOnly}" = true := by
    intro name value hn hv httpOnly
    refine isSendable_of_isVisible (.append (.append (.append (.append hn ?_) hv) ?_) ?_)
    · decide
    · decide
    · exact isVisible_attributes policy maxAge httpOnly
  have first := cookie CookiePolicy.sessionName session (by decide) hs true
  have second := cookie CookiePolicy.csrfName csrf (by decide) hc false
  simp only [CookiePolicy.pair, List.all_cons, List.all_nil, first, second, Bool.and_self]

/-- The cookies that hand a session out carry its two tokens. -/
theorem issue_eq_pair {policy : CookiePolicy} {session : SessionToken} {csrf : CsrfToken}
    {cookies : List String} (h : policy.issue session csrf = some cookies) :
    cookies = policy.pair session.text csrf.text policy.maxAge.seconds := by
  unfold CookiePolicy.issue at h
  dsimp only at h
  split at h <;> cases h
  rfl

theorem issue_cookies (policy : CookiePolicy) (bytes : Vector UInt8 32) (key : CsrfKey) :
    ∃ cookies, policy.issue (.ofRandom bytes) (key.bind (.ofRandom bytes)) = some cookies :=
  ⟨_, if_pos (isSendable_pair policy _ (isVisible_hex _) (isVisible_hex _))⟩

end Http

end SignIn
