import SignIn.Proofs.InstantRoundTrip
import SignIn.Proofs.JsonRoundTrip
import SignIn.Proofs.UserIdRoundTrip
import SignIn.Session.KeyServer

/-!
# Sessions that are stored and found

The stored form of a session reads back character by character and to the nanosecond, as that very
session exactly if its moments are proper (`Session.ofStored?_stored`, `Session.carried_eq_iff`), and
different tokens have different keys (`KeyServer.key_inj`). A key server whose next reply is not
forced carries commands out (`KeyServer.perform_save`, `KeyServer.perform_find`,
`KeyServer.perform_revoke`).
-/

namespace SignIn

namespace Session

/-- The texts of the stored form, in order. -/
def storedTexts (session : Session) : Vector String 4 :=
  #v[session.userId.text, session.username, session.createdAt.text, session.expiresAt.text]

theorem toJson_eq (session : Session) :
    session.toJson = .object (Json.textMembers (Json.fieldsOf shape session.storedTexts)) := rfl

/-- Its nanoseconds go past 10⁹ only at the end of a minute, in both of its moments. -/
def IsProper (session : Session) : Prop :=
  session.createdAt.IsProper ∧ session.expiresAt.IsProper

instance (session : Session) : Decidable session.IsProper :=
  inferInstanceAs (Decidable (session.createdAt.IsProper ∧ session.expiresAt.IsProper))

/-- A session as its stored form has it. -/
def carried (session : Session) : Session :=
  { session with createdAt := session.createdAt.carried, expiresAt := session.expiresAt.carried }

variable {session : Session}

theorem carried_eq_iff : session.carried = session ↔ session.IsProper := by
  obtain ⟨userId, username, createdAt, expiresAt⟩ := session
  simp only [carried, mk.injEq, true_and, Instant.carried_eq_iff, IsProper]

theorem ofStored?_stored (session : Session) :
    ofStored? session.stored = some session.carried := by
  have read := Json.readRecord_compact shape session.storedTexts (by decide)
  rw [ofStored?, stored, toJson_eq, read]
  simp [storedTexts, Except.toOption, UserId.ofText?_text, Instant.ofText?_text, carried]

theorem isProper_of_ofStored? {text : String} (h : ofStored? text = some session) :
    session.IsProper := by
  obtain ⟨fields, -, h⟩ := Option.bind_eq_some_iff.1 h
  obtain ⟨userId, -, h⟩ := Option.bind_eq_some_iff.1 h
  obtain ⟨createdAt, begun, h⟩ := Option.bind_eq_some_iff.1 h
  obtain ⟨expiresAt, ended, h⟩ := Option.bind_eq_some_iff.1 h
  cases h
  exact ⟨Instant.isProper_of_ofText? begun, Instant.isProper_of_ofText? ended⟩

end Session

namespace KeyServer

theorem toList_key (name : String) (token : SessionToken) :
    (key name token).toList = name.toList ++ ':' :: token.text.toList := by
  have form : key name token = name ++ ":" ++ token.text := rfl
  simp [form]

theorem key_inj {name : String} {a b : SessionToken} : key name a = key name b ↔ a = b := by
  constructor
  · intro h
    obtain ⟨a⟩ := a
    obtain ⟨b⟩ := b
    have chars := congrArg String.toList h
    simp only [toList_key, List.append_right_inj, List.cons.injEq, true_and] at chars
    exact congrArg SessionToken.mk (String.toList_inj.1 chars)
  · rintro rfl
    rfl

/-- A key is cut at its last colon. -/
theorem key_eq_iff {name other : String} {a b : SessionToken} (ha : ':' ∉ a.text.toList)
    (hb : ':' ∉ b.text.toList) : key name a = key other b ↔ name = other ∧ a = b := by
  refine ⟨fun same => ?_, by rintro ⟨rfl, rfl⟩; rfl⟩
  obtain ⟨a⟩ := a
  obtain ⟨b⟩ := b
  have chars : (name.toList ++ ':' :: a.toList).reverse = (other.toList ++ ':' :: b.toList).reverse := by
    rw [← toList_key name ⟨a⟩, ← toList_key other ⟨b⟩, same]
  simp only [List.reverse_append, List.reverse_cons, List.append_assoc, List.singleton_append] at chars
  have cut : Text.cut? ':' (a.toList.reverse ++ ':' :: name.toList.reverse) =
      some (a.toList.reverse, name.toList.reverse) :=
    Text.cut?_eq_some.2 ⟨rfl, by simpa using ha⟩
  have cut' : Text.cut? ':' (a.toList.reverse ++ ':' :: name.toList.reverse) =
      some (b.toList.reverse, other.toList.reverse) :=
    Text.cut?_eq_some.2 ⟨chars, by simpa using hb⟩
  obtain ⟨tokens, names⟩ := Prod.mk.inj (Option.some.inj (cut.symm.trans cut'))
  rw [List.reverse_inj, String.toList_inj] at tokens names
  exact ⟨names, congrArg SessionToken.mk tokens⟩

section Read

variable [Causes]

theorem readSession_eq_ok {text : String} {found : Option Session} :
    readSession text = .ok found ↔
      ∃ session, Session.ofStored? text = some session ∧ found = some session := by
  unfold readSession
  rcases Session.ofStored? text with _ | session
  · simp
  · simp [eq_comm]

theorem readSession_stored (session : Session) :
    readSession session.stored = .ok (some session.carried) :=
  readSession_eq_ok.2 ⟨_, Session.ofStored?_stored session, rfl⟩

/-- The text under the key of a token, or none, reads as a session, or none. -/
def ReadsAs (name : String) (server : KeyServer) (token : SessionToken) (found : Option Session) :
    Prop :=
  (server.values.get? (key name token)).elim (.ok none) readSession = .ok found

section Kept

variable {name : String} {server : KeyServer} {token other : SessionToken} {found : Option Session}
  {text : String} {forced : Option Reply} {received : List Command}

theorem ReadsAs.isSome_eq (h : server.ReadsAs name token found) :
    (server.values.get? (key name token)).isSome = found.isSome := by
  unfold ReadsAs at h
  generalize server.values.get? (key name token) = kept at h ⊢
  rcases kept with _ | text
  · cases h
    rfl
  · obtain ⟨session, -, rfl⟩ := readSession_eq_ok.1 h
    rfl

theorem readsAs_put_self :
    ReadsAs name ⟨server.values.put (key name token) text, forced, received⟩ token found ↔
      readSession text = .ok found := by
  simp [ReadsAs, Table.get?_put]

theorem readsAs_put_of_ne (ne : token ≠ other) :
    ReadsAs name ⟨server.values.put (key name other) text, forced, received⟩ token found ↔
      server.ReadsAs name token found := by
  simp [ReadsAs, Table.get?_put, key_inj, ne]

theorem readsAs_erase_self :
    ReadsAs name ⟨server.values.erase (key name token), forced, received⟩ token none := by
  simp [ReadsAs, Table.get?_erase]

theorem readsAs_erase_of_ne (ne : token ≠ other) :
    ReadsAs name ⟨server.values.erase (key name other), forced, received⟩ token found ↔
      server.ReadsAs name token found := by
  simp [ReadsAs, Table.get?_erase, key_inj, ne]

end Kept

section Unforced

variable {name : String} {server : KeyServer} {token : SessionToken}
  (h : server.forced = none)

include h

theorem perform_save (session : Session) (seconds : Nat) :
    ((store name).save token session seconds).perform server =
      (.ok (), ⟨server.values.put (key name token) session.stored, none,
        .setFor (key name token) seconds session.stored :: server.received⟩) := by
  simp [store, ask, receive, h, run]

theorem perform_find :
    ((store name).find token).perform server =
      ((server.values.get? (key name token)).elim (.ok none) readSession,
        ⟨server.values, none, .get (key name token) :: server.received⟩) := by
  simp only [store, ask, receive, h, Attempt.perform_of, run]
  rcases server.values.get? (key name token) with _ | text <;> rfl

theorem perform_revoke :
    ((store name).revoke token).perform server =
      (.ok (server.values.get? (key name token)).isSome,
        ⟨server.values.erase (key name token), none,
          .delete (key name token) :: server.received⟩) := by
  simp only [store, ask, receive, h, Attempt.perform_of, run]
  rcases server.values.get? (key name token) with _ | text <;> rfl

end Unforced

/-- To save a session sends its stored form, whatever the reply is. -/
theorem received_save (name : String) (token : SessionToken) (session : Session) (seconds : Nat)
    (server : KeyServer) :
    (((store name).save token session seconds).perform server).2.received =
      .setFor (key name token) seconds session.stored :: server.received := by
  simp only [store, ask, receive, Attempt.perform_of]
  rcases server.forced with _ | reply
  · rfl
  · cases reply <;> rfl

/-- What is sent to save a session reads back as the session with its moments as they are written,
and so as that very session exactly if both are proper. A text that reads as a session and the text
written for that session read as the same. Under one name different tokens have different keys, and a
key tells the name and the token apart if there is no colon in the token. -/
theorem saved_sessions_read_back (session : Session) :
    (∀ (name : String) (server : KeyServer) (token : SessionToken) (seconds : Nat), ∃ text,
        (((store name).save token session seconds).perform server).2.received =
          .setFor (key name token) seconds text :: server.received ∧
        readFound (.text text) = .ok (some session.carried) ∧
        Session.ofStored? text = some session.carried ∧
        (Session.ofStored? text = some session ↔ session.IsProper)) ∧
      (∀ text read, Session.ofStored? text = some read →
        Session.ofStored? read.stored = Session.ofStored? text) ∧
      (∀ (name : String) (a b : SessionToken), key name a = key name b ↔ a = b) ∧
      ∀ (name other : String) (a b : SessionToken), ':' ∉ a.text.toList → ':' ∉ b.text.toList →
        (key name a = key other b ↔ name = other ∧ a = b) := by
  refine ⟨fun name server token seconds => ?_, fun text read found => ?_, fun _ _ _ => key_inj,
    fun _ _ _ _ => key_eq_iff⟩
  · have reads := Session.ofStored?_stored session
    refine ⟨session.stored, received_save name token session seconds server,
      readSession_stored session, reads, ?_⟩
    rw [reads, Option.some.injEq, Session.carried_eq_iff]
  · rw [found, Session.ofStored?_stored, Session.carried_eq_iff.2 (Session.isProper_of_ofStored? found)]

end Read

section Sample

attribute [local instance] Causes.plain

/-- A session from a year before the first one until a leap second, of a user with a quotation mark,
a line feed and a character of four bytes in the name. -/
def oddSession : Session where
  userId := ⟨.replicate 16 171⟩
  username := "\x22a\n𝄞"
  createdAt := ⟨-99999999999, 1, by decide, by decide, by decide⟩
  expiresAt := ⟨59, 1999999999, by decide, by decide, by decide⟩

/-- The same session as an array, with other spellings of its texts. -/
def oddText : String :=
  "[\x22abababababababababababababababab\x22, \x22\\u0022a\\n\\ud834\\udd1e\x22,
    \x22-1199-02-15T14:13:21.000000001Z\x22, \x221970-01-01t00:00:60.999999999+00:00\x22]"

theorem saved_sessions_read_back_odd :
    (∃ text, (((store "a:b").save ⟨"c"⟩ oddSession 5).perform .empty).2.received =
        [.setFor (key "a:b" ⟨"c"⟩) 5 text] ∧ Session.ofStored? text = some oddSession) ∧
      Session.ofStored? oddText = some oddSession ∧
      Session.ofStored? oddSession.stored = Session.ofStored? oddText ∧
      (key "a:b" ⟨"c"⟩ = key "a" ⟨"c"⟩ ↔ "a:b" = "a" ∧ (⟨"c"⟩ : SessionToken) = ⟨"c"⟩) := by
  obtain ⟨sent, again, -, keys⟩ := saved_sessions_read_back oddSession
  obtain ⟨text, received, -, -, exact⟩ := sent "a:b" .empty ⟨"c"⟩ 5
  have read : Session.ofStored? oddText = some oddSession := by decide +kernel
  exact ⟨⟨text, received, exact.2 (by decide)⟩, read, again oddText oddSession read,
    keys _ _ _ _ (by decide) (by decide)⟩

/-- A session that ends 1333333333 nanoseconds after 23:56:04, not at the end of a minute. -/
def overfullSession : Session where
  userId := ⟨.replicate 16 171⟩
  username := "alice"
  createdAt := ⟨1341186900, 500000000, by decide, by decide, by decide⟩
  expiresAt := ⟨1341186964, 1333333333, by decide, by decide, by decide⟩

/-- What is sent to save it. -/
def overfullText : String :=
  "\x7b\x22user_id\x22:\x22abababab-abab-abab-abab-abababababab\x22,\x22username\x22:\x22alice\x22," ++
    "\x22created_at\x22:\x222012-07-01T23:55:00.500Z\x22," ++
    "\x22expires_at\x22:\x222012-07-01T23:56:05.333333333Z\x22\x7d"

/-- It is read back with its end in the next second. -/
theorem overfullSession_not_read_back :
    (((store "session").save ⟨"t"⟩ overfullSession 10).perform .empty).2.received =
        [.setFor "session:t" 10 overfullText] ∧
      readFound (.text overfullText) ≠ .ok (some overfullSession) := by
  decide +kernel

end Sample

end KeyServer

end SignIn
