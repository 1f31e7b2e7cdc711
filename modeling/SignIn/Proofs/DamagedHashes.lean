import SignIn.Proofs.Calls
import SignIn.Proofs.History
import SignIn.Proofs.PasswordRoundTrip

/-!
# Hashes that are damaged

To verify a password against a damaged hash is a fault of the service's own, and no sign-in is
refused for it, with one exception: a hash that is cut off before its salt or its output is well
formed, and no password belongs to it (`Argon2.verifyText_outcomes`). So a hash that was written
whole refuses every password once it is cut off at the end of any of its parts but the last
(`Phc.IsWhole.isCutOff_take`).
-/

namespace SignIn

namespace Argon2

/-- A hash with all that it takes to verify a password: a salt, an output, and an algorithm, a
version and parameters that can be used. -/
def IsComplete (hash : String) (recipe : HashRecipe) (output : List UInt8) : Prop :=
  ∃ phc salt, Phc.ofText? hash = some phc ∧ phc.salt = some salt ∧ phc.output = some output ∧
    HashRecipe.ofPhc? phc salt output.length = some recipe

/-- A hash that is well formed as far as it goes, and ends before its salt or its output. -/
def IsCutOff (hash : String) : Prop :=
  ∃ phc, Phc.ofText? hash = some phc ∧ (phc.salt = none ∨ phc.output = none)

/-- A hash that is neither complete nor merely cut off. -/
def IsDamaged (hash : String) : Prop :=
  ¬IsCutOff hash ∧ ∀ recipe output, ¬IsComplete hash recipe output

variable {hash : String} {recipe : HashRecipe} {output : List UInt8}

theorem hash_cases (hash : String) :
    (∃ recipe output, IsComplete hash recipe output) ∨ IsCutOff hash ∨ IsDamaged hash := by
  by_cases cut : IsCutOff hash
  · exact .inr (.inl cut)
  by_cases complete : ∃ recipe output, IsComplete hash recipe output
  · exact .inl complete
  · exact .inr (.inr ⟨cut, fun recipe output h => complete ⟨recipe, output, h⟩⟩)

section Verdict

variable [Causes] {password : String}

theorem verifyText_complete (h : IsComplete hash recipe output) (password : String) :
    verifyText password hash = .ok (decide (recipe.output password = output)) := by
  obtain ⟨phc, salt, read, hasSalt, hasOutput, usable⟩ := h
  simp only [verifyText, read, hasSalt, hasOutput, usable]

theorem verifyText_cutOff (h : IsCutOff hash) (password : String) :
    verifyText password hash = .ok false := by
  obtain ⟨phc, read, missing⟩ := h
  rw [verifyText, read]
  dsimp only
  split
  · rename_i hasSalt hasOutput
    simp [hasSalt, hasOutput] at missing
  · rfl

theorem verifyText_damaged (h : IsDamaged hash) (password : String) :
    ∃ reason, verifyText password hash = .error (.internal reason) := by
  rcases read : Phc.ofText? hash with _ | phc
  · exact ⟨_, by rw [verifyText, read]⟩
  rcases hasSalt : phc.salt with _ | salt
  · exact absurd ⟨phc, read, .inl hasSalt⟩ h.1
  rcases hasOutput : phc.output with _ | output
  · exact absurd ⟨phc, read, .inr hasOutput⟩ h.1
  rcases usable : HashRecipe.ofPhc? phc salt output.length with _ | recipe
  · exact ⟨_, by simp only [verifyText, read, hasSalt, hasOutput, usable]; rfl⟩
  · exact absurd ⟨phc, salt, read, hasSalt, hasOutput, usable⟩ (h.2 recipe output)

theorem verifyText_eq_true_iff : verifyText password hash = .ok true ↔
    ∃ recipe output, IsComplete hash recipe output ∧ recipe.output password = output := by
  constructor
  · intro right
    rcases hash_cases hash with ⟨recipe, output, complete⟩ | cut | damaged
    · rw [verifyText_complete complete] at right
      exact ⟨recipe, output, complete, of_decide_eq_true (Except.ok.inj right)⟩
    · cases (verifyText_cutOff cut password).symm.trans right
    · obtain ⟨_, fault⟩ := verifyText_damaged damaged password
      cases fault.symm.trans right
  · rintro ⟨recipe, output, complete, same⟩
    rw [verifyText_complete complete, decide_eq_true same]

theorem verifyText_eq_false_iff : verifyText password hash = .ok false ↔ IsCutOff hash ∨
    ∃ recipe output, IsComplete hash recipe output ∧ recipe.output password ≠ output := by
  constructor
  · intro wrong
    rcases hash_cases hash with ⟨recipe, output, complete⟩ | cut | damaged
    · rw [verifyText_complete complete] at wrong
      exact .inr ⟨recipe, output, complete, of_decide_eq_false (Except.ok.inj wrong)⟩
    · exact .inl cut
    · obtain ⟨_, fault⟩ := verifyText_damaged damaged password
      cases fault.symm.trans wrong
  · rintro (cut | ⟨recipe, output, complete, other⟩)
    · exact verifyText_cutOff cut password
    · rw [verifyText_complete complete, decide_eq_false other]

theorem verifyText_eq_error_iff :
    (∃ reason, verifyText password hash = .error (.internal reason)) ↔ IsDamaged hash := by
  refine ⟨fun ⟨_, fault⟩ => ?_, fun damaged => verifyText_damaged damaged password⟩
  rcases hash_cases hash with ⟨recipe, output, complete⟩ | cut | damaged
  · cases (verifyText_complete complete password).symm.trans fault
  · cases (verifyText_cutOff cut password).symm.trans fault
  · exact damaged

end Verdict

end Argon2

namespace Phc.IsWhole

variable {algorithm : List Char} {version : Nat} {params : List (List Char × List Char)}
  {salt : List Char} {output : List UInt8} (h : IsWhole algorithm version params salt output)

include h

/-- What follows the algorithm reads without an output if it ends before that. -/
theorem withVersion?_take (count : Nat) :
    ∃ phc, withVersion? algorithm (['v' :: '=' :: Nat.toDigits 10 version,
      Text.join ',' (params.map paramChars), salt].take count) = some phc ∧ phc.output = none := by
  have comma : ',' ∉ Nat.toDigits 10 version :=
    not_mem_of_isValue (isValue_toDigits h.version_lt) (by decide)
  have number := decimal?_toDigits h.version_lt
  have equals : '=' ∈ Text.join ',' (params.map paramChars) :=
    List.contains_iff_mem.1 h.contains_equals
  have long : ¬salt.length < 4 := Nat.not_lt.2 h.length_salt
  rcases count with _ | _ | _ | count
  · exact ⟨_, rfl, rfl⟩
  · simp [withVersion?, comma, number, withParams?, ending?]
  · simp [withVersion?, comma, number, withParams?, equals, h.params?_join, ending?]
  · simp [withVersion?, comma, number, withParams?, equals, h.params?_join, ending?,
      h.isValue_salt, long]

/-- The first parts of a whole hash, with the algorithm and without the output, are a hash that is
cut off. -/
theorem isCutOff_take {count : Nat} (named : 2 ≤ count) (unfinished : count < 6) :
    Argon2.IsCutOff (String.ofList (Text.join '$' ((Text.split '$'
      (chars ⟨algorithm, some version, params, some salt, some output⟩)).take count))) := by
  obtain ⟨more, rfl⟩ := Nat.exists_eq_add_of_le' named
  have first : (Text.split '$' (chars ⟨algorithm, some version, params, some salt,
      some output⟩)).take (more + 2) = [] :: algorithm :: ['v' :: '=' :: Nat.toDigits 10 version,
        Text.join ',' (params.map paramChars), salt].take more := by
    have short : more ≤ ['v' :: '=' :: Nat.toDigits 10 version,
        Text.join ',' (params.map paramChars), salt].length :=
      Nat.le_of_lt_succ (Nat.lt_of_add_lt_add_right unfinished)
    rw [h.split_chars, List.take_succ_cons, List.take_succ_cons]
    exact congrArg ([] :: algorithm :: ·) (List.take_append_of_le_length short)
  have again : Text.split '$' (Text.join '$' ([] :: algorithm :: ['v' :: '=' :: Nat.toDigits 10
      version, Text.join ',' (params.map paramChars), salt].take more)) = _ :=
    Text.split_join (List.cons_ne_nil _ _) fun part hp =>
      Text.not_mem_of_mem_split (List.mem_of_mem_take (first ▸ hp))
  obtain ⟨phc, read, unwritten⟩ := h.withVersion?_take more
  refine ⟨phc, ?_, .inr unwritten⟩
  rw [first, ofText?, String.toList_ofList, ofChars?, again]
  simp only [h.isName_algorithm, if_true, read]

end Phc.IsWhole

namespace Argon2

open Service

section SignIn

variable [Causes] {σ : Type} {service : Service σ} {cost : HashCost} {draw : Draw} {login : Login}
  {credential : Credential} {s : State σ} {found : σ}
  (verifies : service.hasher = hasher σ cost)
  (known : (service.users.find login.username).perform s.world = (.ok (some credential), found))

include verifies known

theorem signIn_damaged (h : IsDamaged credential.passwordHash) :
    ∃ reason, ((service.signIn draw login).perform s).1 = .error (.internal reason) := by
  obtain ⟨reason, refused⟩ := verifyText_damaged h login.password
  refine ⟨reason, ?_⟩
  rw [perform_signIn, known, verifies]
  simp only [hasher, Attempt.perform_of, refused]

theorem signIn_cutOff (h : IsCutOff credential.passwordHash) :
    ((service.signIn draw login).perform s).1 = .ok (.rejected .invalid) := by
  rw [perform_signIn, known, verifies]
  simp only [hasher, Attempt.perform_of, verifyText_cutOff h, Bool.false_eq_true, false_and,
    if_false]

end SignIn

/-- Whether a password belongs to a hash is said of complete hashes, by their output, and of hashes
that are cut off, to which no password belongs. For any other hash, and for no other hash, it is a
fault of the service's own to ask. A user whose hash is damaged meets such a fault and is never
refused, whatever the password; a user whose hash is cut off is refused. So is a user whose hash was
written whole and then lost its output, or more of its last parts. -/
theorem verifyText_outcomes [Causes] (password hash : String) :
    (verifyText password hash = .ok true ↔
        ∃ recipe output, IsComplete hash recipe output ∧ recipe.output password = output) ∧
      (verifyText password hash = .ok false ↔ IsCutOff hash ∨
        ∃ recipe output, IsComplete hash recipe output ∧ recipe.output password ≠ output) ∧
      ((∃ reason, verifyText password hash = .error (.internal reason)) ↔ IsDamaged hash) ∧
      (∀ {σ : Type} (service : Service σ) (cost : HashCost) (draw : Draw) (username : String)
        (credential : Credential) (s : State σ) (found : σ), service.hasher = hasher σ cost →
        (service.users.find username).perform s.world = (.ok (some credential), found) →
        credential.passwordHash = hash →
        let answer := ((service.signIn draw ⟨username, password⟩).perform s).1
        (IsDamaged hash → ∃ reason, answer = .error (.internal reason)) ∧
          (IsCutOff hash → answer = .ok (.rejected .invalid))) ∧
      ∀ (cost : HashCost) (salt : Vector UInt8 16) (other : String) (count : Nat),
        2 ≤ count → count < 6 → hash = String.ofList (Text.join '$'
          ((Text.split '$' (hashText cost salt other).toList).take count)) → IsCutOff hash := by
  refine ⟨verifyText_eq_true_iff, verifyText_eq_false_iff, verifyText_eq_error_iff, ?signIn,
    ?written⟩
  case signIn =>
    rintro σ service cost draw username credential s found verifies known rfl
    exact ⟨signIn_damaged verifies known, signIn_cutOff verifies known⟩
  case written =>
    rintro cost salt other count named unfinished rfl
    have whole : (hashText cost salt other).toList = _ := String.toList_ofList
    rw [whole]
    exact (isWhole_hash cost salt other).isCutOff_take named unfinished

section Sample

attribute [local instance] Causes.plain

/-- A hash without an output. -/
def cutHash : String := "$argon2id$v=19$m=8,t=1,p=1$c2FsdHNhbHRzYWx0"

/-- A hash with an output that is too short. -/
def shortHash : String := "$argon2id$v=19$m=8,t=1,p=1$c2FsdHNhbHRzYWx0$c2FsdA"

/-- What a user with a hash is told who signs in. -/
def answerWith (hash : String) : Except AuthError SignInAnswer :=
  (({ sampleService with hasher := hasher _ .standard }.signIn (sampleDraw 0 1)
    ⟨"alice", "secret"⟩).perform
      ⟨none, .ofCredentials [{ sampleUser with passwordHash := hash }], .empty⟩).1

/-- The user with the first hash is refused as if the password were wrong, and the user with the
second one meets a fault. A hash that was written and lost its output is like the first. -/
theorem verifyText_outcomes_sample :
    IsCutOff cutHash ∧ verifyText "secret" cutHash = .ok false ∧
      answerWith cutHash = .ok (.rejected .invalid) ∧ IsDamaged shortHash ∧
      (∃ reason, answerWith shortHash = .error (.internal reason)) ∧
      IsCutOff (String.ofList (Text.join '$' ((Text.split '$'
        (hashText .standard (.replicate 16 0) "secret").toList).take 5))) := by
  have cut : IsCutOff cutHash :=
    ⟨⟨"argon2id".toList, some 19, [(['m'], ['8']), (['t'], ['1']), (['p'], ['1'])],
      some "c2FsdHNhbHRzYWx0".toList, none⟩, by decide +kernel, .inr rfl⟩
  obtain ⟨-, wrong, -, refused, -⟩ := verifyText_outcomes "secret" cutHash
  obtain ⟨-, -, fault, failed, -⟩ := verifyText_outcomes "secret" shortHash
  obtain ⟨-, -, -, -, written⟩ := verifyText_outcomes "secret" (String.ofList (Text.join '$'
    ((Text.split '$' (hashText .standard (.replicate 16 0) "secret").toList).take 5)))
  have unread : verifyText "secret" shortHash = .error (.internal
      "invalid PHC hash: output size too short, expected at least 10 bytes") := by decide +kernel
  have damaged : IsDamaged shortHash := fault.1 ⟨_, unread⟩
  refine ⟨cut, wrong.2 (.inl cut), ?_, damaged, ?_,
    written .standard (.replicate 16 0) "secret" 5 (by decide) (by decide) rfl⟩
  · exact (refused { sampleService with hasher := hasher _ .standard } .standard (sampleDraw 0 1)
      "alice" { sampleUser with passwordHash := cutHash } _ _ rfl rfl rfl).2 cut
  · exact (failed { sampleService with hasher := hasher _ .standard } .standard (sampleDraw 0 1)
      "alice" { sampleUser with passwordHash := shortHash } _ _ rfl rfl rfl).1 damaged

end Sample

end Argon2

end SignIn
