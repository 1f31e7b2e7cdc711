import SignIn.Proofs.PasswordRoundTrip

/-!
# Hashes of any cost

A hash of a password says itself with which cost and salt it was made: it reads back in full
(`Argon2.ofText?_hashText`), and two hashes are equal only if these are (`Argon2.hashText_eq_iff`).
So to verify a password takes the cost of the hash and not that of the hasher, and any hasher tells
the same (`Argon2.verify_under_any_cost`).
-/

namespace SignIn

namespace HashCost

/-- A cost comes from its own numbers and from no others. -/
theorem ofNumbers_eq_ok [Causes] {memoryKib passes : Nat} {cost : HashCost} :
    ofNumbers memoryKib passes = .ok cost ↔ memoryKib = cost.memoryKib ∧ passes = cost.passes := by
  unfold ofNumbers
  constructor
  · intro accepted
    split at accepted
    · obtain rfl := Except.ok.inj accepted
      exact ⟨rfl, rfl⟩
    · cases accepted
  · rintro ⟨rfl, rfl⟩
    rw [dif_pos ⟨cost.memory_ge, cost.memory_lt, cost.passes_ge, cost.passes_lt⟩]

example [Causes] : ofNumbers 19456 2 = .ok standard := rfl

/-- The numbers make the cost. -/
theorem ext {a b : HashCost} (memory : a.memoryKib = b.memoryKib) (passes : a.passes = b.passes) :
    a = b := by
  cases a
  cases b
  simp only at memory passes
  subst memory passes
  rfl

end HashCost

namespace Argon2

variable {cost other : HashCost} {salt otherSalt : Vector UInt8 16} {password presented : String}

theorem recipe_inj :
    recipe cost salt = recipe other otherSalt ↔ cost = other ∧ salt = otherSalt := by
  constructor
  · intro same
    simp only [recipe, HashRecipe.mk.injEq, Params.mk.injEq, true_and, and_true] at same
    obtain ⟨⟨memory, passes⟩, salts⟩ := same
    exact ⟨HashCost.ext memory passes, Vector.toList_inj.1 salts⟩
  · rintro ⟨rfl, rfl⟩
    rfl

/-- Hashes are equal only if their costs, their salts and their outputs are. So hashes with different
salts differ, though they may be of the same password. -/
theorem hashText_eq_iff :
    hashText cost salt password = hashText other otherSalt presented ↔
      cost = other ∧ salt = otherSalt ∧
        (recipe cost salt).output password = (recipe cost salt).output presented := by
  constructor
  · intro same
    have read := ofText?_hashText cost salt password
    simp only [same, ofText?_hashText, Option.some.injEq, Phc.mk.injEq, true_and] at read
    obtain ⟨params, salts, outputs⟩ := read
    have recipes : some (recipe cost salt) = some (recipe other otherSalt) := by
      rw [← ofPhc?_hash cost salt none, ← ofPhc?_hash other otherSalt none, params, salts]
    obtain ⟨rfl, rfl⟩ := recipe_inj.1 (Option.some.inj recipes)
    exact ⟨rfl, rfl, outputs.symm⟩
  · rintro ⟨rfl, rfl, outputs⟩
    unfold recipe at outputs
    rw [hashText, hashText, outputs]

/-- A password that was hashed under one cost belongs to the hash under any other one. The text of
the hash reads back as it was written, with its numbers, its salt and its output, and what is
computed to verify a password is what was computed to hash it. So whether any other password belongs
to the hash depends on the cost in it, and not on that of the hasher that is asked. -/
theorem verify_under_any_cost [Causes] {σ : Type} (cost other : HashCost) (salt : Vector UInt8 16)
    (password : String) (s : σ) :
    let recipe : HashRecipe := ⟨.id, 19, ⟨cost.memoryKib, cost.passes, 1, 32⟩, salt.toList, []⟩
    let saltText := Base64.encodeChars salt.toList
    let phc : Phc := ⟨"argon2id".toList, some 19, [(['m'], Nat.toDigits 10 cost.memoryKib),
      (['t'], Nat.toDigits 10 cost.passes), (['p'], ['1'])], some saltText,
      some (recipe.output password)⟩
    (∀ memoryKib passes, HashCost.ofNumbers memoryKib passes = .ok cost ↔
        memoryKib = cost.memoryKib ∧ passes = cost.passes) ∧
      ∃ hash, ((hasher σ cost).hash salt password).perform s = (.ok hash, s) ∧
        Phc.ofText? hash = some phc ∧ HashRecipe.ofPhc? phc saltText 32 = some recipe ∧
        ((hasher σ other).verify password hash).perform s = (.ok true, s) ∧
        ∀ presented,
          ((hasher σ other).verify presented hash).perform s =
              (.ok (decide (recipe.output presented = recipe.output password)), s) ∧
            ((hasher σ other).verify presented hash).perform s =
              ((hasher σ cost).verify presented hash).perform s := by
  intro recipe saltText phc
  have verdict (presented : String) : verifyText presented (hashText cost salt password) =
      .ok (decide (recipe.output presented = recipe.output password)) :=
    verifyText_hashText cost salt password presented
  refine ⟨fun _ _ => HashCost.ofNumbers_eq_ok, hashText cost salt password, rfl,
    ofText?_hashText cost salt password, ofPhc?_hash cost salt _, ?own, fun presented => ⟨?any, rfl⟩⟩
  case own => exact congrArg (·, s) (verifyText_self cost salt password)
  case any => exact congrArg (·, s) (verdict presented)

end Argon2

end SignIn
