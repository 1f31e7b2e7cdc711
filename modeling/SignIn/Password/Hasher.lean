import SignIn.Auth.Attempt
import SignIn.Auth.Causes
import SignIn.Bytes.Utf8
import SignIn.Digest.Argon2
import SignIn.Password.Phc

/-!
# Hashing passwords

A hasher makes a text from a password and a salt, and tells whether a password belongs to such a
text. The one used here is Argon2id with a chosen cost; it verifies with the algorithm and the cost
that stand in the text.
-/

namespace SignIn

/-- The operations that any hasher of passwords has, on a state of its own. -/
structure PasswordHasher (σ : Type) where
  /-- The hash of a password with a salt. -/
  hash : Vector UInt8 16 → String → Attempt σ String
  /-- Whether a password belongs to a hash. -/
  verify : String → String → Attempt σ Bool

namespace PasswordHasher

variable {σ τ : Type}

/-- The same hasher as a part of a larger state. -/
def within (part : τ → σ) (replace : σ → τ → τ) (hasher : PasswordHasher σ) : PasswordHasher τ where
  hash salt password := (hasher.hash salt password).within part replace
  verify password hash := (hasher.verify password hash).within part replace

end PasswordHasher

/-- The memory and the passes that hashing a password takes. -/
structure HashCost where
  memoryKib : Nat
  passes : Nat
  memory_ge : 8 ≤ memoryKib := by decide
  memory_lt : memoryKib < UInt32.size := by decide
  passes_ge : 1 ≤ passes := by decide
  passes_lt : passes < UInt32.size := by decide
  deriving DecidableEq, Repr

namespace HashCost

/-- The cost where none is chosen. -/
def standard : HashCost := ⟨19456, 2, by decide, by decide, by decide, by decide⟩

/-- The cost with this memory and these passes, if they are enough. -/
def ofNumbers [causes : Causes] (memoryKib passes : Nat) : Except AuthError HashCost :=
  if h : 8 ≤ memoryKib ∧ memoryKib < UInt32.size ∧ 1 ≤ passes ∧ passes < UInt32.size then
    .ok ⟨memoryKib, passes, h.1, h.2.1, h.2.2.1, h.2.2.2⟩
  else .error (.internal s!"argon2 params: {causes.cost memoryKib passes}")

end HashCost

/-- All that a hash of a password depends on beside the password. -/
structure HashRecipe where
  variant : Argon2.Variant
  version : Nat
  params : Argon2.Params
  salt : List UInt8
  data : List UInt8

namespace HashRecipe

/-- The output for a password. -/
def output (recipe : HashRecipe) (password : String) : List UInt8 :=
  Argon2.hash recipe.variant recipe.version recipe.params
    ⟨Utf8.encode password, recipe.salt, recipe.data⟩

def variant? (name : List Char) : Option Argon2.Variant :=
  if name = "argon2d".toList then some .d
  else if name = "argon2i".toList then some .i
  else if name = "argon2id".toList then some .id
  else none

/-- The version of a hash in text; the later one where it is not said. -/
def version? : Option Nat → Option Nat
  | none => some 19
  | some n => if n = 16 ∨ n = 19 then some n else none

/-- The costs and the data that the parameters of a hash in text set. The name of a key has no
effect. -/
def withParam (recipe : HashRecipe) (param : List Char × List Char) : Option HashRecipe :=
  let (name, value) := param
  if name = ['m'] then
    (Phc.decimal? value).map fun n => { recipe with params.memoryKib := n }
  else if name = ['t'] then (Phc.decimal? value).map fun n => { recipe with params.passes := n }
  else if name = ['p'] then (Phc.decimal? value).map fun n => { recipe with params.lanes := n }
  else if name = "keyid".toList then
    (Base64.decodeChars value).bind fun bytes => if bytes.length ≤ 8 then some recipe else none
  else if name = "data".toList then
    (Base64.decodeChars value).bind fun bytes =>
      if bytes.length ≤ 32 then some { recipe with data := bytes } else none
  else none

/-- Whether the costs are enough for the lanes, and the salt is long enough. -/
def IsUsable (recipe : HashRecipe) : Prop :=
  8 ≤ recipe.params.memoryKib ∧ 8 * recipe.params.lanes ≤ recipe.params.memoryKib ∧
    1 ≤ recipe.params.passes ∧ 1 ≤ recipe.params.lanes ∧ recipe.params.lanes < 0x1000000 ∧
    8 ≤ recipe.salt.length

instance (recipe : HashRecipe) : Decidable recipe.IsUsable := by unfold IsUsable; infer_instance

/-- The recipe in a hash in text, for its salt and the size of its output. -/
def ofPhc? (phc : Phc) (salt : List Char) (outputSize : Nat) : Option HashRecipe := do
  let variant ← variant? phc.algorithm
  let version ← version? phc.version
  let salt ← Base64.decodeChars salt
  let recipe ← phc.params.foldlM withParam ⟨variant, version, ⟨19456, 2, 1, outputSize⟩, salt, []⟩
  if recipe.IsUsable then some recipe else none

end HashRecipe

namespace Argon2

/-- The hash of a password in text. -/
def hashText (cost : HashCost) (salt : Vector UInt8 16) (password : String) : String :=
  let recipe : HashRecipe := ⟨.id, 19, ⟨cost.memoryKib, cost.passes, 1, 32⟩, salt.toList, []⟩
  let number (n : Nat) := Nat.toDigits 10 n
  let phc : Phc := ⟨"argon2id".toList, some 19,
    [(['m'], number cost.memoryKib), (['t'], number cost.passes), (['p'], number 1)],
    some (Base64.encodeChars salt.toList), some (recipe.output password)⟩
  phc.text

/-- Whether a password belongs to a hash in text. No password belongs to one without an output. -/
def verifyText [causes : Causes] (password hash : String) : Except AuthError Bool :=
  match Phc.ofText? hash with
  | none => .error (.internal s!"invalid PHC hash: {causes.hash hash}")
  | some phc =>
    match phc.salt, phc.output with
    | some salt, some output =>
      match HashRecipe.ofPhc? phc salt output.length with
      | some recipe => .ok (recipe.output password = output)
      | none => .error (.internal s!"verify error: {causes.recipe hash}")
    | _, _ => .ok false

/-- Argon2id with a cost, as a hasher. -/
def hasher [Causes] (σ : Type) (cost : HashCost) : PasswordHasher σ where
  hash salt password := pure (hashText cost salt password)
  verify password hash := .of fun state => (verifyText password hash, state)

end Argon2

end SignIn
