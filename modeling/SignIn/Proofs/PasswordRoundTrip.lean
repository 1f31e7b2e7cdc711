import Mathlib.Data.List.ReduceOption
import SignIn.Password.Hasher
import SignIn.Proofs.UserIdRoundTrip

/-!
# Passwords that are hashed and verified

A password belongs to its own hash, whatever the cost, the salt and the password
(`verifyText_hashText`, `verifyText_self`). A hash with all of its parts reads back from its text
(`Phc.ofText?_text`): no part has a mark of the text in it, and a number is written without zeros in
front. The cost and the salt that are read are then those that were written, and both times the same
output is made of them.
-/

namespace SignIn

namespace Base64

theorem length_encodeChars (bytes : List UInt8) :
    (encodeChars bytes).length = (4 * bytes.length + 2) / 3 := by
  fun_induction encodeChars bytes with
  | case1 | case2 | case3 => simp
  | case4 a b c rest ih =>
    simp only [List.length_cons, ih]
    omega

theorem isValueChar_symbol {n : Nat} (h : n < 64) : Phc.isValueChar (symbol n) = true := by
  have all : ∀ m : Fin 64, Phc.isValueChar (symbol m) = true := by decide
  exact all ⟨n, h⟩

theorem all_isValueChar_encodeChars (bytes : List UInt8) :
    (encodeChars bytes).all Phc.isValueChar = true := by
  fun_induction encodeChars bytes with
  | case1 => rfl
  | case2 a =>
    have ha := a.toNat_lt
    simp only [List.all_cons, List.all_nil, Bool.and_true, Bool.and_eq_true]
    exact ⟨isValueChar_symbol (by omega), isValueChar_symbol (by omega)⟩
  | case3 a b =>
    have ha := a.toNat_lt
    have hb := b.toNat_lt
    simp only [List.all_cons, List.all_nil, Bool.and_true, Bool.and_eq_true]
    exact ⟨isValueChar_symbol (by omega), isValueChar_symbol (by omega),
      isValueChar_symbol (by omega)⟩
  | case4 a b c rest ih =>
    have ha := a.toNat_lt
    have hb := b.toNat_lt
    have hc := c.toNat_lt
    simp only [List.all_cons, Bool.and_eq_true]
    exact ⟨isValueChar_symbol (by omega), isValueChar_symbol (by omega),
      isValueChar_symbol (by omega), isValueChar_symbol (by omega), ih⟩

end Base64

namespace Phc

section Numbers

variable {n : Nat}

/-- A number that is written has no zero in front. -/
theorem head?_toDigits : ∀ {n : Nat}, 0 < n → (Nat.toDigits 10 n).head? ≠ some '0' := by
  have digits : ∀ d : Fin 10, 0 < d.val → Nat.digitChar d ≠ '0' := by decide
  intro n
  induction n using Nat.strongRecOn with
  | ind n ih =>
    intro positive
    rw [Nat.toDigits_eq_if (by decide)]
    split
    · rename_i small
      simpa using digits ⟨n, small⟩ positive
    · rw [List.head?_append, Option.or_of_isSome (by simp [Nat.toDigits_ne_nil])]
      exact ih (n / 10) (by omega) (by omega)

theorem length_toDigits_lt {n : Nat} (h : n < UInt32.size) : (Nat.toDigits 10 n).length ≤ 10 :=
  (Nat.length_toDigits_le_iff (by decide) (by decide)).2 (Nat.lt_trans h (by decide))

theorem isDigit_toDigits (n : Nat) : (Nat.toDigits 10 n).all Char.isDigit = true :=
  List.all_eq_true.2 fun _ h => Nat.isDigit_of_mem_toDigits (by decide) (by decide) h

theorem isValueChar_of_isDigit {c : Char} (h : c.isDigit = true) : isValueChar c = true := by
  simp [isValueChar, Char.isAlphanum, h]

theorem isValue_toDigits (h : n < UInt32.size) : isValue (Nat.toDigits 10 n) = true := by
  have short := length_toDigits_lt h
  have chars : (Nat.toDigits 10 n).all isValueChar = true :=
    List.all_eq_true.2 fun c hc =>
      isValueChar_of_isDigit (List.all_eq_true.1 (isDigit_toDigits n) c hc)
  rw [isValue, chars, Bool.and_true, decide_eq_true_eq]
  omega

theorem decimal?_toDigits (h : n < UInt32.size) : decimal? (Nat.toDigits 10 n) = some n := by
  have value : (Nat.toDigits 10 n).foldl (fun n c => 10 * n + (c.toNat - 48)) 0 = n := by
    have read := Nat.ofDigitChars_toDigits (n := n) (b := 10) (by decide) (by decide)
    rwa [Nat.ofDigitChars_eq_foldl] at read
  have noZero : (Nat.toDigits 10 n).head? = some '0' → (Nat.toDigits 10 n).length = 1 := by
    intro zero
    rcases Nat.eq_zero_or_pos n with rfl | positive
    · rfl
    · exact absurd zero (head?_toDigits positive)
  unfold decimal?
  simp only [value]
  rw [if_pos ⟨isValue_toDigits h, by simp [Nat.toDigits_ne_nil], isDigit_toDigits n, noZero, h⟩]

end Numbers

theorem not_mem_of_isName {s : List Char} {c : Char} (h : isName s = true)
    (hc : isNameChar c = false) : c ∉ s := by
  intro member
  simp only [isName, Bool.and_eq_true] at h
  rw [List.all_eq_true.1 h.2 c member] at hc
  cases hc

theorem not_mem_of_isValue {s : List Char} {c : Char} (h : isValue s = true)
    (hc : isValueChar c = false) : c ∉ s := by
  intro member
  simp only [isValue, Bool.and_eq_true] at h
  rw [List.all_eq_true.1 h.2 c member] at hc
  cases hc

/-- A parameter that can be written. -/
def IsParam (param : List Char × List Char) : Prop :=
  isName param.1 = true ∧ isValue param.2 = true

theorem not_mem_paramChars {param : List Char × List Char} {c : Char} (h : IsParam param)
    (hname : isNameChar c = false) (hvalue : isValueChar c = false) (hc : c ≠ '=') :
    c ∉ paramChars param := by
  rw [paramChars, List.mem_append, List.mem_cons, not_or, not_or]
  exact ⟨not_mem_of_isName h.1 hname, hc, not_mem_of_isValue h.2 hvalue⟩

theorem param?_paramChars {param : List Char × List Char} (h : IsParam param) :
    param? (paramChars param) = some param := by
  have parts : Text.split '=' (paramChars param) = [param.1, param.2] := by
    rw [paramChars, Text.split_append (not_mem_of_isName h.1 (by decide)),
      Text.split_of_not_mem (not_mem_of_isValue h.2 (by decide))]
  simp [param?, parts, h.1, h.2]

theorem mapM_param? : ∀ {params : List (List Char × List Char)}, (∀ param ∈ params, IsParam param) →
    (params.map paramChars).mapM param? = some params
  | [], _ => rfl
  | param :: params, h => by
    rw [List.forall_mem_cons] at h
    simp [List.mapM_cons, param?_paramChars h.1, mapM_param? h.2]

/-- A hash with all of its parts, each of which can be written. -/
structure IsWhole (algorithm : List Char) (version : Nat) (params : List (List Char × List Char))
    (salt : List Char) (output : List UInt8) : Prop where
  isName_algorithm : isName algorithm = true
  version_lt : version < UInt32.size
  params_ne : params ≠ []
  isParam_of_mem : ∀ param ∈ params, IsParam param
  length_params : (Text.join ',' (params.map paramChars)).length ≤ 127
  isValue_salt : isValue salt = true
  length_salt : 4 ≤ salt.length
  length_output : 10 ≤ output.length ∧ output.length ≤ 64

namespace IsWhole

variable {algorithm : List Char} {version : Nat} {params : List (List Char × List Char)}
  {salt : List Char} {output : List UInt8} (h : IsWhole algorithm version params salt output)

include h

theorem params?_join : params? (Text.join ',' (params.map paramChars)) = some params := by
  have parts : Text.split ',' (Text.join ',' (params.map paramChars)) = params.map paramChars := by
    refine Text.split_join (by simpa using h.params_ne) fun part hp => ?_
    obtain ⟨param, member, rfl⟩ := List.mem_map.1 hp
    exact not_mem_paramChars (h.isParam_of_mem param member) (by decide) (by decide) (by decide)
  rw [params?, if_pos h.length_params, parts, mapM_param? h.isParam_of_mem]

theorem contains_equals : (Text.join ',' (params.map paramChars)).contains '=' = true := by
  obtain ⟨param, params, rfl⟩ := List.exists_cons_of_ne_nil h.params_ne
  rcases params with _ | ⟨next, params⟩ <;> simp [Text.join, paramChars]

theorem dollar_not_mem_join : '$' ∉ Text.join ',' (params.map paramChars) := by
  have all : ∀ {params : List (List Char × List Char)}, (∀ param ∈ params, IsParam param) →
      '$' ∉ Text.join ',' (params.map paramChars) := by
    intro params hparams
    induction params with
    | nil => simp [Text.join]
    | cons param params ih =>
      rw [List.forall_mem_cons] at hparams
      have first : '$' ∉ paramChars param :=
        not_mem_paramChars hparams.1 (by decide) (by decide) (by decide)
      rcases params with _ | ⟨next, params⟩
      · exact first
      · have later := ih hparams.2
        simp only [List.map_cons, Text.join, List.mem_append, List.mem_cons, not_or] at later ⊢
        exact ⟨first, by decide, later⟩
  exact all h.isParam_of_mem

theorem ending?_fields :
    ending? algorithm (some version) params [salt, Base64.encodeChars output] =
      some ⟨algorithm, some version, params, some salt, some output⟩ := by
  have read : output? (Base64.encodeChars output) = some output := by
    rw [output?, Base64.decodeChars_encodeChars]
    exact if_pos h.length_output
  simp [ending?, h.isValue_salt, h.length_salt, read]

theorem withVersion?_fields :
    withVersion? algorithm ['v' :: '=' :: Nat.toDigits 10 version,
        Text.join ',' (params.map paramChars), salt, Base64.encodeChars output] =
      some ⟨algorithm, some version, params, some salt, some output⟩ := by
  have comma : (Nat.toDigits 10 version).contains ',' = false := by
    rw [← Bool.not_eq_true, List.contains_iff_mem]
    exact not_mem_of_isValue (isValue_toDigits h.version_lt) (by decide)
  rw [withVersion?, comma, decimal?_toDigits h.version_lt]
  simp only [Bool.false_eq_true, if_false, Option.bind_eq_bind, Option.bind_some, withParams?,
    h.contains_equals, if_true, h.params?_join, h.ending?_fields]

/-- The parts of a whole hash in its text. -/
theorem split_chars :
    Text.split '$' (chars ⟨algorithm, some version, params, some salt, some output⟩) =
      [[], algorithm, 'v' :: '=' :: Nat.toDigits 10 version,
        Text.join ',' (params.map paramChars), salt, Base64.encodeChars output] := by
  have written : chars ⟨algorithm, some version, params, some salt, some output⟩ =
      Text.join '$' [[], algorithm, 'v' :: '=' :: Nat.toDigits 10 version,
        Text.join ',' (params.map paramChars), salt, Base64.encodeChars output] := by
    simp [chars, h.params_ne, Text.join]
  have digits : '$' ∉ 'v' :: '=' :: Nat.toDigits 10 version := by
    rw [List.mem_cons, List.mem_cons, not_or, not_or]
    exact ⟨by decide, by decide,
      not_mem_of_isValue (isValue_toDigits h.version_lt) (by decide)⟩
  have encoded : '$' ∉ Base64.encodeChars output := by
    intro member
    exact absurd (List.all_eq_true.1 (Base64.all_isValueChar_encodeChars output) _ member)
      (by decide)
  rw [written]
  refine Text.split_join (by simp) ?_
  simp only [List.forall_mem_cons, List.not_mem_nil, false_implies, implies_true, and_true]
  exact ⟨by simp, not_mem_of_isName h.isName_algorithm (by decide), digits, h.dollar_not_mem_join,
    not_mem_of_isValue h.isValue_salt (by decide), encoded⟩

/-- A whole hash reads back from its text. -/
theorem ofText?_text :
    ofText? (text ⟨algorithm, some version, params, some salt, some output⟩) =
      some ⟨algorithm, some version, params, some salt, some output⟩ := by
  rw [ofText?, text, String.toList_ofList, ofChars?, h.split_chars]
  simp [h.isName_algorithm, h.withVersion?_fields]

end IsWhole

end Phc

namespace Blake2b

theorem length_digest {size : Nat} (h : size ≤ 64) (message : List UInt8) :
    (digest size message).length = size := by
  simp [digest, List.length_flatMap, Bytes.ofWord64, List.map_const', h]

end Blake2b

namespace Argon2

theorem length_hash {params : Params} (h : params.outputSize ≤ 64) (variant : Variant)
    (version : Nat) (input : Input) :
    (hash variant version params input).length = params.outputSize := by
  simp only [hash, longHash, if_pos h]
  exact Blake2b.length_digest h _

/-- What the hash of a password depends on beside the password. -/
def recipe (cost : HashCost) (salt : Vector UInt8 16) : HashRecipe :=
  ⟨.id, 19, ⟨cost.memoryKib, cost.passes, 1, 32⟩, salt.toList, []⟩

variable (cost : HashCost) (salt : Vector UInt8 16)

/-- The parameters of a hash in text. -/
def costParams : List (List Char × List Char) :=
  [(['m'], Nat.toDigits 10 cost.memoryKib), (['t'], Nat.toDigits 10 cost.passes),
    (['p'], Nat.toDigits 10 1)]

theorem length_output (password : String) : ((recipe cost salt).output password).length = 32 :=
  length_hash (Nat.le_of_ble_eq_true rfl) _ _ _

theorem isWhole_hash (password : String) :
    Phc.IsWhole "argon2id".toList 19 (costParams cost) (Base64.encodeChars salt.toList)
      ((recipe cost salt).output password) := by
  have memory := Phc.isValue_toDigits cost.memory_lt
  have passes := Phc.isValue_toDigits cost.passes_lt
  have memoryLength := Phc.length_toDigits_lt cost.memory_lt
  have passesLength := Phc.length_toDigits_lt cost.passes_lt
  have length := length_output cost salt password
  refine ⟨by decide, by decide, by simp [costParams], ?_, ?_, ?_, ?_, by omega⟩
  · simp only [costParams, List.forall_mem_cons, List.not_mem_nil, false_implies, implies_true,
      and_true]
    exact ⟨⟨rfl, memory⟩, ⟨rfl, passes⟩, rfl, by decide⟩
  · have lanesLength : (Nat.toDigits 10 1).length = 1 := rfl
    simp [costParams, Text.join, Phc.paramChars, lanesLength]
    omega
  · simp [Phc.isValue, Base64.length_encodeChars, Base64.all_isValueChar_encodeChars]
  · simp [Base64.length_encodeChars]

/-- The hash of a password reads back in full. -/
theorem ofText?_hashText (password : String) :
    Phc.ofText? (hashText cost salt password) =
      some ⟨"argon2id".toList, some 19, costParams cost, some (Base64.encodeChars salt.toList),
        some ((recipe cost salt).output password)⟩ :=
  (isWhole_hash cost salt password).ofText?_text

/-- What is read from a hash in text is what it was made of. -/
theorem ofPhc?_hash (output : Option (List UInt8)) :
    HashRecipe.ofPhc? ⟨"argon2id".toList, some 19, costParams cost,
        some (Base64.encodeChars salt.toList), output⟩ (Base64.encodeChars salt.toList) 32 =
      some (recipe cost salt) := by
  have memory := Phc.decimal?_toDigits cost.memory_lt
  have passes := Phc.decimal?_toDigits cost.passes_lt
  have lanes : Phc.decimal? (Nat.toDigits 10 1) = some 1 := Phc.decimal?_toDigits (by decide)
  have usable : (recipe cost salt).IsUsable := by
    have memoryGe := cost.memory_ge
    have passesGe := cost.passes_ge
    refine ⟨memoryGe, ?_, passesGe, Nat.le_refl _, by simp [recipe], by simp [recipe]⟩
    simpa [recipe] using memoryGe
  have variant : HashRecipe.variant? "argon2id".toList = some .id := by decide
  have version : HashRecipe.version? (some 19) = some 19 := by decide
  have params : (costParams cost).foldlM HashRecipe.withParam
      ⟨.id, 19, ⟨19456, 2, 1, 32⟩, salt.toList, []⟩ = some (recipe cost salt) := by
    simp [costParams, HashRecipe.withParam, memory, passes, lanes, recipe]
  simp only [HashRecipe.ofPhc?, variant, version, Base64.decodeChars_encodeChars,
    Option.bind_eq_bind, Option.bind_some, params, if_pos usable]

/-- A password belongs to the hash of another one exactly if both have the same output. -/
theorem verifyText_hashText [Causes] (password other : String) :
    verifyText other (hashText cost salt password) =
      .ok (decide ((recipe cost salt).output other = (recipe cost salt).output password)) := by
  simp only [verifyText, ofText?_hashText, length_output, ofPhc?_hash]

/-- A password belongs to its own hash. -/
theorem verifyText_self [Causes] (password : String) :
    verifyText password (hashText cost salt password) = .ok true := by
  simp [verifyText_hashText]

end Argon2

end SignIn
