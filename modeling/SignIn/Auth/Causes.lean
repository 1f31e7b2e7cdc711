/-!
# Causes of faults

The text of a fault ends in the words of the reader that found it. The readers of costs, hashes, user
ids, stored sessions and replies are not part of this library, and neither are their words.
-/

namespace SignIn

/-- What readers say about what they cannot read. -/
class Causes where
  /-- Memory and passes that are not enough for hashing. -/
  cost : Nat → Nat → String
  /-- A text that is no hash of a password. -/
  hash : String → String
  /-- A hash with an algorithm, a cost or a salt that cannot be used. -/
  recipe : String → String
  /-- Bytes that are no user id. -/
  userId : List UInt8 → String
  /-- A text that is no stored session. -/
  session : String → String
  /-- A reply that is no number, with its text if it has one. -/
  number : Option String → String

namespace Causes

/-- Words that the usual readers have, of each reader those for one slip only. -/
@[reducible]
def plain : Causes where
  cost _ _ := "memory cost is too small"
  hash _ := "output size too short, expected at least 10 bytes"
  recipe _ := "unsupported algorithm"
  userId bytes := s!"invalid length: expected 16 bytes, found {bytes.length}"
  session _ := "expected value at line 1 column 1"
  number _ := "Response was of incompatible type"

end Causes

end SignIn
