import ChatGateway.Http.Header
import ChatGateway.Text.Natural

/-!
# Random identifiers

An identifier of 128 bits, of which six say that the others are random. It is written in five
groups of hexadecimal digits, and its text may stand in a header field.
-/

namespace ChatGateway

/-- The random bits of an identifier. -/
structure Uuid where
  bits : BitVec 128
  deriving DecidableEq, Repr

namespace Uuid

/-- The characters of an identifier. -/
def chars (uuid : Uuid) : List Char :=
  let n := uuid.bits.toNat
  Text.hexDigits 8 (n >>> 96) ++ '-' :: Text.hexDigits 4 (n >>> 80) ++
    '-' :: '4' :: Text.hexDigits 3 (n >>> 64) ++
    '-' :: Text.hexDigit (8 + (n >>> 62) % 4) :: Text.hexDigits 3 (n >>> 48) ++
    '-' :: Text.hexDigits 12 n

/-- The text of an identifier. -/
def text (uuid : Uuid) : String := String.ofList uuid.chars

end Uuid

end ChatGateway
