import ChatGateway.Json.Lexeme

/-!
# Writing documents

Texts are written with the shortest escape of each octet that needs one: quotation marks,
backslashes and control characters. All other octets stand for themselves.
-/

namespace ChatGateway.Json

/-- An octet as it is written inside a text. -/
def writtenOctet (b : UInt8) : Bytes :=
  if b = 0x22 then [escapeMark, 0x22]
  else if b = 0x5C then [escapeMark, 0x5C]
  else if b = 0x08 then [escapeMark, 0x62]
  else if b = 0x0C then [escapeMark, 0x66]
  else if b = 0x0A then [escapeMark, 0x6E]
  else if b = 0x0D then [escapeMark, 0x72]
  else if b = 0x09 then [escapeMark, 0x74]
  else if b < 0x20 then
    [escapeMark, 0x75, 0x30, 0x30, Bytes.octet (Text.hexDigit (b.toNat / 16)),
      Bytes.octet (Text.hexDigit (b.toNat % 16))]
  else [b]

/-- A text between its marks. -/
def writeText (text : String) : Bytes :=
  quoteMark :: (Bytes.ofText text).flatMap writtenOctet ++ [quoteMark]

/-- A member whose value is a text. -/
def writeMember (member : String × String) : Bytes :=
  writeText member.1 ++ 0x3A :: writeText member.2

/-- An object whose members are texts, in the given order. -/
def writeObject (members : List (String × String)) : Bytes :=
  0x7B :: ((members.map writeMember).intersperse [0x2C]).flatten ++ [0x7D]

end ChatGateway.Json
