import ChatGateway.Text.Bytes
import ChatGateway.Text.Natural

/-!
# Percent signs

An octet that may not stand for itself is written as a percent sign and two hexadecimal
digits. Decoding leaves a percent sign alone that no two digits follow.
-/

namespace ChatGateway.Text.Percent

/-- Decodes the percent signs that two hexadecimal digits follow. -/
def decode : Bytes → Bytes
  | [] => []
  | [b] => [b]
  | [b, c] => [b, c]
  | b :: c :: d :: rest =>
    match b == 0x25, hexValue? (Bytes.character c), hexValue? (Bytes.character d) with
    | true, some high, some low => UInt8.ofNat (high * 16 + low) :: decode rest
    | _, _, _ => b :: decode (c :: d :: rest)

/-- An octet as a percent sign and two digits. -/
def escape (b : UInt8) : List Char := '%' :: (hexDigits 2 b.toNat).map Char.toUpper

/-- A text with the octets escaped that are not plain. -/
def encode (isPlain : Char → Bool) (chars : List Char) : List Char :=
  chars.flatMap fun c =>
    if isPlain c then [c] else (Bytes.ofText (String.singleton c)).flatMap escape

end ChatGateway.Text.Percent
