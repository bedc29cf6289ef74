import ChatGateway.Text.Natural
import ChatGateway.Text.Unprintable

/-!
# Quoted text in messages

A text is quoted between double quotes so that each character of it can be seen: quotes
and backslashes take a backslash, the common control characters a letter, and any other
character without a mark of its own its code point in braces.
-/

namespace ChatGateway.Text

/-- The hexadecimal digits of a code point, without leading zeros. -/
def codePointDigits (n : Nat) : String := String.ofList (Nat.toDigits 16 n)

/-- A character as it is shown inside quotes. -/
def quotedChar (c : Char) : String :=
  if c = '\x00' then "\\0"
  else if c = '\t' then "\\t"
  else if c = '\n' then "\\n"
  else if c = '\r' then "\\r"
  else if c = '"' then "\\\""
  else if c = '\\' then "\\\\"
  else if isUnprintable c then "\\u\x7b" ++ codePointDigits c.toNat ++ "\x7d"
  else String.singleton c

/-- The text between double quotes, every character visible. -/
def quoted (text : String) : String :=
  "\"" ++ String.join (text.toList.map quotedChar) ++ "\""

end ChatGateway.Text
