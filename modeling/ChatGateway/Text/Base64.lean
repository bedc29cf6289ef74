import ChatGateway.Text.Bytes

/-!
# Sixty-four digits

Octets written with sixty-four characters: three octets give four characters, and fewer than
three are padded with equals signs.
-/

namespace ChatGateway.Text.Base64

/-- The character of a value below sixty-four. -/
def digit (n : Nat) : Char :=
  if n < 26 then Char.ofNat ('A'.toNat + n)
  else if n < 52 then Char.ofNat ('a'.toNat + (n - 26))
  else if n < 62 then Char.ofNat ('0'.toNat + (n - 52))
  else if n = 62 then '+' else '/'

/-- The four characters of twenty-four bits. -/
def quantum (n : Nat) : List Char :=
  [digit (n / 262144 % 64), digit (n / 4096 % 64), digit (n / 64 % 64), digit (n % 64)]

/-- The octets in sixty-four digits. -/
def encode : Bytes → List Char
  | [] => []
  | [a] => (quantum (a.toNat * 65536)).take 2 ++ ['=', '=']
  | [a, b] => (quantum (a.toNat * 65536 + b.toNat * 256)).take 3 ++ ['=']
  | a :: b :: c :: rest =>
    quantum (a.toNat * 65536 + b.toNat * 256 + c.toNat) ++ encode rest

end ChatGateway.Text.Base64
