/-!
# Decimal numerals of natural numbers

A numeral is an optional plus sign and at least one digit of the basic range; leading
zeros do not matter. `natural?` reads one of any length, `boundedNatural?` one whose value
does not exceed a limit, and `decimal` writes the numeral without sign or leading zeros.
-/

namespace ChatGateway.Text

/-- The value of a digit of the basic range. -/
def digit? (c : Char) : Option Nat :=
  if '0' ≤ c && c ≤ '9' then some (c.toNat - '0'.toNat) else none

/-- Appends the digits to a number read so far; none if one of the characters is no digit. -/
def appendDigits? (value : Nat) : List Char → Option Nat
  | [] => some value
  | c :: rest => (digit? c).bind fun d => appendDigits? (value * 10 + d) rest

/-- The value of a nonempty run of digits. -/
def digits? : List Char → Option Nat
  | [] => none
  | c :: rest => appendDigits? 0 (c :: rest)

/-- The value of a numeral. -/
def natural? : List Char → Option Nat
  | '+' :: rest => digits? rest
  | chars => digits? chars

/-- The value of a numeral that is at most `limit`. -/
def boundedNatural? (limit : Nat) (text : String) : Option Nat :=
  (natural? text.toList).filter (· ≤ limit)

/-- The largest number of sixty-four binary places. -/
def wordLimit : Nat := 18446744073709551615

/-- The numeral of a number, without sign or leading zeros. -/
def decimal (n : Nat) : String := String.ofList (Nat.toDigits 10 n)

/-- The numeral of an integer, with a minus sign if it is negative. -/
def signedDecimal : Int → String
  | .ofNat n => decimal n
  | .negSucc n => "-" ++ decimal (n + 1)

/-- The lowercase hexadecimal digit of a number below sixteen. -/
def hexDigit (n : Nat) : Char :=
  if n < 10 then Char.ofNat ('0'.toNat + n) else Char.ofNat ('a'.toNat + (n - 10))

/-- The last `width` hexadecimal digits of a number, leading zeros included. -/
def hexDigits : Nat → Nat → List Char
  | 0, _ => []
  | width + 1, n => hexDigits width (n / 16) ++ [hexDigit (n % 16)]

/-- The value of a hexadecimal digit, in either case. -/
def hexValue? (c : Char) : Option Nat :=
  if '0' ≤ c && c ≤ '9' then some (c.toNat - '0'.toNat)
  else if 'a' ≤ c && c ≤ 'f' then some (c.toNat - 'a'.toNat + 10)
  else if 'A' ≤ c && c ≤ 'F' then some (c.toNat - 'A'.toNat + 10)
  else none

/-- Appends the digits to a number in the given base; none if one of them is no digit of it. -/
def appendInBase? (base : Nat) (value : Nat) : List Char → Option Nat
  | [] => some value
  | c :: rest =>
    ((hexValue? c).filter (· < base)).bind fun d => appendInBase? base (value * base + d) rest

/-- The value of a nonempty run of digits in the given base, which is at most sixteen. -/
def inBase? (base : Nat) : List Char → Option Nat
  | [] => none
  | c :: rest => appendInBase? base 0 (c :: rest)

end ChatGateway.Text
