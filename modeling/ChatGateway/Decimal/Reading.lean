import ChatGateway.Text.Blank
import ChatGateway.Text.Natural

/-!
# Reading decimals

A decimal is digits, with an optional point among or around them, and an optional exponent.
It is read as the nearest floating-point number. The words for infinity and for no number are
read as well.
-/

namespace ChatGateway.Decimal

/-- A power of ten beyond every floating-point number, upwards and downwards. -/
def beyond : Nat := 400

/-- The floating-point number nearest to a number times a power of ten. -/
def nearest (value : Nat) (exponent : Int) : Float :=
  let size : Int := exponent + (Nat.toDigits 10 value).length
  if value = 0 || size < -beyond then 0.0
  else if beyond < size then 1.0 / 0.0
  else Float.ofScientific value (exponent < 0) exponent.natAbs

/-- A sign at the front, which is negative or not, and what follows it. -/
def splitSign : List Char → Bool × List Char
  | '-' :: rest => (true, rest)
  | '+' :: rest => (false, rest)
  | chars => (false, chars)

/-- An exponent; there is at least one digit. -/
def exponent? (chars : List Char) : Option Int :=
  let (negative, digits) := splitSign chars
  (Text.digits? digits).map fun n => if negative then -(n : Int) else n

/-- Digits around an optional point: their value and the power of ten. -/
def mantissa? (chars : List Char) : Option (Nat × Int) :=
  let whole := chars.takeWhile (· ≠ '.')
  let fraction := (chars.drop whole.length).drop 1
  (Text.digits? (whole ++ fraction)).map fun n => (n, -(fraction.length : Int))

/-- A number without a sign. -/
def unsigned? (chars : List Char) : Option Float :=
  let isExponentMark := fun c : Char => c = 'e' || c = 'E'
  let front := chars.takeWhile (!isExponentMark ·)
  match mantissa? front, chars.drop front.length with
  | some (value, scale), [] => some (nearest value scale)
  | some (value, scale), _ :: rest => (exponent? rest).map fun e => nearest value (scale + e)
  | none, _ => none

/-- A number, or the word for what is none. -/
def read? (chars : List Char) : Option Float :=
  let (negative, rest) := splitSign chars
  let word := Text.lower (String.ofList rest)
  let size :=
    if word = "inf" || word = "infinity" then some (1.0 / 0.0)
    else if word = "nan" then some (0.0 / 0.0)
    else unsigned? rest
  size.map fun x => if negative then -x else x

end ChatGateway.Decimal
