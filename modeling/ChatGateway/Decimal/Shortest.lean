/-!
# The shortest decimal of a binary number

A binary floating-point number stands for all reals that round to it. Its shortest decimal
is, among the decimals in that interval with the fewest digits, the one nearest to the
number. For one digit, then two, and so on, the two neighbours of the number on the grid
of decimals with so many digits are tried; the first grid with a neighbour in the interval
decides.
-/

namespace ChatGateway.Decimal

/-- The decimal `value * 10 ^ exponent`. -/
structure Digits where
  value : Nat
  exponent : Int
  deriving DecidableEq, Repr

/-- A positive fraction. -/
structure Ratio where
  numerator : Nat
  denominator : Nat

/-- The fraction `factor * base ^ exponent`. -/
def Ratio.power (factor base : Nat) (exponent : Int) : Ratio :=
  ⟨factor * Nat.pow base exponent.toNat, Nat.pow base (-exponent).toNat⟩

/-- Whether the first fraction is at most the second. -/
def Ratio.le (a b : Ratio) : Bool := a.numerator * b.denominator ≤ b.numerator * a.denominator

/-- The quotient of two fractions. -/
def Ratio.div (a b : Ratio) : Ratio :=
  ⟨a.numerator * b.denominator, a.denominator * b.numerator⟩

/-- The distance between two fractions. -/
def Ratio.distance (a b : Ratio) : Ratio :=
  let x := a.numerator * b.denominator
  let y := b.numerator * a.denominator
  ⟨(x - y) + (y - x), a.denominator * b.denominator⟩

/-- How many decimal digits a number has. -/
def digitCount (n : Nat) : Nat := (Nat.toDigits 10 n).length

/-- The exponent of the first digit of a positive fraction. -/
def Ratio.leadingExponent (r : Ratio) : Int :=
  let guess : Int := digitCount r.numerator - digitCount r.denominator
  if (Ratio.power 1 10 guess).le r then guess else guess - 1

/-- A positive number `mantissa * 2 ^ exponent` of a binary format; `lowest` says that its
lower neighbour is only half as far away as the upper one. -/
structure Binary where
  mantissa : Nat
  exponent : Int
  lowest : Bool

/-- The number itself. -/
def Binary.ratio (b : Binary) : Ratio := Ratio.power (4 * b.mantissa) 2 (b.exponent - 2)

/-- Whether a fraction rounds to the number; a fraction halfway to a neighbour does if the
mantissa is even. -/
def Binary.holds (b : Binary) (r : Ratio) : Bool :=
  let low := Ratio.power (4 * b.mantissa - (if b.lowest then 1 else 2)) 2 (b.exponent - 2)
  let high := Ratio.power (4 * b.mantissa + 2) 2 (b.exponent - 2)
  if b.mantissa % 2 = 0 then low.le r && r.le high
  else !(r.le low) && !(high.le r)

/-- The neighbour of the number on the grid of decimals with the given last exponent that
rounds to it, the nearer one if both do and the even one if both are as near. -/
def Binary.onGrid (b : Binary) (exponent : Int) : Option Digits :=
  let scaled := b.ratio.div (Ratio.power 1 10 exponent)
  let below := scaled.numerator / scaled.denominator
  let candidates := [below, below + 1].filter fun d => d ≠ 0 && b.holds (Ratio.power d 10 exponent)
  match candidates with
  | [] => none
  | [d] => some ⟨d, exponent⟩
  | d :: e :: _ =>
    let toLower := (Ratio.power d 10 exponent).distance b.ratio
    let toUpper := (Ratio.power e 10 exponent).distance b.ratio
    let lower := if toLower.le toUpper && toUpper.le toLower then d % 2 = 0 else toLower.le toUpper
    some ⟨if lower then d else e, exponent⟩

/-- The decimal with its trailing zeros moved into the exponent; at most `limit` of them. -/
def Digits.stripZeros : Nat → Digits → Digits
  | 0, d => d
  | limit + 1, d =>
    if d.value ≠ 0 && d.value % 10 = 0 then stripZeros limit ⟨d.value / 10, d.exponent + 1⟩ else d

/-- Seventeen digits tell every number of the format from its neighbours. -/
def longestDigits : Nat := 17

/-- The shortest decimal that rounds to the number, the nearest of them. -/
def Binary.shortest (b : Binary) : Digits :=
  let leading := b.ratio.leadingExponent
  let found := (List.range longestDigits).findSome? fun (extra : Nat) => b.onGrid (leading - (extra : Int))
  (found.getD ⟨0, 0⟩).stripZeros longestDigits

/-- The first digit of a mantissa, which its bits leave out. -/
def hiddenBit : Nat := 4503599627370496

/-- The number that the bits of a positive finite floating-point number encode. -/
def Binary.ofBits (bits : UInt64) : Binary :=
  let fraction := (bits &&& 0xFFFFFFFFFFFFF).toNat
  let biased := ((bits >>> 52) &&& 0x7FF).toNat
  if biased = 0 then ⟨fraction, -1074, false⟩
  else ⟨hiddenBit + fraction, (biased : Int) - 1075, fraction = 0 && 1 < biased⟩

end ChatGateway.Decimal
