import ChatGateway.Decimal.Shortest
import ChatGateway.Text.Natural

/-!
# Written decimals

How a floating-point number is written: with its shortest digits, positionally or with an
exponent. A `Format` says which exponents are written positionally and whether a whole
number keeps a point and a zero.
-/

namespace ChatGateway.Decimal

/-- The choices of a written form. -/
structure Format where
  /-- The exponents of the first digit that are written positionally; all if absent. -/
  positional : Option (Int × Int)
  /-- Whether a whole number ends in a point and a zero. -/
  keepsPoint : Bool

/-- Digits without an exponent, as many zeros as it takes. -/
def plain : Format := ⟨none, false⟩

/-- Positional from a hundred thousandth up to sixteen digits before the point. -/
def scientific : Format := ⟨some (-5, 15), true⟩

/-- A run of zeros. -/
def zeros (n : Nat) : List Char := List.replicate n '0'

/-- Digits around a point. -/
def positionalText (keepsPoint : Bool) (d : Digits) : List Char :=
  let digits := Nat.toDigits 10 d.value
  if 0 ≤ d.exponent then
    digits ++ zeros d.exponent.toNat ++ (if keepsPoint then ['.', '0'] else [])
  else
    let places := (-d.exponent).toNat
    if places < digits.length then
      digits.take (digits.length - places) ++ '.' :: digits.drop (digits.length - places)
    else '0' :: '.' :: zeros (places - digits.length) ++ digits

/-- One digit before the point and an exponent of at least two digits. -/
def exponentText (d : Digits) : List Char :=
  let digits := Nat.toDigits 10 d.value
  let leading := d.exponent + (digits.length - 1 : Nat)
  let fraction := if digits.length = 1 then [] else '.' :: digits.drop 1
  let size := Nat.toDigits 10 leading.natAbs
  digits.take 1 ++ fraction ++ 'e' :: (if leading < 0 then '-' else '+') ::
    (zeros (2 - size.length) ++ size)

/-- A positive decimal in the given form. -/
def Format.digits (f : Format) (d : Digits) : List Char :=
  let leading := d.exponent + (digitCount d.value - 1 : Nat)
  match f.positional with
  | none => positionalText f.keepsPoint d
  | some (low, high) =>
    if low ≤ leading && leading ≤ high then positionalText f.keepsPoint d else exponentText d

/-- A floating-point number in the given form; the sign of zero is kept. -/
def Format.write (f : Format) (x : Float) : String :=
  let bits := x.toBits
  let magnitude := bits &&& 0x7FFFFFFFFFFFFFFF
  let sign := if bits >>> 63 = 0 then "" else "-"
  if 0x7FF0000000000000 < magnitude then "NaN"
  else if magnitude = 0x7FF0000000000000 then sign ++ "inf"
  else if magnitude = 0 then sign ++ (if f.keepsPoint then "0.0" else "0")
  else sign ++ String.ofList (f.digits (Binary.ofBits magnitude).shortest)

end ChatGateway.Decimal
