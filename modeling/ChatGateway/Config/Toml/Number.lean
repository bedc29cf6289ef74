import ChatGateway.Config.Toml.Text
import ChatGateway.Decimal.Reading

/-!
# TOML numbers, dates and times

Underscores may separate the digits of a number. A whole number has no needless zeros and may
be written in another base; a real number has a fraction or an exponent. Dates and times are
kept as texts in their normal form.
-/

namespace ChatGateway.Config.Toml

/-- Whether every underscore stands between two digits. -/
def goodUnderscores (isDigit : Char → Bool) : List Char → Bool
  | a :: '_' :: b :: rest => isDigit a && isDigit b && goodUnderscores isDigit (b :: rest)
  | '_' :: _ => false
  | [_, '_'] => false
  | _ :: rest => goodUnderscores isDigit rest
  | [] => true

/-- A run of digits, in which single underscores may separate them. -/
def digitRun? (isDigit : Char → Bool) (s : List Char) : Option (List Char) :=
  if s.isEmpty || !goodUnderscores isDigit s || !s.all (fun c => isDigit c || c = '_') then none
  else some (s.filter (· ≠ '_'))

/-- A decimal numeral without needless zeros at the front. -/
def decimalRun? (s : List Char) : Option (List Char) :=
  (digitRun? Char.isDigit s).filter fun digits => digits.length = 1 || digits.head? ≠ some '0'

/-- The digits of a number in another base. -/
def inOtherBase? (s : List Char) : Option Nat :=
  let read := fun (base : Nat) (digits : List Char) =>
    (digitRun? (fun c => (Text.hexValue? c).any (· < base)) digits).bind (Text.inBase? base)
  match s with
  | '0' :: 'x' :: digits => read 16 digits
  | '0' :: 'o' :: digits => read 8 digits
  | '0' :: 'b' :: digits => read 2 digits
  | _ => none

/-- A whole number, whatever its size. -/
def whole? (token : List Char) : Option Int :=
  let (negative, digits) := Decimal.splitSign token
  match inOtherBase? token, (decimalRun? digits).bind Text.digits? with
  | some n, _ => some n
  | none, some n => some (if negative then -(n : Int) else n)
  | none, none => none

/-- The digits of a real number as a decimal with an exponent. -/
def scaled? (whole fraction exponent : List Char) : Option Float := do
  let (negative, digits) := Decimal.splitSign exponent
  let power ← if digits.isEmpty then some 0 else (digitRun? Char.isDigit digits).bind Text.digits?
  let value ← Text.digits? (whole ++ fraction)
  let shift : Int := (if negative then -(power : Int) else power) - fraction.length
  return Decimal.nearest value shift

/-- A real number. -/
def real? (token : List Char) : Option Float := do
  let (negative, unsigned) := Decimal.splitSign token
  let magnitude ←
    if unsigned = "inf".toList then some (1.0 / 0.0)
    else if unsigned = "nan".toList then some (0.0 / 0.0)
    else
      let mantissa := unsigned.takeWhile fun c => c ≠ 'e' && c ≠ 'E'
      let exponent := (unsigned.drop mantissa.length).drop 1
      let whole ← decimalRun? (mantissa.takeWhile (· ≠ '.'))
      let fraction := (mantissa.dropWhile (· ≠ '.')).drop 1
      if mantissa.contains '.' then
        let fraction ← digitRun? Char.isDigit fraction
        if unsigned.length ≠ mantissa.length && exponent.isEmpty then none
        else scaled? whole fraction exponent
      else if exponent.isEmpty then none
      else scaled? whole [] exponent
  return if negative then -magnitude else magnitude

/-- Two digits with a greatest value. -/
def two? (limit : Nat) : List Char → Option (Nat × List Char)
  | a :: b :: rest => ((Text.digits? [a, b]).filter (· ≤ limit)).map fun n => (n, rest)
  | _ => none

/-- The number of days of a month. -/
def daysIn (year month : Nat) : Nat :=
  if month = 2 then if (year % 4 = 0 && year % 100 ≠ 0) || year % 400 = 0 then 29 else 28
  else if [4, 6, 9, 11].contains month then 30 else 31

/-- A date, and what follows it. -/
def date? (s : List Char) : Option (List Char × List Char) := do
  let year ← Text.digits? (s.take 4)
  match s.drop 4 with
  | '-' :: rest =>
    let (month, rest) ← two? 12 rest
    match rest with
    | '-' :: rest =>
      let (day, rest) ← two? (daysIn year month) rest
      if (s.take 4).length = 4 && month ≠ 0 && day ≠ 0 then some (s.take 10, rest) else none
    | _ => none
  | _ => none

/-- A time in its shortest form, and what follows it. -/
def time? (s : List Char) : Option (List Char × List Char) := do
  let (_, rest) ← two? 23 s
  let ':' :: rest := rest | none
  let (_, rest) ← two? 59 rest
  let ':' :: rest := rest | none
  let (_, rest) ← two? 60 rest
  match rest with
  | '.' :: more =>
    let digits := more.takeWhile Char.isDigit
    let shown := ((digits.take 9).reverse.dropWhile (· = '0')).reverse
    if digits.isEmpty then none
    else some (s.take 8 ++ (if shown.isEmpty then [] else '.' :: shown), more.drop digits.length)
  | _ => some (s.take 8, rest)

/-- The distance from universal time, and what follows it. -/
def zone? (s : List Char) : Option (List Char × List Char) :=
  match s with
  | 'Z' :: rest | 'z' :: rest => some (['Z'], rest)
  | sign :: rest =>
    if sign = '+' || sign = '-' then do
      let (hours, after) ← two? 23 rest
      let ':' :: after := after | none
      let (minutes, after) ← two? 59 after
      some ((if hours + minutes = 0 then '+' else sign) :: rest.take 5, after)
    else none
  | [] => none

/-- A date, a time, or both, in its normal form, and what follows it. -/
def moment? (s : List Char) : Option (List Char × List Char) :=
  match date? s with
  | none => time? s
  | some (date, rest) =>
    let withTime := match rest with
      | c :: more => if c = 'T' || c = 't' || c = ' ' then time? more else none
      | [] => none
    match withTime with
    | none => some (date, rest)
    | some (time, rest) =>
      match zone? rest with
      | none => some (date ++ 'T' :: time, rest)
      | some (zone, rest) => some (date ++ 'T' :: time ++ zone, rest)

/-- Whether a character may stand in a number. -/
def isNumberChar (c : Char) : Bool := c.isAlphanum || c = '_' || c = '.' || c = '+' || c = '-'

/-- The longest front part of a token for which a reading succeeds, and its length. -/
def longest? {α : Type} (read : List Char → Option α) (token : List Char) : Option (α × Nat) :=
  (List.range token.length).findSome? fun i =>
    (read (token.take (token.length - i))).map fun a => (a, token.length - i)

/-- Reads a number, a date or a time. -/
def number (s : List Char) : Except Refusal (Setting × List Char) :=
  let token := s.takeWhile isNumberChar
  match moment? s, longest? real? token, longest? whole? token with
  | some (moment, rest), _, _ => .ok (.text (String.ofList moment), rest)
  | none, some (x, length), none => .ok (.real x, s.drop length)
  | none, none, none => refuse s "invalid integer"
  | none, some (x, long), some (n, short) =>
    if short < long then .ok (.real x, s.drop long) else finish n short
  | none, none, some (n, length) => finish n length
where
  /-- Takes a whole number, if it is not too large. -/
  finish (n : Int) (length : Nat) : Except Refusal (Setting × List Char) :=
    if Setting.isWhole n then .ok (.whole n, s.drop length)
    else refuse s (if n < 0 then "number too small to fit in target type"
      else "number too large to fit in target type")

end ChatGateway.Config.Toml
