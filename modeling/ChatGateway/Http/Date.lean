import ChatGateway.Text.Bytes
import ChatGateway.Text.Natural

/-!
# Dates

A moment is a number of seconds since the start of 1970. In messages it is written with the
name of its day and month; three spellings are read. A spelling names the day of the week as
well, which is not compared with the date.
-/

namespace ChatGateway.Http

/-- A date and time of day. -/
structure Date where
  year : Nat
  month : Nat
  day : Nat
  hour : Nat
  minute : Nat
  second : Nat
  deriving DecidableEq, Repr

namespace Date

/-- The months by their short names. -/
def monthNames : List String :=
  ["Jan", "Feb", "Mar", "Apr", "May", "Jun", "Jul", "Aug", "Sep", "Oct", "Nov", "Dec"]

/-- The days of the week by their names, from Monday. -/
def dayNames : List String :=
  ["Monday", "Tuesday", "Wednesday", "Thursday", "Friday", "Saturday", "Sunday"]

/-- The short name of a day. -/
def short (name : String) : String := String.ofList (name.toList.take 3)

/-- Whether a year has a leap day. -/
def isLeap (year : Nat) : Bool := year % 4 = 0 && (year % 100 ≠ 0 || year % 400 = 0)

/-- How many days of a common year precede each month. -/
def daysBefore : List Nat := [0, 31, 59, 90, 120, 151, 181, 212, 243, 273, 304, 334]

/-- How many days of the year precede a month. -/
def daysBeforeMonth (year month : Nat) : Nat :=
  (daysBefore[month - 1]?).getD 0 + if isLeap year && 2 < month then 1 else 0

/-- How many days precede the start of a year, counted from the start of 1970. -/
def daysBeforeYear (year : Nat) : Nat :=
  (year - 1970) * 365 + ((year - 1) / 4 - 492) + ((year - 1) / 400 - 4) - ((year - 1) / 100 - 19)

/-- The moment of a date, in seconds since the start of 1970. -/
def seconds (date : Date) : Nat :=
  let days := daysBeforeYear date.year + daysBeforeMonth date.year date.month + (date.day - 1)
  ((days * 24 + date.hour) * 60 + date.minute) * 60 + date.second

/-- Whether every part is in its range. -/
def isValid (date : Date) : Bool :=
  date.second < 60 && date.minute < 60 && date.hour < 24 && 0 < date.day && date.day < 32 &&
    1970 ≤ date.year && date.year ≤ 9999

/-- The year and the day of the year of a number of days since the start of 1970. -/
def yearOfDays (days : Nat) : Nat × Nat :=
  let guess := 1970 + days / 366
  let year := guess + ((List.range (days / 366 / 300 + 3)).findIdx fun n =>
    days < daysBeforeYear (guess + n + 1))
  (year, days - daysBeforeYear year)

/-- The date of a moment. -/
def ofSeconds (moment : Nat) : Date :=
  let (year, dayOfYear) := yearOfDays (moment / 86400)
  let month := ((List.range 12).filter fun m => daysBeforeMonth year (m + 1) ≤ dayOfYear).length
  ⟨year, month, dayOfYear - daysBeforeMonth year month + 1,
    moment / 3600 % 24, moment / 60 % 60, moment % 60⟩

/-- A number with two digits. -/
def two (n : Nat) : String := if n < 10 then "0" ++ Text.decimal n else Text.decimal n

/-- The written form of a moment. -/
def write (moment : Nat) : String :=
  let date := ofSeconds moment
  -- The first of January 1970 was a Thursday.
  let dayName := (dayNames[(moment / 86400 + 3) % 7]?).getD ""
  let monthName := (monthNames[date.month - 1]?).getD ""
  short dayName ++ ", " ++ two date.day ++ " " ++ monthName ++ " " ++ Text.decimal date.year ++
    " " ++ two date.hour ++ ":" ++ two date.minute ++ ":" ++ two date.second ++ " GMT"

/-- Part of a spelling: a fixed text, a number of fixed width, or one of some names. -/
inductive Part where
  | fixed (text : String)
  | number (digits : Nat)
  /-- A day of the month whose first digit may be a space. -/
  | paddedDay
  | name (names : List String)

/-- Reads one part; a name is read as its position. -/
def Part.read? : Part → List Char → Option (List Nat × List Char)
  | fixed text, s => if text.toList.isPrefixOf s then some ([], s.drop text.length) else none
  | number digits, s =>
    if s.length < digits then none
    else (Text.digits? (s.take digits)).map fun n => ([n], s.drop digits)
  | paddedDay, s =>
    match s with
    | ' ' :: d :: rest => (Text.digit? d).map fun n => ([n], rest)
    | _ => if s.length < 2 then none else (Text.digits? (s.take 2)).map fun n => ([n], s.drop 2)
  | name names, s =>
    match names.findIdx? fun text => text.toList.isPrefixOf s with
    | none => none
    | some index => some ([index], s.drop ((names[index]?).getD "").length)

/-- Reads all parts of a spelling, which leave nothing. -/
def readParts? : List Part → List Char → Option (List Nat)
  | [], [] => some []
  | [], _ :: _ => none
  | part :: parts, s =>
    match part.read? s with
    | none => none
    | some (values, rest) => (readParts? parts rest).map (values ++ ·)

/-- The parts of a time of day. -/
def clock : List Part := [.number 2, .fixed ":", .number 2, .fixed ":", .number 2]

/-- Day, month and year with the short name of the day. -/
def modern? (s : List Char) : Option Date :=
  match readParts? ([.name (dayNames.map short), .fixed ", ", .number 2, .fixed " ",
      .name monthNames, .fixed " ", .number 4, .fixed " "] ++ clock ++ [.fixed " GMT"]) s with
  | some [_, day, month, year, hour, minute, second] =>
    some ⟨year, month + 1, day, hour, minute, second⟩
  | _ => none

/-- Day, month and the last two digits of the year with the full name of the day. -/
def dashed? (s : List Char) : Option Date :=
  match readParts? ([.name dayNames, .fixed ", ", .number 2, .fixed "-", .name monthNames,
      .fixed "-", .number 2, .fixed " "] ++ clock ++ [.fixed " GMT"]) s with
  | some [_, day, month, year, hour, minute, second] =>
    some ⟨if year < 70 then 2000 + year else 1900 + year, month + 1, day, hour, minute, second⟩
  | _ => none

/-- Month, day, time of day and year. -/
def yearLast? (s : List Char) : Option Date :=
  match readParts? ([.name (dayNames.map short), .fixed " ", .name monthNames, .fixed " ",
      .paddedDay, .fixed " "] ++ clock ++ [.fixed " ", .number 4]) s with
  | some [_, month, day, hour, minute, second, year] =>
    some ⟨year, month + 1, day, hour, minute, second⟩
  | _ => none

/-- The moment that a text names in one of the three spellings. -/
def parse? (text : String) : Option Nat :=
  let s := text.toList
  ((modern? s <|> dashed? s <|> yearLast? s).filter (·.isValid)).map (·.seconds)

end Date

end ChatGateway.Http
