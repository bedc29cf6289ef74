import ChatGateway.Config.Document
import ChatGateway.Decimal.Reading
import ChatGateway.Text.Alphanumeric

/-!
# Configuration in JSON5

JSON with comments, names without quotes, texts in either kind of quotes, commas behind the
last element, and more spellings of numbers.

A refusal stands at the furthest place at which something was looked for in vain, and lists
what was looked for there.
-/

namespace ChatGateway.Config.Json5

/-- The furthest place at which something was looked for in vain, as the number of characters
behind it, and what was looked for. -/
structure Missed where
  remaining : Nat
  kinds : List String := []

/-- Notes that something was looked for in vain. -/
def Missed.note (missed : Missed) (rest : List Char) (kind : String) : Missed :=
  if rest.length < missed.remaining then ⟨rest.length, [kind]⟩
  else if rest.length = missed.remaining then { missed with kinds := missed.kinds ++ [kind] }
  else missed

/-- What is found with what follows it, if it is found, and what was looked for in vain. -/
abbrev Result (α : Type) := Option (α × List Char) × Missed

/-! ## Blanks -/

/-- Whether a character separates others. -/
def isSpace (c : Char) : Bool := (Text.isBlank c && c ≠ '\x85') || c = '\uFEFF'

/-- Whether a character ends a line. -/
def endsLine (c : Char) : Bool := c = '\n' || c = '\r' || c = '\u2028' || c = '\u2029'

/-- What follows the end of a comment, if there is one. -/
def afterComment? : List Char → Option (List Char)
  | '*' :: '/' :: rest => some rest
  | _ :: rest => afterComment? rest
  | [] => none

/-- What follows blanks and comments; `fuel` bounds the number of comments. -/
def skipBlanks : (fuel : Nat) → List Char → List Char
  | 0, s => s
  | fuel + 1, s =>
    match s.dropWhile isSpace with
    | '/' :: '/' :: rest => skipBlanks fuel (rest.dropWhile (!endsLine ·))
    | '/' :: '*' :: rest =>
      match afterComment? rest with
      | some after => skipBlanks fuel after
      | none => '/' :: '*' :: rest
    | rest => rest

/-- What follows blanks and comments. -/
def skip (s : List Char) : List Char := skipBlanks (s.length + 1) s

/-! ## Texts and names -/

/-- The characters that a letter behind a backslash stands for. -/
def escapes : List (Char × Char) :=
  [('b', '\x08'), ('f', '\x0c'), ('n', '\n'), ('r', '\r'), ('t', '\t'), ('v', '\x0b')]

/-- The character of hexadecimal digits. -/
def codePoint? (digits : List Char) : Option Char :=
  (Text.inBase? 16 digits).bind fun n => if h : n.isValidChar then some (Char.ofNatAux n h) else none

/-- The character of two units that are written one after the other. -/
def paired? (s : List Char) : Option Char :=
  match Text.inBase? 16 (s.take 4), s.drop 4 with
  | some high, '\\' :: 'u' :: rest =>
    (Text.inBase? 16 (rest.take 4)).bind fun low =>
      if 0xD800 ≤ high && high < 0xDC00 && 0xDC00 ≤ low && low < 0xE000 then
        let n := 0x10000 + (high - 0xD800) * 0x400 + (low - 0xDC00)
        if h : n.isValidChar then some (Char.ofNatAux n h) else none
      else none
  | _, _ => none

/-- What an escape behind its backslash stands for, and how long it is. -/
def escape? : List Char → Option (List Char × Nat)
  | [] => none
  | 'x' :: rest => if rest.length < 2 then none else (codePoint? (rest.take 2)).map fun c => ([c], 3)
  | 'u' :: rest =>
    if rest.length < 4 then none
    else
      match codePoint? (rest.take 4), paired? rest with
      | some c, _ => some ([c], 5)
      | none, some c => some ([c], 11)
      | none, none => none
  | '0' :: rest => if rest.head?.any Char.isDigit then none else some (['\x00'], 1)
  | '\r' :: '\n' :: _ => some ([], 2)
  | c :: _ =>
    if endsLine c then some ([], 1)
    else if c.isDigit then none
    else some ([(escapes.lookup c).getD c], 1)

/-- A text behind its opening quote. -/
def text? (quote : Char) : (fuel : Nat) → (out : List Char) → List Char → Option (String × List Char)
  | 0, _, _ => none
  | fuel + 1, out, s =>
    match s with
    | [] => none
    | '\\' :: rest =>
      (escape? rest).bind fun (meant, length) => text? quote fuel (out ++ meant) (rest.drop length)
    | c :: rest =>
      if c = quote then some (String.ofList out, rest)
      else if c = '\n' || c = '\r' then none
      else text? quote fuel (out ++ [c]) rest

/-- A text in quotes. -/
def quoted? : List Char → Option (String × List Char)
  | '"' :: rest => text? '"' (rest.length + 1) [] rest
  | '\x27' :: rest => text? '\x27' (rest.length + 1) [] rest
  | _ => none

/-- Whether a character may start a name. -/
def startsName (c : Char) : Bool :=
  c = '$' || c = '_' || (Text.isAlphanumeric c && !c.isDigit)

/-- Whether a character may go on with a name. -/
def isNameChar (c : Char) : Bool :=
  startsName c || Text.isAlphanumeric c || c = '\u200C' || c = '\u200D'

/-- A name without quotes. -/
def name? (s : List Char) : Option (String × List Char) :=
  if s.head?.any startsName then
    let name := s.takeWhile isNameChar
    some (String.ofList name, s.drop name.length)
  else none

/-! ## Numbers -/

/-- How many characters a sign takes. -/
def signLength : List Char → Nat
  | '+' :: _ | '-' :: _ => 1
  | _ => 0

/-- How many characters an exponent takes. -/
def exponentLength (s : List Char) : Nat :=
  match s with
  | mark :: rest =>
    if mark = 'e' || mark = 'E' then
      let sign := signLength rest
      let digits := ((rest.drop sign).takeWhile Char.isDigit).length
      if digits = 0 then 0 else 1 + sign + digits
    else 0
  | [] => 0

/-- How many characters the whole part of a decimal takes: a zero stands alone. -/
def wholeLength : List Char → Nat
  | '0' :: _ => 1
  | s => (s.takeWhile Char.isDigit).length

/-- How many characters a decimal takes. -/
def decimalLength (s : List Char) : Nat :=
  let whole := wholeLength s
  let fraction := match s.drop whole with
    | '.' :: rest => 1 + (rest.takeWhile Char.isDigit).length
    | _ => 0
  if whole = 0 && fraction ≤ 1 then 0
  else whole + fraction + exponentLength (s.drop (whole + fraction))

/-- How many characters a number in hexadecimal takes. -/
def hexLength : List Char → Nat
  | '0' :: mark :: digits =>
    let n := (digits.takeWhile fun c => (Text.hexValue? c).isSome).length
    if (mark = 'x' || mark = 'X') && n ≠ 0 then n + 2 else 0
  | _ => 0

/-- How many characters the word for a number takes. -/
def wordLength (s : List Char) : Nat :=
  if "Infinity".toList.isPrefixOf s then 8 else if "NaN".toList.isPrefixOf s then 3 else 0

/-- How many characters a number takes. -/
def numberLength (s : List Char) : Nat :=
  let sign := signLength s
  let rest := s.drop sign
  let length :=
    if hexLength rest ≠ 0 then hexLength rest else max (decimalLength rest) (wordLength rest)
  if length = 0 then 0 else sign + length

/-- The digits of a number in hexadecimal, if it is one. -/
def hexDigits? : List Char → Option (List Char)
  | '0' :: mark :: digits => if mark = 'x' || mark = 'X' then some digits else none
  | _ => none

/-- A whole number, which must fit into sixty-four binary places. -/
def wholeNode (token : List Char) : Node :=
  let (negative, digits) := Decimal.splitSign token
  match Text.digits? digits with
  | none => .unusable "error parsing integer"
  | some n =>
    let value : Int := if negative then -n else n
    if Setting.isWhole value then .leaf (.whole value)
    else .unusable "error parsing integer"

/-- A real number, which must be finite. -/
def realNode (token : List Char) : Node :=
  match Decimal.read? token with
  | none => .unusable "error parsing number"
  | some x => if x.isFinite then .leaf (.real x) else .unusable "error parsing number: too large"

/-- The greatest number in hexadecimal. -/
def hexLimit : Nat := 4294967295

/-- The value of a number: real if there is a point or an exponent in it. -/
def numberNode (token : List Char) : Node :=
  match hexDigits? token with
  | some digits =>
    match (Text.inBase? 16 digits).filter (· ≤ hexLimit) with
    | some n => .leaf (.whole n)
    | none => .unusable "error parsing hex"
  | none =>
    let word := String.ofList token
    if word = "Infinity" then .leaf (.real (1.0 / 0.0))
    else if word = "-Infinity" then .leaf (.real (-1.0 / 0.0))
    else if word = "NaN" || word = "-NaN" then .leaf (.real (0.0 / 0.0))
    else if token.any fun c => c = '.' || c = 'e' || c = 'E' then realNode token
    else wholeNode token

/-! ## Values -/

/-- Looks for something of a kind at the front. -/
def look (kind : String) (found : Option (Node × List Char)) (s : List Char) (missed : Missed) :
    Result Node :=
  match found with
  | some result => (some result, missed)
  | none => (none, missed.note s kind)

/-- A value that is a certain word. -/
def word? (word : String) (node : Node) (s : List Char) : Option (Node × List Char) :=
  if word.toList.isPrefixOf s then some (node, s.drop word.length) else none

/-- A value that holds no others. -/
def leaf (s : List Char) (missed : Missed) : Result Node :=
  let truth := (word? "true" (.leaf (.truth true)) s).or (word? "false" (.leaf (.truth false)) s)
  let length := numberLength s
  let number := if length = 0 then none else some (numberNode (s.take length), s.drop length)
  match look "null" (word? "null" .absent s) s missed with
  | (some result, missed) => (some result, missed)
  | (none, missed) =>
    match look "boolean" truth s missed with
    | (some result, missed) => (some result, missed)
    | (none, missed) =>
      match look "string" ((quoted? s).map fun (text, rest) => (.text text, rest)) s missed with
      | (some result, missed) => (some result, missed)
      | (none, missed) => look "number" number s missed

/-- The name of a member. -/
def key (s : List Char) (missed : Missed) : Result String :=
  match name? s, quoted? s with
  | some result, _ => (some result, missed)
  | none, some result => (some result, missed.note s "identifier")
  | none, none => (none, (missed.note s "identifier").note s "string")

mutual

/-- A value. -/
def value (fuel : Nat) (s : List Char) (missed : Missed) : Result Node :=
  match fuel with
  | 0 => (none, missed)
  | fuel + 1 =>
    match leaf s missed with
    | (some result, missed) => (some result, missed)
    | (none, missed) =>
      match s with
      | '\x7b' :: rest => members fuel .emptyTable (skip rest) missed
      | '[' :: rest => elements fuel [] (skip rest) (missed.note s "object")
      | _ => (none, (missed.note s "object").note s "array")

/-- The members of a table behind those that were read. -/
def members (fuel : Nat) (table : Node) (s : List Char) (missed : Missed) : Result Node :=
  match fuel with
  | 0 => (none, missed)
  | fuel + 1 =>
    match s with
    | '\x7d' :: rest => (some (table, rest), missed)
    | _ =>
      match key s missed with
      | (none, missed) => (none, missed)
      | (some (name, rest), missed) =>
        match skip rest with
        | ':' :: rest =>
          match value fuel (skip rest) missed with
          | (none, missed) => (none, missed)
          | (some (node, rest), missed) =>
            let table := table.withMember name node
            match skip rest with
            | ',' :: rest => members fuel table (skip rest) missed
            | '\x7d' :: rest => (some (table, rest), missed)
            | _ => (none, missed)
        | _ => (none, missed)

/-- The elements of a list behind those that were read. -/
def elements (fuel : Nat) (before : List Node) (s : List Char) (missed : Missed) : Result Node :=
  match fuel with
  | 0 => (none, missed)
  | fuel + 1 =>
    match s with
    | ']' :: rest => (some (.list before, rest), missed)
    | _ =>
      match value fuel s missed with
      | (none, missed) => (none, missed)
      | (some (node, rest), missed) =>
        match skip rest with
        | ',' :: rest => elements fuel (before ++ [node]) (skip rest) missed
        | ']' :: rest => (some (.list (before ++ [node]), rest), missed)
        | _ => (none, missed)

end

/-- The value of a whole text. -/
def document (s : List Char) : Except Missed Node :=
  match value (s.length + 1) (skip s) ⟨s.length + 1, []⟩ with
  | (none, missed) => .error missed
  | (some (node, rest), missed) =>
    if (skip rest).isEmpty then .ok node else .error (missed.note (skip rest) "EOI")

/-! ## Refusals in words -/

/-- The kinds in the order in which they are listed. -/
def order : List String :=
  ["EOI", "array", "boolean", "identifier", "null", "number", "object", "string"]

/-- Texts as a list of alternatives. -/
def alternatives : List String → String
  | [] => "unknown parsing error"
  | [a] => a
  | [a, b] => a ++ " or " ++ b
  | kinds => ", ".intercalate kinds.dropLast ++ ", or " ++ kinds.getLast?.getD ""

/-- The line with its line end made visible. -/
def visibleLine (line : List Char) : String :=
  String.ofList (line.map fun c => if c = '\n' then '␊' else if c = '\r' then '␍' else c)

/-- The refusal with the line and a mark under the place. -/
def Missed.text (missed : Missed) (all : List Char) : String :=
  let before := all.take (all.length - missed.remaining)
  let rest := all.drop before.length
  let column := (before.reverse.takeWhile (· ≠ '\n')).reverse
  let tail := rest.takeWhile (· ≠ '\n')
  let line := if rest.head?.any fun c => c = '\n' || c = '\r' then
      visibleLine (column ++ tail ++ (rest.drop tail.length).take 1)
    else String.ofList ((column ++ tail).filter (· ≠ '\r'))
  let number := Text.decimal (1 + before.count '\n')
  let margin := String.ofList (List.replicate number.length ' ')
  let blank := String.ofList (column.map fun c => if c = '\t' then '\t' else ' ')
  let kinds := order.filter missed.kinds.contains
  margin ++ "--> " ++ number ++ ":" ++ Text.decimal (column.length + 1) ++ "\n" ++
    margin ++ " |\n" ++ number ++ " | " ++ line ++ "\n" ++ margin ++ " | " ++ blank ++ "^---\n" ++
    margin ++ " |\n" ++ margin ++ " = expected " ++ alternatives kinds

/-- The format. -/
def format : Format where
  extensions := ["json5"]
  read text :=
    match document text.toList with
    | .error missed => .error (missed.text text.toList)
    | .ok node => node.document

end ChatGateway.Config.Json5
