import ChatGateway.Config.Document
import ChatGateway.Decimal.Reading
import ChatGateway.Text.Cursor

/-!
# Configuration in RON

Structures and tuples stand in parentheses, behind a name or without one; maps stand in braces
and lists in brackets. A value may be optional, and a comment may stand between any two marks.
-/

namespace ChatGateway.Config.Ron

open ChatGateway.Text (Cursor)

/-- A refusal: what is wrong, and where. -/
structure Refusal where
  message : String
  place : Cursor

/-- A refusal at a place. -/
def refuse {α : Type} (place : Cursor) (message : String) : Except Refusal α := .error ⟨message, place⟩

/-- What is read, and what follows it. -/
abbrev Result (α : Type) := Except Refusal (α × Cursor)

/-- What is said where the text ends too early. -/
def cutOff : String := "Unexpected end of RON"

/-! ## Blanks and names -/

/-- How many characters a comment takes behind its opening, given how deep it is nested. -/
def commentLength : (depth : Nat) → List Char → Option Nat
  | depth, '/' :: '*' :: rest => (commentLength (depth + 1) rest).map (· + 2)
  | 0, '*' :: '/' :: _ => some 2
  | depth + 1, '*' :: '/' :: rest => (commentLength depth rest).map (· + 2)
  | depth, _ :: rest => (commentLength depth rest).map (· + 1)
  | _, [] => none

/-- What follows blanks and comments; `fuel` bounds the number of comments. -/
def skipBlanks : (fuel : Nat) → Cursor → Except Refusal Cursor
  | 0, cursor => .ok cursor
  | fuel + 1, cursor =>
    let next := cursor.skipRun Text.isBlank
    if next.startsWith ['/', '/'] then skipBlanks fuel (next.skipRun (· ≠ '\n'))
    else if next.startsWith ['/', '*'] then
      match commentLength 0 (next.rest.drop 2) with
      | some length => skipBlanks fuel (next.skip (length + 2))
      | none => refuse next "Unclosed block comment"
    else .ok next

/-- What follows blanks and comments. -/
def skip (cursor : Cursor) : Except Refusal Cursor := skipBlanks (cursor.rest.length + 1) cursor

/-- Whether a character may start a name. -/
def startsName (c : Char) : Bool := c.isAlpha || c = '_'

/-- Whether a character may go on with a name. -/
def isNameChar (c : Char) : Bool := c.isAlphanum || c = '_'

/-- What follows a certain character behind blanks, if it stands there. -/
def after? (mark : Char) (cursor : Cursor) : Except Refusal (Option Cursor) := do
  let next ← skip cursor
  return if next.rest.head? = some mark then some (next.skip 1) else none

/-! ## Texts -/

/-- The characters that a letter behind a backslash stands for. -/
def escapes : List (Char × Char) :=
  [('\x27', '\x27'), ('"', '"'), ('\\', '\\'), ('n', '\n'), ('r', '\r'), ('t', '\t'), ('0', '\x00')]

/-- The character of hexadecimal digits. -/
def codePoint? (digits : List Char) : Option Char :=
  (Text.inBase? 16 digits).bind fun n => if h : n.isValidChar then some (Char.ofNatAux n h) else none

/-- What an escape behind its backslash stands for, and how long it is. -/
def escape? : List Char → Option (Char × Nat)
  | 'x' :: rest => if rest.length < 2 then none else (codePoint? (rest.take 2)).map fun c => (c, 3)
  | 'u' :: '\x7b' :: rest =>
    let digits := rest.takeWhile (· ≠ '\x7d')
    (codePoint? digits).map fun c => (c, digits.length + 3)
  | c :: _ => (escapes.lookup c).map fun meant => (meant, 1)
  | [] => none

/-- Reads a text behind its opening quote. -/
def text : (fuel : Nat) → (out : List Char) → Cursor → Result String
  | 0, _, cursor => refuse cursor "Expected end of string"
  | fuel + 1, out, cursor =>
    match cursor.rest with
    | [] => refuse cursor "Expected end of string"
    | '"' :: _ => .ok (String.ofList out, cursor.skip 1)
    | '\\' :: rest =>
      match escape? rest with
      | some (c, length) => text fuel (out ++ [c]) (cursor.skip (length + 1))
      | none => refuse (cursor.skip 1) "Invalid escape sequence \x60Unknown escape character\x60"
    | c :: _ => text fuel (out ++ [c]) (cursor.skip 1)

/-- How many characters there are before a closing. -/
def lengthBefore? (closing : List Char) : List Char → Option Nat
  | [] => none
  | c :: rest =>
    if closing.isPrefixOf (c :: rest) then some 0 else (lengthBefore? closing rest).map (· + 1)

/-- Reads a text in which nothing is escaped, behind the letter for it. -/
def rawText (cursor : Cursor) : Result String :=
  let fence := cursor.run (· = '#')
  let start := cursor.skip (fence.length + 1)
  match lengthBefore? ('"' :: fence) start.rest with
  | none => refuse cursor "Expected end of string"
  | some length =>
    .ok (String.ofList (start.rest.take length), start.skip (length + fence.length + 1))

/-- Reads a character behind its opening quote. -/
def character (cursor : Cursor) : Result String :=
  let read : Option (Char × Nat) := match cursor.rest with
    | '\\' :: rest => (escape? rest).map fun (c, length) => (c, length + 1)
    | c :: _ => some (c, 1)
    | [] => none
  match read with
  | none => refuse cursor "Expected char"
  | some (c, length) =>
    let next := cursor.skip length
    if next.rest.head? = some '\x27' then .ok (String.singleton c, next.skip 1)
    else refuse next "Expected char"

/-! ## Numbers -/

/-- Whether a character may stand in a number. -/
def isNumberChar (c : Char) : Bool := c.isAlphanum || c = '_' || c = '.' || c = '+' || c = '-'

/-- The digits of a whole number with its base. -/
def inBase? : List Char → Option Nat
  | '0' :: 'x' :: digits => Text.inBase? 16 digits
  | '0' :: 'o' :: digits => Text.inBase? 8 digits
  | '0' :: 'b' :: digits => Text.inBase? 2 digits
  | digits => Text.digits? digits

/-- Reads a number. -/
def number (cursor : Cursor) : Result Node :=
  let token := cursor.run isNumberChar
  let digits := token.filter (· ≠ '_')
  let (negative, size) := Decimal.splitSign digits
  let next := cursor.skip token.length
  match inBase? size, Decimal.read? digits with
  | some n, _ =>
    let value : Int := if negative then -n else n
    if Setting.isWhole value then .ok (.leaf (.whole value), next)
    else refuse next "Integer is out of bounds"
  | none, some x => .ok (.leaf (.real x), next)
  | none, none => refuse cursor "Invalid digit in number"

/-! ## Values -/

/-- The word at the cursor, as a value if it is one. -/
def word (name : String) : Node :=
  match name with
  | "true" => .leaf (.truth true)
  | "false" => .leaf (.truth false)
  | "inf" => .leaf (.real (1.0 / 0.0))
  | "NaN" => .leaf (.real (0.0 / 0.0))
  | _ => .absent

/-- Whether the member of a structure starts: a name with a colon behind it. -/
def startsMember (cursor : Cursor) : Bool :=
  cursor.rest.head?.any startsName &&
    match skip (cursor.skipRun isNameChar) with
    | .ok next => next.rest.head? = some ':'
    | .error _ => false

/-- Takes the mark that closes a value. -/
def close (mark : Char) (message : String) (node : Node) (cursor : Cursor) : Result Node :=
  match skip cursor with
  | .error refusal => .error refusal
  | .ok next => if next.rest.head? = some mark then .ok (node, next.skip 1) else refuse next message

/-- A text as a value. -/
def leaf : Result String → Result Node
  | .error refusal => .error refusal
  | .ok (text, after) => .ok (.text text, after)

mutual

/-- Reads a value. -/
def value (fuel : Nat) (cursor : Cursor) : Result Node :=
  match fuel with
  | 0 => refuse cursor cutOff
  | fuel + 1 =>
    match skip cursor with
    | .error refusal => .error refusal
    | .ok here =>
      match here.rest with
      | [] => refuse here cutOff
      | '"' :: _ => leaf (text (here.rest.length + 1) [] (here.skip 1))
      | 'r' :: '"' :: _ | 'r' :: '#' :: _ => leaf (rawText (here.skip 1))
      | '\x27' :: _ => leaf (character (here.skip 1))
      | '(' :: _ => inParentheses fuel (here.skip 1)
      | '[' :: _ => sequence fuel ']' [] (here.skip 1)
      | '\x7b' :: _ => map fuel .emptyTable (here.skip 1)
      | c :: _ =>
        if startsName c then named fuel here
        else if c.isDigit || c = '-' || c = '+' || c = '.' then number here
        else refuse here ("Unexpected byte \x27" ++ String.singleton c ++ "\x27")

/-- Reads a value that starts with a name. -/
def named (fuel : Nat) (here : Cursor) : Result Node :=
  match fuel with
  | 0 => refuse here cutOff
  | fuel + 1 =>
    let name := String.ofList (here.run isNameChar)
    let behind := here.skipRun isNameChar
    match after? '(' behind with
    | .error refusal => .error refusal
    | .ok none => .ok (word name, behind)
    | .ok (some inner) =>
      if name = "Some" then
        match value fuel inner with
        | .error refusal => .error refusal
        | .ok (node, after) => close ')' "Expected closing \x60)\x60" node after
      else inParentheses fuel inner

/-- Reads what stands in parentheses: nothing, members, or elements. -/
def inParentheses (fuel : Nat) (cursor : Cursor) : Result Node :=
  match fuel with
  | 0 => refuse cursor cutOff
  | fuel + 1 =>
    match skip cursor with
    | .error refusal => .error refusal
    | .ok here =>
      if here.rest.head? = some ')' then .ok (.absent, here.skip 1)
      else if startsMember here then members fuel .emptyTable here
      else sequence fuel ')' [] here

/-- Reads the members of a structure behind those that were read. -/
def members (fuel : Nat) (table : Node) (cursor : Cursor) : Result Node :=
  match fuel with
  | 0 => refuse cursor cutOff
  | fuel + 1 =>
    match skip cursor with
    | .error refusal => .error refusal
    | .ok here =>
      if here.rest.head? = some ')' then .ok (table, here.skip 1)
      else if !here.rest.head?.any startsName then refuse here "Expected identifier"
      else
        let name := String.ofList (here.run isNameChar)
        match after? ':' (here.skipRun isNameChar) with
        | .error refusal => .error refusal
        | .ok none => refuse (here.skipRun isNameChar) "Expected colon"
        | .ok (some inner) =>
          match value fuel inner with
          | .error refusal => .error refusal
          | .ok (node, behind) =>
            let table := table.withMember name node
            match after? ',' behind with
            | .error refusal => .error refusal
            | .ok (some next) => members fuel table next
            | .ok none => close ')' "Expected comma" table behind

/-- Reads elements up to the mark that closes them, behind those that were read. -/
def sequence (fuel : Nat) (closing : Char) (before : List Node) (cursor : Cursor) : Result Node :=
  match fuel with
  | 0 => refuse cursor cutOff
  | fuel + 1 =>
    match skip cursor with
    | .error refusal => .error refusal
    | .ok here =>
      if here.rest.head? = some closing then .ok (.list before, here.skip 1)
      else
        match value fuel here with
        | .error refusal => .error refusal
        | .ok (node, behind) =>
          match after? ',' behind with
          | .error refusal => .error refusal
          | .ok (some next) => sequence fuel closing (before ++ [node]) next
          | .ok none => close closing "Expected comma" (.list (before ++ [node])) behind

/-- Reads the entries of a map behind those that were read. -/
def map (fuel : Nat) (table : Node) (cursor : Cursor) : Result Node :=
  match fuel with
  | 0 => refuse cursor cutOff
  | fuel + 1 =>
    match skip cursor with
    | .error refusal => .error refusal
    | .ok here =>
      if here.rest.head? = some '\x7d' then .ok (table, here.skip 1)
      else
        match value fuel here with
        | .error refusal => .error refusal
        | .ok (key, behind) =>
          match after? ':' behind with
          | .error refusal => .error refusal
          | .ok none => refuse behind "Expected colon"
          | .ok (some inner) =>
            match value fuel inner with
            | .error refusal => .error refusal
            | .ok (node, behind) =>
              let name := match key.setting with
                | .text name => name
                | _ => ""
              let table := table.withMember name node
              match after? ',' behind with
              | .error refusal => .error refusal
              | .ok (some next) => map fuel table next
              | .ok none => close '\x7d' "Expected comma" table behind

end

/-- What follows the lines that switch extensions on. -/
def skipExtensions : (fuel : Nat) → Cursor → Except Refusal Cursor
  | 0, cursor => .ok cursor
  | fuel + 1, cursor =>
    match skip cursor with
    | .error refusal => .error refusal
    | .ok next =>
      if next.startsWith ['#', '!', '['] then
        skipExtensions fuel ((next.skipRun (· ≠ ']')).skip 1)
      else .ok next

/-- The value of a whole text. -/
def document (start : Cursor) : Except Refusal Node :=
  match skipExtensions (start.rest.length + 1) start with
  | .error refusal => .error refusal
  | .ok here =>
    match value (2 * here.rest.length + 2) here with
    | .error refusal => .error refusal
    | .ok (node, behind) =>
      match skip behind with
      | .error refusal => .error refusal
      | .ok rest =>
        if rest.rest.isEmpty then .ok node else refuse rest "Non-whitespace trailing characters"

/-- The refusal behind its place. -/
def Refusal.text (refusal : Refusal) : String :=
  Text.decimal refusal.place.line ++ ":" ++ Text.decimal (refusal.place.column + 1) ++ ": " ++
    refusal.message

/-- The format. -/
def format : Format where
  extensions := ["ron"]
  read text :=
    match document (Cursor.ofText text) with
    | .error refusal => .error refusal.text
    | .ok node => node.document

end ChatGateway.Config.Ron
