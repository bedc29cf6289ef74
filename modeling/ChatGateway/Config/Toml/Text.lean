import ChatGateway.Config.Document

/-!
# TOML texts and keys

Texts stand in one kind of quotes or another, on one line or on several; in single quotes
nothing is escaped. A key is one name or several between dots, each bare or a text.
-/

namespace ChatGateway.Config.Toml

/-- A refusal: how many characters follow the place, and what is wrong. -/
structure Refusal where
  remaining : Nat
  message : String

/-- Reads from the front of the characters. -/
abbrev Parse (α : Type) := List Char → Except Refusal (α × List Char)

/-- A refusal before the characters. -/
def refuse {α : Type} (rest : List Char) (message : String) : Except Refusal α :=
  .error ⟨rest.length, message⟩

/-! ## Blanks and lines -/

/-- Whether a character is a blank within a line. -/
def isGap (c : Char) : Bool := c = ' ' || c = '\t'

/-- What follows blanks. -/
def skipGap (s : List Char) : List Char := s.dropWhile isGap

/-- Whether a character may stand in a comment. -/
def isCommentChar (c : Char) : Bool := c = '\t' || (' ' ≤ c && c ≠ '\x7F')

/-- What follows blanks and a comment. -/
def skipTrailing (s : List Char) : List Char :=
  match skipGap s with
  | '#' :: rest => rest.dropWhile isCommentChar
  | rest => rest

/-- What follows the end of a line; none if the line does not end here. -/
def afterLineEnd? : List Char → Option (List Char)
  | [] => some []
  | '\n' :: rest => some rest
  | '\r' :: '\n' :: rest => some rest
  | _ => none

/-- What follows blanks, comments and line ends; `fuel` bounds the number of lines. -/
def skipLines : (fuel : Nat) → List Char → List Char
  | 0, s => s
  | fuel + 1, s =>
    match skipTrailing s with
    | '\n' :: rest => skipLines fuel rest
    | '\r' :: '\n' :: rest => skipLines fuel rest
    | rest => rest

/-- What follows all blank lines and comments. -/
def skipBlank (s : List Char) : List Char := skipLines s.length s

/-- Ends a line behind what was read. -/
def endLine (s : List Char) : Except Refusal (List Char) :=
  let rest := skipTrailing s
  match afterLineEnd? rest with
  | some after => .ok after
  | none => refuse rest "expected newline, \x60#\x60"

/-! ## Texts -/

/-- The character with a number of hexadecimal digits, if there is one. -/
def codePoint? (width : Nat) (s : List Char) : Option (Char × List Char) :=
  let digits := s.take width
  if digits.length < width then none
  else
    match Text.inBase? 16 digits with
    | none => none
    | some n => if h : n.isValidChar then some (Char.ofNatAux n h, s.drop width) else none

/-- The character that an escape stands for, and what follows it. -/
def escaped? : List Char → Option (Char × List Char)
  | 'b' :: rest => some ('\x08', rest)
  | 't' :: rest => some ('\t', rest)
  | 'n' :: rest => some ('\n', rest)
  | 'f' :: rest => some ('\x0c', rest)
  | 'r' :: rest => some ('\r', rest)
  | '"' :: rest => some ('"', rest)
  | '\\' :: rest => some ('\\', rest)
  | 'u' :: rest => codePoint? 4 rest
  | 'U' :: rest => codePoint? 8 rest
  | _ => none

/-- Whether a character may stand in a text of one line. -/
def isTextChar (c : Char) : Bool := isCommentChar c

/-- Reads a text behind its opening quote; `out` holds the text so far, last character first. -/
def basic : (fuel : Nat) → (out : List Char) → Parse String
  | 0, _, s => refuse s "invalid basic string"
  | fuel + 1, out, s =>
    match s with
    | '"' :: rest => .ok (String.ofList out.reverse, rest)
    | '\\' :: rest =>
      match escaped? rest with
      | some (c, rest) => basic fuel (c :: out) rest
      | none => refuse rest ("invalid escape sequence\nexpected \x60b\x60, \x60f\x60, \x60n\x60, " ++
          "\x60r\x60, \x60t\x60, \x60u\x60, \x60U\x60, \x60\\\x60, \x60\"\x60")
    | c :: rest =>
      if isTextChar c then basic fuel (c :: out) rest else refuse s "invalid basic string"
    | [] => refuse s "invalid basic string"

/-- Reads a literal text behind its opening quote. -/
def literal (s : List Char) : Except Refusal (String × List Char) :=
  let content := s.takeWhile fun c => isTextChar c && c ≠ '\x27'
  match s.drop content.length with
  | '\x27' :: rest => .ok (String.ofList content, rest)
  | rest => refuse rest "invalid literal string"

/-- What follows a line end right behind an opening mark. -/
def afterOpening : List Char → List Char
  | '\n' :: rest => rest
  | '\r' :: '\n' :: rest => rest
  | s => s

/-- How many of the characters at the front are the mark. -/
def markRun (mark : Char) (s : List Char) : Nat := (s.takeWhile (· = mark)).length

/-- The marks that belong to a text that ends in a run of at least three: all but three of
them, and at most two. -/
def keptMarks (run : Nat) : Nat := min (run - 3) 2

/-- What follows blanks and line ends behind a backslash that ends its line. -/
def afterContinuation? (s : List Char) : Option (List Char) :=
  match skipGap s with
  | '\n' :: rest => some (rest.dropWhile fun c => isGap c || c = '\n' || c = '\r')
  | '\r' :: '\n' :: rest => some (rest.dropWhile fun c => isGap c || c = '\n' || c = '\r')
  | _ => none

/-- Reads a text of several lines behind its opening; in a literal one nothing is escaped. -/
def lines (mark : Char) (refusal : String) : (fuel : Nat) → (out : List Char) → Parse String
  | 0, _, s => refuse s refusal
  | fuel + 1, out, s =>
    let run := markRun mark s
    if 3 ≤ run then
      .ok (String.ofList (List.replicate (keptMarks run) mark ++ out).reverse,
        s.drop (keptMarks run + 3))
    else
      match s with
      | [] => refuse s refusal
      | '\r' :: '\n' :: rest => lines mark refusal fuel ('\n' :: out) rest
      | '\\' :: rest =>
        if mark = '\x27' then lines mark refusal fuel ('\\' :: out) rest
        else
          match escaped? rest, afterContinuation? rest with
          | some (c, rest), _ => lines mark refusal fuel (c :: out) rest
          | none, some rest => lines mark refusal fuel out rest
          | none, none => refuse rest refusal
      | c :: rest =>
        if c = '\n' || isTextChar c then lines mark refusal fuel (c :: out) rest
        else refuse s refusal

/-- Reads a text in quotes of any kind; none if there are no quotes. -/
def quoted? (s : List Char) : Option (Except Refusal (String × List Char)) :=
  match s with
  | '"' :: '"' :: '"' :: rest =>
    some (lines '"' "invalid multiline basic string" (rest.length + 1) [] (afterOpening rest))
  | '\x27' :: '\x27' :: '\x27' :: rest =>
    some (lines '\x27' "invalid multiline literal string" (rest.length + 1) [] (afterOpening rest))
  | '"' :: rest => some (basic (rest.length + 1) [] rest)
  | '\x27' :: rest => some (literal rest)
  | _ => none

/-! ## Keys -/

/-- Whether a character may stand in a key without quotes. -/
def isBareChar (c : Char) : Bool := c.isAlphanum || c = '_' || c = '-'

/-- Reads one name of a key. -/
def name : Parse String := fun s =>
  match s with
  | '"' :: rest => basic (rest.length + 1) [] rest
  | '\x27' :: rest => literal rest
  | _ =>
    let bare := s.takeWhile isBareChar
    if bare.isEmpty then refuse s "invalid key" else .ok (String.ofList bare, s.drop bare.length)

/-- Reads the names of a key behind those that are given. -/
def names : (fuel : Nat) → (before : List String) → Parse (List String)
  | 0, _, s => refuse s "invalid key"
  | fuel + 1, before, s =>
    match name (skipGap s) with
    | .error refusal => .error refusal
    | .ok (name, rest) =>
      match skipGap rest with
      | '.' :: more => names fuel (before ++ [name]) more
      | after => .ok (before ++ [name], after)

/-- Reads a key. -/
def key : Parse (List String) := fun s => names (s.length + 1) [] s

end ChatGateway.Config.Toml
