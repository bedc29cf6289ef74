import ChatGateway.Config.Document

/-!
# Configuration in sections

A file of sections holds assignments of texts to keys, and heads of sections in brackets. The
assignments before the first head are those of the root; a section counts as a table.
-/

namespace ChatGateway.Config.Ini

/-- A refusal: what follows the place, and what is wrong. -/
structure Refusal where
  rest : List Char
  message : String

/-- The character that a letter behind a backslash stands for. -/
def letter (c : Char) : Char :=
  if c = '0' then '\x00' else if c = 'a' then '\x07' else if c = 'b' then '\x08'
  else if c = 't' then '\t' else if c = 'r' then '\r' else if c = 'n' then '\n' else c

/-- The character with four hexadecimal digits. -/
def codePoint? (s : List Char) : Option Char :=
  match Text.inBase? 16 (s.take 4) with
  | none => none
  | some n => if h : n.isValidChar then some (Char.ofNatAux n h) else none

/-- Reads up to one of the ends, which is left; `out` holds the text so far, last character
first. The end of the file is an end if `atFileEnd` says so. -/
def textUntil (ends : List Char) (atFileEnd : Bool) (out : List Char) (s : List Char) :
    Except Refusal (List Char × List Char) :=
  let cutOff : Except Refusal (List Char × List Char) :=
    let shown := ", ".intercalate (ends.map fun c => "Some(\x27" ++ String.singleton c ++ "\x27)")
    .error ⟨[], "expecting \"[" ++ shown ++ "]\" but found EOF."⟩
  match s with
  | [] => if atFileEnd then .ok (out.reverse, []) else cutOff
  | '\\' :: 'x' :: rest =>
    if rest.length < 4 then cutOff
    else
      match codePoint? rest with
      | some c => textUntil ends atFileEnd (c :: out) (rest.drop 4)
      | none => .error ⟨rest.drop 3, "unknown character in \\xHH form"⟩
  | '\\' :: '\n' :: rest => textUntil ends atFileEnd out rest
  | '\\' :: c :: rest => textUntil ends atFileEnd (letter c :: out) rest
  | ['\\'] => cutOff
  | c :: rest =>
    if ends.contains c then .ok (out.reverse, c :: rest)
    else textUntil ends atFileEnd (c :: out) rest
termination_by s.length
decreasing_by all_goals (simp only [List.length_drop, List.length_cons]; omega)

/-- What follows blanks. -/
def skipBlanks (s : List Char) : List Char := s.dropWhile Text.isBlank

/-- Whether a character is a blank within a line. -/
def isGap (c : Char) : Bool := Text.isBlank c && c ≠ '\n' && c ≠ '\r'

/-- Reads a value behind its sign: quoted parts, and the rest of the line, which is trimmed. -/
def value (isFirst : Bool) (out : List Char) : (fuel : Nat) → List Char →
    Except Refusal (List Char × List Char)
  | 0, s => .ok (out, s)
  | fuel + 1, s =>
    match s with
    | [] => .ok (out, [])
    | c :: rest =>
      if c = '"' || c = '\x27' then
        match textUntil [c] false [] rest with
        | .error refusal => .error refusal
        | .ok (quoted, rest) => value false (out ++ quoted) fuel (rest.drop 1)
      else
        match textUntil ['\n', '\r'] true [] s with
        | .error refusal => .error refusal
        | .ok (line, rest) =>
          let trimmed := (line.reverse.dropWhile Text.isBlank).reverse
          .ok (out ++ (if isFirst then skipBlanks trimmed else trimmed), rest)

/-- What has been read: the members of the root, and whether the lines are those of the root. -/
structure State where
  members : List (String × Setting) := []
  atRoot : Bool := true

/-- Reads one head, comment or assignment. -/
def item (state : State) (s : List Char) : Except Refusal (State × List Char) :=
  match s with
  | '[' :: rest =>
    match textUntil [']'] false [] rest with
    | .error refusal => .error refusal
    | .ok (name, rest) =>
      let head := String.ofList (Text.trimChars name)
      .ok (⟨putMember state.members head .table, false⟩, rest.drop 1)
  | c :: rest =>
    if c = ';' || c = '#' then .ok (state, (rest.dropWhile (· ≠ '\n')).drop 1)
    else if c = '=' || c = ':' then .error ⟨c :: rest, "missing key"⟩
    else
      match textUntil ['=', ':'] false [] s with
      | .error refusal => .error refusal
      | .ok (key, after) =>
        match value true [] (s.length + 1) ((after.drop 1).dropWhile isGap) with
        | .error refusal => .error refusal
        | .ok (text, rest) =>
          let name := String.ofList (Text.trimChars key)
          if name.isEmpty then .error ⟨after, "missing key"⟩
          else if state.atRoot then
            .ok ({ state with members := putMember state.members name (.text (String.ofList text)) },
              rest)
          else .ok (state, rest)
  | [] => .ok (state, [])

/-- Reads all lines. -/
def document : (fuel : Nat) → State → List Char → Except Refusal State
  | 0, state, _ => .ok state
  | fuel + 1, state, s =>
    match skipBlanks s with
    | [] => .ok state
    | start =>
      match item state start with
      | .error refusal => .error refusal
      | .ok (state, rest) => document fuel state rest

/-- The refusal behind its line and column. -/
def Refusal.text (refusal : Refusal) (all : List Char) : String :=
  let seen := all.take (all.length - refusal.rest.length + min refusal.rest.length 1)
  let column := (seen.reverse.takeWhile (· ≠ '\n')).length
  Text.decimal (1 + seen.count '\n') ++ ":" ++ Text.decimal (column + 1) ++ " " ++ refusal.message

/-- The format. -/
def format : Format where
  extensions := ["ini"]
  read text :=
    let all := text.toList
    match document (all.length + 1) {} all with
    | .error refusal => .error (refusal.text all)
    | .ok state => .ok (.table state.members)

end ChatGateway.Config.Ini
