import ChatGateway.Config.Document
import ChatGateway.Decimal.Reading
import ChatGateway.Text.Cursor

/-!
# YAML scalars

A scalar without quotes is a number, a truth value or nothing if it looks like one, and a text
otherwise; scalars in quotes and in blocks are texts. Lines of a scalar are folded: a single
line end counts as a blank, and of several the first is dropped.
-/

namespace ChatGateway.Config.Yaml

open ChatGateway.Text (Cursor)

/-- A refusal: what is wrong, and where. -/
structure Refusal where
  message : String
  place : Cursor

/-- A refusal at a place. -/
def refuse {α : Type} (place : Cursor) (message : String) : Except Refusal α := .error ⟨message, place⟩

/-! ## Classes of characters -/

/-- Whether a character is a blank within a line. -/
def isGap (c : Char) : Bool := c = ' ' || c = '\t'

/-- Whether a character is a blank or ends a line. -/
def isSpace (c : Char) : Bool := isGap c || c = '\n' || c = '\r'

/-- Whether a blank, the end of a line or the end of the text comes first. -/
def startsWithSpace : List Char → Bool
  | [] => true
  | c :: _ => isSpace c

/-- Whether a character belongs to the marks of lists and tables in brackets. -/
def isFlowMark (c : Char) : Bool := [',', '[', ']', '\x7b', '\x7d'].contains c

/-- Whether a mark between documents stands at the cursor. -/
def atMarker (cursor : Cursor) : Bool :=
  cursor.column = 0 &&
    (cursor.startsWith "---".toList || cursor.startsWith "...".toList) &&
    startsWithSpace (cursor.rest.drop 3)

/-! ## What a scalar means -/

/-- A whole number in a base, with a sign, that fits into sixty-four binary places. -/
def whole? (base : Nat) (chars : List Char) : Option Int :=
  let (negative, digits) := Decimal.splitSign chars
  ((Text.inBase? base digits).map fun n => if negative then -(n : Int) else n).filter Setting.isWhole

/-- A whole number as it may be written without quotes. -/
def plainWhole? : List Char → Option Int
  | '0' :: 'x' :: digits => whole? 16 digits
  | '0' :: 'o' :: digits => whole? 8 digits
  | chars => whole? 10 chars

/-- The spellings of numbers that are none. -/
def specialReals : List String :=
  [".inf", ".Inf", ".INF", "+.inf", "+.Inf", "+.INF", "-.inf", "-.Inf", "-.INF",
    ".nan", "NaN", ".NaN", ".NAN"]

/-- What is said of a number that is none. -/
def unreadableReal (text : String) : String :=
  "Parsing " ++ text ++ " as floating point number failed"

/-- The value of a text that is read as a real number: a numeral remembers its value. -/
def realSetting (text : String) (x : Float) : Setting :=
  match Text.natural? text.toList with
  | some n => .large n x
  | none => .real x

/-- The value of a scalar without quotes. -/
def plainNode (text : String) : Node :=
  if text = "~" || text = "null" then .absent
  else if text = "true" then .leaf (.truth true)
  else if text = "false" then .leaf (.truth false)
  else
    match plainWhole? text.toList, Decimal.read? text.toList with
    | some n, _ => .leaf (.whole n)
    | none, some x => .leaf (realSetting text x)
    | none, none =>
      if specialReals.contains text then .unusable (unreadableReal text)
      else .text text

/-- The value of a scalar without quotes under a standard tag. -/
def taggedNode (tag text : String) : Node :=
  let onlyIf := fun (ok : Bool) => if ok then plainNode text else .absent
  match tag with
  | "bool" => onlyIf (text = "true" || text = "false")
  | "int" =>
    match whole? 10 text.toList with
    | some n => .leaf (.whole n)
    | none => .absent
  | "float" =>
    match Decimal.read? text.toList with
    | some x => .leaf (.real x)
    | none => onlyIf (specialReals.contains text)
  | "null" => .absent
  | _ => .text text

/-! ## Folding -/

/-- What blanks and line ends inside a scalar count as; `cut` says whether they follow a line
end that does not count. -/
def folded (cut : Bool) (spaces : List Char) : List Char :=
  let breaks := spaces.count '\n'
  if cut then List.replicate breaks '\n'
  else if breaks = 0 then spaces
  else if breaks = 1 then [' ']
  else List.replicate (breaks - 1) '\n'

/-! ## Scalars without quotes -/

/-- How many characters are left of a scalar without quotes before a blank; in brackets, more
characters end it. -/
def plainWord (inFlow : Bool) : List Char → Nat
  | [] => 0
  | c :: rest =>
    if isSpace c then 0
    else if c = ':' && (startsWithSpace rest || (inFlow && rest.head?.any isFlowMark)) then 0
    else if inFlow && isFlowMark c then 0
    else plainWord inFlow rest + 1

/-- Reads a scalar without quotes that lies right of a column; `out` is what was read, and
`place` is the end of it. -/
def plain (inFlow : Bool) (indent : Int) : (fuel : Nat) → (out : List Char) → (place : Cursor) →
    Cursor → String × Cursor
  | 0, out, place, _ => (String.ofList out, place)
  | fuel + 1, out, place, cursor =>
    let length := plainWord inFlow cursor.rest
    if atMarker cursor || cursor.rest.head? = some '#' || length = 0 then (String.ofList out, place)
    else
      let spaces := place.rest.take (place.rest.length - cursor.rest.length)
      let out := out ++ folded false spaces ++ cursor.rest.take length
      let place := cursor.skip length
      let next := place.skipRun isSpace
      if !inFlow && (next.column : Int) ≤ indent && next.line ≠ place.line then
        (String.ofList out, place)
      else plain inFlow indent fuel out place next

/-! ## Scalars in quotes -/

/-- The characters that a letter behind a backslash stands for. -/
def escapes : List (Char × Char) :=
  [('0', '\x00'), ('a', '\x07'), ('b', '\x08'), ('t', '\t'), ('\t', '\t'), ('n', '\n'),
    ('v', '\x0b'), ('f', '\x0c'), ('r', '\r'), ('e', '\x1b'), (' ', ' '), ('"', '"'),
    ('\x27', '\x27'), ('\\', '\\'), ('N', '\x85'), ('_', '\u00A0'), ('L', '\u2028'), ('P', '\u2029')]

/-- How many hexadecimal digits follow a letter behind a backslash. -/
def codeWidths : List (Char × Nat) := [('x', 2), ('u', 4), ('U', 8)]

/-- The character of hexadecimal digits. -/
def codePoint? (digits : List Char) : Option Char :=
  (Text.inBase? 16 digits).bind fun n => if h : n.isValidChar then some (Char.ofNatAux n h) else none

/-- Reads what follows a backslash: the character, and how many characters it takes. -/
def escaped (start : Cursor) (rest : List Char) : Except Refusal (Char × Nat) :=
  match rest with
  | [] => refuse start "while scanning a quoted scalar, found unexpected end of stream"
  | c :: digits =>
    match escapes.lookup c, codeWidths.lookup c with
    | some meant, _ => .ok (meant, 1)
    | none, none => refuse start "while parsing a quoted scalar, found unknown escape character"
    | none, some width =>
      if !(digits.take width).all (fun d => (Text.hexValue? d).isSome) || digits.length < width then
        refuse start "while parsing a quoted scalar, did not find expected hexdecimal number"
      else
        match codePoint? (digits.take width) with
        | some meant => .ok (meant, width + 1)
        | none =>
          refuse start "while parsing a quoted scalar, found invalid Unicode character escape code"

/-- Reads a scalar behind its opening quote, which stands at `start`. -/
def quoted (quote : Char) (start : Cursor) : (fuel : Nat) → (out : List Char) → Cursor →
    Except Refusal (String × Cursor)
  | 0, _, _ => refuse start "while scanning a quoted scalar, found unexpected end of stream"
  | fuel + 1, out, cursor =>
    if atMarker cursor then
      refuse start "while scanning a quoted scalar, found unexpected document indicator"
    else
      match cursor.rest with
      | [] => refuse start "while scanning a quoted scalar, found unexpected end of stream"
      | c :: rest =>
        if c = quote then
          if quote = '\x27' && rest.head? = some quote then
            quoted quote start fuel (out ++ [quote]) (cursor.skip 2)
          else .ok (String.ofList out, cursor.skip 1)
        else if c = '\\' && quote = '"' then
          if rest.head? = some '\n' then
            let next := (cursor.skip 2).skipRun isSpace
            let spaces := rest.drop 1 |>.takeWhile isSpace
            quoted quote start fuel (out ++ folded true spaces) next
          else
            match escaped start rest with
            | .error refusal => .error refusal
            | .ok (meant, length) => quoted quote start fuel (out ++ [meant]) (cursor.skip (length + 1))
        else if isSpace c then
          quoted quote start fuel (out ++ folded false (cursor.run isSpace)) (cursor.skipRun isSpace)
        else quoted quote start fuel (out ++ [c]) (cursor.skip 1)

/-! ## Scalars in blocks -/

/-- What is done with the line ends at the end of a block. -/
inductive Chomping where
  | strip
  | clip
  | keep

/-- What the marks behind the opening of a block say. -/
structure BlockHead where
  chomping : Chomping := .clip
  indent : Option Nat := none

/-- Reads the marks behind the opening of a block. -/
def blockHead (start : Cursor) : (fuel : Nat) → BlockHead → Cursor →
    Except Refusal (BlockHead × Cursor)
  | 0, head, cursor => .ok (head, cursor)
  | fuel + 1, head, cursor =>
    match cursor.rest.head? with
    | some '+' => blockHead start fuel { head with chomping := .keep } (cursor.skip 1)
    | some '-' => blockHead start fuel { head with chomping := .strip } (cursor.skip 1)
    | some c =>
      if c = '0' then
        refuse start "while scanning a block scalar, found an indentation indicator equal to 0"
      else
        match Text.digit? c with
        | some n => blockHead start fuel { head with indent := some n } (cursor.skip 1)
        | none => .ok (head, cursor)
    | none => .ok (head, cursor)

/-- What follows the indentation and the empty lines before a line of a block: the place, the
number of line ends, and the greatest indentation. -/
def blockBreaks (indent : Option Nat) : (fuel : Nat) → (breaks widest : Nat) → Cursor →
    Cursor × Nat × Nat
  | 0, breaks, widest, cursor => (cursor, breaks, widest)
  | fuel + 1, breaks, widest, cursor =>
    let blanks := (cursor.run (· = ' ')).length
    let here := cursor.skip (match indent with
      | none => blanks
      | some limit => min blanks (limit - cursor.column))
    let widest := max widest here.column
    if here.rest.head? = some '\n' then blockBreaks indent fuel (breaks + 1) widest (here.skip 1)
    else (here, breaks, widest)

/-- What has been read of a block. -/
structure BlockState where
  out : List Char := []
  /-- Whether a line end waits to be written. -/
  pending : Bool := false
  /-- The empty lines that wait to be written. -/
  empty : Nat := 0
  /-- Whether the last line starts with a blank. -/
  indented : Bool := false

/-- Adds a line to what was read. -/
def BlockState.addLine (isLiteral : Bool) (state : BlockState) (line : List Char) : BlockState :=
  let startsBlank := line.head?.any isGap
  let joined :=
    if !isLiteral && state.pending && !state.indented && !startsBlank then
      if state.empty = 0 then [' '] else []
    else if state.pending then ['\n'] else []
  { out := state.out ++ joined ++ List.replicate state.empty '\n' ++ line
    pending := false
    empty := 0
    indented := startsBlank }

/-- Reads the lines of a block. -/
def blockLines (isLiteral : Bool) (indent : Nat) : (fuel : Nat) → BlockState → Cursor →
    BlockState × Cursor
  | 0, state, cursor => (state, cursor)
  | fuel + 1, state, cursor =>
    if cursor.column ≠ indent || cursor.rest.isEmpty then (state, cursor)
    else
      let line := cursor.run (· ≠ '\n')
      let state := state.addLine isLiteral line
      let after := cursor.skip line.length
      if after.rest.isEmpty then (state, after)
      else
        let (next, breaks, _) := blockBreaks (some indent) (after.rest.length + 1) 0 0 (after.skip 1)
        blockLines isLiteral indent fuel { state with pending := true, empty := breaks } next

/-- Reads a block behind its opening, which lies right of a column. -/
def block (isLiteral : Bool) (parent : Int) (start cursor : Cursor) :
    Except Refusal (String × Cursor) :=
  match blockHead start 3 {} cursor with
  | .error refusal => .error refusal
  | .ok (head, afterHead) =>
    let blank := afterHead.skipRun isGap
    let bare := if blank.rest.head? = some '#' then blank.skipRun (· ≠ '\n') else blank
    if !(bare.rest.isEmpty || bare.rest.head? = some '\n') then
      refuse start "while scanning a block scalar, did not find expected comment or line break"
    else
      let fuel := bare.rest.length + 1
      let least := (max (parent + 1) 1).toNat
      let given := head.indent.map fun n => (max parent 0).toNat + n
      let (first, breaks, widest) := blockBreaks given fuel 0 0 (bare.skip 1)
      let indent := given.getD (max widest least)
      let (state, after) := blockLines isLiteral indent fuel { empty := breaks } first
      let ends := match head.chomping with
        | .strip => []
        | .clip => if state.pending then ['\n'] else []
        | .keep => (if state.pending then ['\n'] else []) ++ List.replicate state.empty '\n'
      .ok (String.ofList (state.out ++ ends), after)

end ChatGateway.Config.Yaml
