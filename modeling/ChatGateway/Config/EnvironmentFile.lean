import ChatGateway.Text.Alphanumeric
import ChatGateway.Text.Blank
import ChatGateway.Text.Bytes
import ChatGateway.Text.Quoted

/-!
# Files of variables

A file of variables holds one assignment a line: a name, an equals sign and a value, in
which quotes, escapes and references to other variables have their usual meaning. A quoted
value may go on over several lines. Variables that are set already keep their values, and
the first line at fault ends the reading. No variable can be set to a value that holds the
character zero; the process ends in the attempt.
-/

namespace ChatGateway.EnvironmentFile

/-! ## Lines -/

/-- Where the scan of a line stands. -/
inductive Scan where
  | plain
  | escape
  | single
  | singleEscape
  | double
  | doubleEscape
  | gap
  deriving DecidableEq, Repr

/-- Whether a character separates words within a line. -/
def isGap (c : Char) : Bool := Text.isBlank c && c ≠ '\n' && c ≠ '\r'

/-- What a character outside of quotes begins. -/
def Scan.begin (c : Char) : Scan :=
  if c = '\\' then escape else if c = '"' then double else if c = '\x27' then single else plain

/-- Where the scan stands behind a character. -/
def Scan.next (scan : Scan) (c : Char) : Scan :=
  match scan with
  | plain => if isGap c then gap else begin c
  | gap => begin c
  | escape => plain
  | double => if c = '\\' then doubleEscape else if c = '"' then plain else double
  | doubleEscape => double
  | single => if c = '\\' then singleEscape else if c = '\x27' then plain else single
  | singleEscape => single

/-- Scans the characters of a line; none if a comment starts in it. The characters before the
comment are returned, last first. -/
def scanLine (scan : Scan) (seen : List Char) : List Char → List Char × Option Scan
  | [] => (seen, some scan)
  | c :: rest =>
    if scan = .gap && c = '#' then (seen, none) else scanLine (scan.next c) (c :: seen) rest

/-- The lines of a text, each with its line feed. -/
def physicalLines (chars : List Char) : List (List Char) :=
  let parts := chars.splitOn '\n'
  (parts.dropLast.map (· ++ ['\n'])) ++ (parts.getLast?.toList.filter (!·.isEmpty))

/-- Whether a line is a comment and nothing else. -/
def isComment (line : List Char) : Bool := (line.dropWhile Text.isBlank).head? = some '#'

/-- A line without its end. -/
def withoutEnd (line : List Char) : List Char :=
  match line.reverse with
  | '\n' :: '\r' :: rest => rest.reverse
  | '\n' :: rest => rest.reverse
  | _ => line

/-- The logical lines: a line goes on as long as a quote or an escape is open. `held` is what
the current one holds so far. A logical line that does not end is a fault and ends the list. -/
def logicalLines (scan : Scan) (held : List Char) : List (List Char) → List (Option (List Char))
  | [] => if scan = .plain then [] else [none]
  | line :: rest =>
    let all := held ++ line
    if isComment all then some [] :: logicalLines .plain [] rest
    else
      match scanLine scan [] line with
      | (before, none) => some (held ++ before.reverse) :: logicalLines .plain [] rest
      | (_, some .plain) => some (withoutEnd all) :: logicalLines .plain [] rest
      | (_, some scan) => logicalLines scan all rest

/-! ## Assignments -/

/-- The values of variables. -/
abbrev Lookup := String → Option String

/-- Where the reading of a value stands. -/
inductive Mode where
  | plain
  | single
  | double
  /-- Behind a backslash. -/
  | escape (quoted : Bool)
  /-- In the name of a variable, last character first. -/
  | reference (quoted : Bool) (name : List Char)
  /-- In the name of a variable between braces. -/
  | braced (quoted : Bool) (name : List Char)
  /-- Behind the value, where only a comment may follow. -/
  | behind

/-- The mode that a quoted or an unquoted part goes on in. -/
def Mode.resume (quoted : Bool) : Mode := if quoted then double else plain

/-- The value of a variable, last character first; empty if it is not set. -/
def expansion (lookup : Lookup) (name : List Char) : List Char :=
  ((lookup (String.ofList name.reverse)).getD "").toList.reverse

/-- The character that an escape stands for. -/
def escaped? (c : Char) : Option Char :=
  if c = 'n' then some '\n' else if "\\\x27\"$ ".toList.contains c then some c else none

/-- Reads one more character of a value; `out` holds the value so far, last character first. -/
def readChar (lookup : Lookup) (mode : Mode) (out : List Char) (c : Char) :
    Option (Mode × List Char) :=
  match mode with
  | .plain =>
    if c = '$' then some (.reference false [], out)
    else if c = '\x27' then some (.single, out)
    else if c = '"' then some (.double, out)
    else if c = '\\' then some (.escape false, out)
    else if c = ' ' || c = '\t' then some (.behind, out)
    else some (.plain, c :: out)
  | .single => if c = '\x27' then some (.plain, out) else some (.single, c :: out)
  | .double =>
    if c = '$' then some (.reference true [], out)
    else if c = '"' then some (.plain, out)
    else if c = '\\' then some (.escape true, out)
    else some (.double, c :: out)
  | .escape quoted => (escaped? c).map fun d => (.resume quoted, d :: out)
  | .reference quoted name =>
    if Text.isAlphanumeric c then some (.reference quoted (c :: name), out)
    else if c = '\x7b' && name.isEmpty then some (.braced quoted [], out)
    else
      let out := expansion lookup name ++ out
      if c = '$' then some (.reference quoted [], out) else some (.resume quoted, c :: out)
  | .braced quoted name =>
    if c = '\x7d' then some (.resume quoted, expansion lookup name ++ out)
    else some (.braced quoted (c :: name), out)
  | .behind => if c = ' ' || c = '\t' then some (.behind, out) else none

/-- Reads a value. -/
def readValue (lookup : Lookup) (mode : Mode) (out : List Char) : List Char → Option String
  | [] =>
    match mode with
    | .plain | .behind | .escape false => some (String.ofList out.reverse)
    | .reference false name => some (String.ofList (expansion lookup name ++ out).reverse)
    | _ => none
  | c :: rest =>
    match mode, c with
    | .behind, '#' => some (String.ofList out.reverse)
    | _, _ =>
      match readChar lookup mode out c with
      | none => none
      | some (mode, out) => readValue lookup mode out rest

/-- Whether a character may start the name of a variable. -/
def startsName (c : Char) : Bool := c.isAlpha || c = '_'

/-- Whether a character may stand in the name of a variable. -/
def isNameChar (c : Char) : Bool := c.isAlphanum || c = '_' || c = '.'

/-- The name at the front of a line, and what follows it. -/
def name? (line : List Char) : Option (String × List Char) :=
  if line.head?.any startsName then
    some (String.ofList (line.takeWhile isNameChar), line.dropWhile isNameChar)
  else none

/-- What follows blanks and an equals sign. -/
def afterEquals? (line : List Char) : Option (List Char) :=
  match line.dropWhile Text.isBlank with
  | '=' :: rest => some (rest.dropWhile Text.isBlank)
  | _ => none

/-- The name that a line assigns to, and what is assigned. The word `export` may come first. -/
def assignment? (line : List Char) : Option (String × List Char) := do
  let (name, rest) ← name? line
  match name, afterEquals? rest with
  | "export", none =>
    let (name, rest) ← name? (rest.dropWhile Text.isBlank)
    return (name, ← afterEquals? rest)
  | _, value => return (name, ← value)

/-- What a logical line does. -/
inductive Line where
  | nothing
  | assigns (name value : String)
  | fault
  deriving DecidableEq, Repr

/-- Reads a logical line, given the variables that are set. -/
def readLine (lookup : Lookup) (line : List Char) : Line :=
  let line := Text.trimChars line
  if line.isEmpty || line.head? = some '#' then .nothing
  else
    match assignment? line with
    | none => .fault
    | some (name, value) =>
      if value.head? = some '#' then .assigns name ""
      else
        match readValue lookup .plain [] value with
        | none => .fault
        | some value => .assigns name value

/-! ## Files -/

/-- Variables with their values, in the order in which they were set. -/
abbrev Variables := List (String × String)

/-- The value of a variable, if it is set. A reference also reaches a value that was assigned
to a variable without effect; `assigned` holds those, latest first. -/
def referred (known assigned : Variables) : Lookup := fun name =>
  (known.lookup name).or (assigned.lookup name)

/-- Sets a variable unless it is set. -/
def setMissing (known : Variables) (name value : String) : Variables :=
  if (known.lookup name).isSome then known else known ++ [(name, value)]

/-- An assignment of a value to a variable. -/
structure Assignment where
  name : String
  value : String
  deriving DecidableEq, Repr

/-- A text as the system shows it: quoted, with a backslash before apostrophes too. -/
def shownBySystem (text : String) : String :=
  "\"" ++ String.join (text.toList.map fun c => if c = '\x27' then "\\\x27" else Text.quotedChar c) ++
    "\""

/-- What is said when the assignment ends the process. -/
def Assignment.message (assignment : Assignment) : String :=
  "failed to set environment variable `" ++ shownBySystem assignment.name ++ "` to `" ++
    shownBySystem assignment.value ++ "`: file name contained an unexpected NUL byte"

/-- Whether a variable can be set to the value. -/
def isStorable (value : String) : Bool := !value.toList.contains '\x00'

/-- How the reading of a file of variables ends: with these variables, and at an assignment that
ends the process if there is one. -/
structure Reading where
  known : Variables
  fatal : Option Assignment := none

/-- Sets the variables that logical lines assign to, up to the first fault or to the first value
that no variable can be set to. -/
def loadLines (known assigned : Variables) : List (Option (List Char)) → Reading
  | [] => { known }
  | none :: _ => { known }
  | some line :: rest =>
    match readLine (referred known assigned) line with
    | .fault => { known }
    | .nothing => loadLines known assigned rest
    | .assigns name value =>
      if (known.lookup name).isNone && !isStorable value then { known, fatal := some ⟨name, value⟩ }
      else loadLines (setMissing known name value) ((name, value) :: assigned) rest

/-- The characters of a file up to the first line that is no text, without a byte order mark. -/
def readable (content : Bytes) : List Char :=
  let whole := content.take (Bytes.wellFormedLength content)
  let lines := if whole.length = content.length then whole
    else (whole.reverse.dropWhile (· ≠ 0x0A)).reverse
  match ((Bytes.toText? lines).getD "").toList with
  | '\uFEFF' :: rest => rest
  | chars => chars

/-- Sets the variables that a file assigns to and that are not set. -/
def load (known : Variables) (content : Bytes) : Reading :=
  loadLines known [] (logicalLines .plain [] (physicalLines (readable content)))

end ChatGateway.EnvironmentFile
