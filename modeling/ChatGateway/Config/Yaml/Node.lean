import ChatGateway.Config.Yaml.Scalar

/-!
# YAML values

A value is a scalar, a list or a table. Lists and tables are written in brackets, or by
indentation: the elements of a list behind hyphens in one column, the members of a table in
one column. A value may get a name, under which it is found again, and a tag.
-/

namespace ChatGateway.Config.Yaml

open ChatGateway.Text (Cursor)

/-- A place, and the values that have names. -/
structure State where
  cursor : Cursor
  named : List (String × Node) := []

/-- The state at another place. -/
def State.at (state : State) (cursor : Cursor) : State := { state with cursor }

/-- What is read, and the state behind it. -/
abbrev Result (α : Type) := Except Refusal (α × State)

/-- What follows blanks, comments and line ends; `fuel` bounds the number of comments. -/
def skipComments : (fuel : Nat) → Cursor → Cursor
  | 0, cursor => cursor
  | fuel + 1, cursor =>
    let next := cursor.skipRun isSpace
    if next.rest.head? = some '#' then skipComments fuel (next.skipRun (· ≠ '\n')) else next

/-- The place of the next mark or scalar. -/
def nextToken (cursor : Cursor) : Cursor := skipComments (cursor.rest.length + 1) cursor

/-- Whether nothing follows in the document. -/
def atEnd (cursor : Cursor) : Bool := cursor.rest.isEmpty || atMarker cursor

/-- The place at which the end of the text is noticed. -/
def endPlace (cursor : Cursor) : Cursor :=
  if cursor.rest.isEmpty && cursor.column ≠ 0 then { cursor with line := cursor.line + 1, column := 0 }
  else cursor

/-- Whether a mark stands at the cursor with a blank behind it. -/
def atMark (mark : Char) (cursor : Cursor) : Bool :=
  cursor.rest.head? = some mark && startsWithSpace (cursor.rest.drop 1)

/-- The name of a member whose key is a scalar: whole numbers are written in decimal. -/
def keyName (key : Node) (text : String) : String :=
  match key.setting with
  | .whole n => Text.signedDecimal n
  | _ => text

/-! ## Scalars -/

/-- The characters of a name or a tag. -/
def isNameChar (c : Char) : Bool := c.isAlphanum || c = '_' || c = '-'

/-- Reads a scalar that is no block: the value, its text, and what follows. -/
def scalar (inFlow : Bool) (indent : Int) (cursor : Cursor) :
    Except Refusal (Node × String × Cursor) :=
  let fuel := cursor.rest.length + 1
  match cursor.rest with
  | [] => .ok (.absent, "", cursor)
  | c :: _ =>
    if c = '"' || c = '\x27' then
      match quoted c cursor fuel [] (cursor.skip 1) with
      | .error refusal => .error refusal
      | .ok (text, after) => .ok (.text text, text, after)
    else if c = '%' || c = '@' || c = '\x60' then
      refuse cursor ("unexpected character: \x60" ++ String.singleton c ++ "\x27")
    else
      let (text, after) := plain inFlow indent fuel [] cursor cursor
      .ok (plainNode text, text, after)

/-- Whether a scalar that started at a place is a key: a colon follows it on the same line. -/
def isKey (start after : Cursor) : Bool :=
  start.line = after.line && atMark ':' (after.skipRun isGap)

/-- Whether a colon follows a scalar. -/
def beforeColon (after : Cursor) : Bool := atMark ':' (nextToken after)

/-- A scalar under a tag. -/
def underTag (tag : Option String) (isPlain : Bool) (node : Node) (text : String) : Node :=
  match tag with
  | none => node
  | some tag => if isPlain then taggedNode tag text else node

/-! ## Values in brackets -/

/-- What is said of a list in brackets that does not go on. -/
def unfinishedList : String := "while parsing a flow sequence, expected ',' or ']'"

/-- What is said of a table in brackets that does not go on. -/
def unfinishedTable : String :=
  "while parsing a flow mapping, did not find expected ',' or '\x7d'"

/-- Finds a value by its name, behind a star. -/
def named? (state : State) : Result (Node × String) :=
  let start := state.cursor.skip 1
  let name := String.ofList (start.run isNameChar)
  match state.named.lookup name with
  | some node => .ok ((node, ""), state.at (start.skipRun isNameChar))
  | none => refuse state.cursor "while parsing node, found unknown anchor"

mutual

/-- Reads a value in brackets or a scalar in it. -/
def flowNode (fuel : Nat) (state : State) : Result (Node × String) :=
  match fuel with
  | 0 => refuse state.cursor unfinishedList
  | fuel + 1 =>
    match state.cursor.rest.head? with
    | some '[' => flowList fuel [] (state.at (state.cursor.skip 1))
    | some '\x7b' => flowTable fuel .emptyTable (state.at (state.cursor.skip 1))
    | some '*' => named? state
    | _ =>
      match scalar true 0 state.cursor with
      | .error refusal => .error refusal
      | .ok (node, text, after) => .ok ((node, text), state.at after)

/-- Reads the elements of a list behind those that were read. -/
def flowList (fuel : Nat) (elements : List Node) (state : State) : Result (Node × String) :=
  match fuel with
  | 0 => refuse state.cursor unfinishedList
  | fuel + 1 =>
    let here := nextToken state.cursor
    match here.rest.head? with
    | some ']' => .ok ((.list elements, ""), state.at (here.skip 1))
    | none => refuse (endPlace here) unfinishedList
    | _ =>
      match flowNode fuel (state.at here) with
      | .error refusal => .error refusal
      | .ok ((node, _), after) =>
        match flowValue fuel after with
        | .error refusal => .error refusal
        | .ok (value, after) =>
          let element := match value with
            | none => node
            | some value => Node.emptyTable.withMember "" value
          let next := nextToken after.cursor
          if next.rest.head? = some ',' then
            flowList fuel (elements ++ [element]) (after.at (next.skip 1))
          else if next.rest.head? = some ']' then
            .ok ((.list (elements ++ [element]), ""), after.at (next.skip 1))
          else refuse (endPlace next) unfinishedList

/-- Reads the members of a table behind those that were read. -/
def flowTable (fuel : Nat) (table : Node) (state : State) : Result (Node × String) :=
  match fuel with
  | 0 => refuse state.cursor unfinishedTable
  | fuel + 1 =>
    let here := nextToken state.cursor
    match here.rest.head? with
    | some '\x7d' => .ok ((table, ""), state.at (here.skip 1))
    | none => refuse (endPlace here) unfinishedTable
    | _ =>
      match flowNode fuel (state.at here) with
      | .error refusal => .error refusal
      | .ok ((key, text), after) =>
        match flowValue fuel after with
        | .error refusal => .error refusal
        | .ok (value, after) =>
          let table := table.withMember (keyName key text) (value.getD .absent)
          let next := nextToken after.cursor
          if next.rest.head? = some ',' then flowTable fuel table (after.at (next.skip 1))
          else if next.rest.head? = some '\x7d' then .ok ((table, ""), after.at (next.skip 1))
          else refuse (endPlace next) unfinishedTable

/-- Reads a value behind its colon, if there is one. -/
def flowValue (fuel : Nat) (state : State) : Result (Option Node) :=
  match fuel with
  | 0 => .ok (none, state)
  | fuel + 1 =>
    let here := nextToken state.cursor
    if here.rest.head? ≠ some ':' then .ok (none, state)
    else
      let next := nextToken (here.skip 1)
      if next.rest.head?.any fun c => c = ',' || c = ']' || c = '\x7d' then
        .ok (some .absent, state.at next)
      else
        match flowNode fuel (state.at next) with
        | .error refusal => .error refusal
        | .ok ((node, _), after) => .ok (some node, after)

end

/-! ## Values by indentation -/

/-- What is said of a line that is no member of the table around it. -/
def noKey : String := "while parsing a block mapping, did not find expected key"

/-- What is said of a line that is no element of the list around it. -/
def noHyphen : String := "while parsing a block collection, did not find expected '-' indicator"

/-- What is said of a colon that stands where no table can start. -/
def noTableHere : String := "mapping values are not allowed in this context"

/-- Reads the name behind an ampersand or the tag behind an exclamation mark. -/
def property (cursor : Cursor) : String × Cursor :=
  let start := cursor.skip 1
  (String.ofList (start.run (!isSpace ·)), start.skipRun (!isSpace ·))

/-- What a value is read under: its tag, and whether it starts on the line of its key. -/
structure Around where
  tag : Option String := none
  isInline : Bool := false

mutual

/-- Reads the value at a mark or a scalar that lies right of a column. -/
def blockNode (fuel : Nat) (parent : Int) (around : Around) (state : State) : Result Node :=
  match fuel with
  | 0 => refuse state.cursor noKey
  | fuel + 1 =>
    let here := state.cursor
    if atMark '-' here then
      if around.isInline then
        refuse here "block sequence entries are not allowed in this context"
      else blockList fuel here.column [] state
    else
      match here.rest.head? with
      | some '&' =>
        let (name, after) := property here
        match blockValue fuel parent around here.line (state.at after) with
        | .error refusal => .error refusal
        | .ok (node, next) => .ok (node, { next with named := (name, node) :: next.named })
      | some '!' =>
        let (tag, after) := property here
        let standard := if tag.startsWith "!" then (tag.drop 1).toString else ""
        blockValue fuel parent { around with tag := some standard } here.line (state.at after)
      | some '|' => blockText true parent state
      | some '>' => blockText false parent state
      | _ => blockScalar fuel parent around state

/-- Reads a scalar or a value in brackets, or the table of which it is the first key. -/
def blockScalar (fuel : Nat) (parent : Int) (around : Around) (state : State) : Result Node :=
  match fuel with
  | 0 => refuse state.cursor noKey
  | fuel + 1 =>
    let here := state.cursor
    let opened := here.rest.head? = some '[' || here.rest.head? = some '\x7b'
    let isPlain := !(here.rest.head? = some '"' || here.rest.head? = some '\x27')
    let read : Result (Node × String) :=
      if opened || here.rest.head? = some '*' then flowNode (here.rest.length + 1) state
      else
        match scalar false parent here with
        | .error refusal => .error refusal
        | .ok (node, text, after) => .ok ((node, text), state.at after)
    match read with
    | .error refusal => .error refusal
    | .ok ((node, text), after) =>
      if isKey here after.cursor && !around.isInline then
        blockTable fuel here.column .emptyTable state
      else if beforeColon after.cursor && (isKey here after.cursor || !opened) &&
          (nextToken after.cursor).line = after.cursor.line then
        refuse (nextToken after.cursor) noTableHere
      else
        .ok (if opened then node else underTag around.tag isPlain node text, after)

/-- Reads a text in a block. -/
def blockText (isLiteral : Bool) (parent : Int) (state : State) : Result Node :=
  match block isLiteral parent state.cursor (state.cursor.skip 1) with
  | .error refusal => .error refusal
  | .ok (text, after) => .ok (.text text, state.at after)

/-- Reads the value that follows a mark, which stands on a line: there, or further right on a
later line. -/
def blockValue (fuel : Nat) (parent : Int) (around : Around) (line : Nat) (state : State) :
    Result Node :=
  match fuel with
  | 0 => refuse state.cursor noKey
  | fuel + 1 =>
    let next := nextToken state.cursor
    if atEnd next then .ok (.absent, state.at next)
    else if next.line = line then blockNode fuel parent around (state.at next)
    else if parent < next.column then
      blockNode fuel parent { around with isInline := false } (state.at next)
    else .ok (.absent, state.at next)

/-- Reads the elements of a list whose hyphens stand in a column, behind those that were read. -/
def blockList (fuel column : Nat) (elements : List Node) (state : State) : Result Node :=
  match fuel with
  | 0 => refuse state.cursor noHyphen
  | fuel + 1 =>
    match blockValue fuel column {} state.cursor.line (state.at (state.cursor.skip 1)) with
    | .error refusal => .error refusal
    | .ok (node, after) =>
      let elements := elements ++ [node]
      let next := nextToken after.cursor
      if atEnd next || next.column < column then .ok (.list elements, after.at next)
      else if next.column = column && atMark '-' next then
        blockList fuel column elements (after.at next)
      else if next.column = column then .ok (.list elements, after.at next)
      else refuse next noHyphen

/-- Reads the members of a table whose keys stand in a column, behind those that were read. -/
def blockTable (fuel column : Nat) (table : Node) (state : State) : Result Node :=
  match fuel with
  | 0 => refuse state.cursor noKey
  | fuel + 1 =>
    let here := state.cursor
    if atMark '-' here then refuse here noKey
    else
      match scalar false column here with
      | .error refusal => .error refusal
      | .ok (key, text, after) =>
        if !isKey here after then
          let next := nextToken after
          if here.line < next.line then refuse next "simple key expect ':'"
          else refuse (endPlace next) "simple key expected"
        else
          let colon := after.skipRun isGap
          match memberValue fuel column colon.line (state.at (colon.skip 1)) with
          | .error refusal => .error refusal
          | .ok (value, after) =>
            let table := table.withMember (keyName key text) value
            let next := nextToken after.cursor
            if atEnd next || next.column < column then .ok (table, after.at next)
            else if next.column = column then blockTable fuel column table (after.at next)
            else refuse next noKey

/-- Reads the value of a member; the hyphens of a list may stand in the column of the keys. -/
def memberValue (fuel column line : Nat) (state : State) : Result Node :=
  match fuel with
  | 0 => refuse state.cursor noKey
  | fuel + 1 =>
    let next := nextToken state.cursor
    if !atEnd next && next.line ≠ line && next.column = column && atMark '-' next then
      blockList fuel column [] (state.at next)
    else blockValue fuel column { isInline := true } line state

end

end ChatGateway.Config.Yaml
