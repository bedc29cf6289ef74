import ChatGateway.Config.Toml.Number

/-!
# Configuration in TOML

A line of such a file assigns a value to a key, or opens a table for the lines that follow.
Only the members of the root are kept; what tables and lists hold is read and dropped.

A refusal shows the line with a mark under the place, and below it what was expected there.
-/

namespace ChatGateway.Config.Toml

/-! ## Values -/

/-- Reads a word that stands for a value. -/
def word (text refusal : String) (setting : Setting) : Parse Setting := fun s =>
  if text.toList.isPrefixOf s then .ok (setting, s.drop text.length) else refuse s refusal

/-- What is said where no value starts. -/
def noValue : String := "invalid string\nexpected \x60\"\x60, \x60\x27\x60"

mutual

/-- Reads a value. -/
def value : (fuel : Nat) → Parse Setting
  | 0, s => refuse s noValue
  | fuel + 1, s =>
    match quoted? s with
    | some result => result.map fun (text, rest) => (.text text, rest)
    | none =>
      match s with
      | [] => refuse s ""
      | '[' :: rest => elements fuel rest
      | '\x7b' :: rest =>
        match skipGap rest with
        | '\x7d' :: rest => .ok (.table, rest)
        | rest => pairs fuel rest
      | c :: _ =>
        if c.isDigit || c = '+' || c = '-' then number s
        else if c = 't' then word "true" "invalid boolean\nexpected \x60true\x60, \x60false\x60" (.truth true) s
        else if c = 'f' then word "false" "invalid boolean\nexpected \x60true\x60, \x60false\x60" (.truth false) s
        else if c = 'i' then word "inf" "invalid floating-point number\nexpected \x60inf\x60" (.real (1.0 / 0.0)) s
        else if c = 'n' then word "nan" "invalid floating-point number\nexpected \x60nan\x60" (.real (0.0 / 0.0)) s
        else if c = '_' then refuse s "invalid integer\nexpected leading digit"
        else if c = '.' then refuse s "invalid floating-point number\nexpected leading digit"
        else refuse s noValue

/-- Reads the elements of a list behind its opening bracket or a comma. -/
def elements : (fuel : Nat) → Parse Setting
  | 0, s => refuse s "invalid array\nexpected \x60]\x60"
  | fuel + 1, s =>
    match skipBlank s with
    | ']' :: rest => .ok (.list, rest)
    | [] => refuse [] "invalid array\nexpected \x60]\x60"
    | start =>
      match value fuel start with
      | .error refusal => .error refusal
      | .ok (_, rest) =>
        match skipBlank rest with
        | ',' :: more => elements fuel more
        | ']' :: more => .ok (.list, more)
        | other => refuse other "invalid array\nexpected \x60]\x60"

/-- Reads the members of a table in braces, of which there is one more. -/
def pairs : (fuel : Nat) → Parse Setting
  | 0, s => refuse s "invalid inline table\nexpected \x60\x7d\x60"
  | fuel + 1, s =>
    match key s with
    | .error refusal => .error refusal
    | .ok (_, '=' :: rest) =>
      match value fuel (skipGap rest) with
      | .error refusal => .error refusal
      | .ok (_, rest) =>
        match skipGap rest with
        | ',' :: more => pairs fuel more
        | '\x7d' :: more => .ok (.table, more)
        | other => refuse other "invalid inline table\nexpected \x60\x7d\x60"
    | .ok (_, other) => refuse other "expected \x60.\x60, \x60=\x60"

end

/-! ## Lines -/

/-- What has been read: the members of the root, which of them were only opened as tables, the
heads of tables, and whether the lines are those of the root. -/
structure State where
  members : List (String × Setting) := []
  opened : List String := []
  heads : List (List String) := []
  atRoot : Bool := true

/-- What is said of a member that has a value already. -/
def duplicate (name : String) : String := "duplicate key \x60" ++ name ++ "\x60 in document root"

/-- Gives a key a value. -/
def State.put (state : State) (path : List String) (setting : Setting) : Except String State :=
  match state.atRoot, path with
  | true, [name] =>
    if (state.members.lookup name).isSome then .error (duplicate name)
    else .ok { state with members := putMember state.members name setting }
  | true, name :: _ =>
    if (state.members.lookup name).isSome && !state.opened.contains name then .error (duplicate name)
    else
      .ok { state with
        members := putMember state.members name .table
        opened := name :: state.opened }
  | _, _ => .ok state

/-- What is said of a table that is opened again. -/
def opensAgain (path : List String) : String :=
  let around := match path.dropLast with
    | [] => "document root"
    | names => "table \x60" ++ ".".intercalate names ++ "\x60"
  "duplicate key \x60" ++ path.getLast?.getD "" ++ "\x60 in " ++ around

/-- Opens a table. -/
def State.open (state : State) (path : List String) (setting : Setting) : Except String State :=
  match path with
  | [] => .ok state
  | name :: deeper =>
    if (state.members.lookup name).isSome && !state.opened.contains name then .error (duplicate name)
    else
      .ok {
        members := putMember state.members name (if deeper.isEmpty then setting else .table)
        opened := name :: state.opened
        heads := state.heads
        atRoot := false }

/-- Opens a table under a head, which must be new. -/
def State.openOnce (state : State) (path : List String) : Except String State :=
  if state.heads.contains path then .error (opensAgain path)
  else { state with heads := path :: state.heads }.open path .table

/-- Reads the head of a table behind its opening brackets. -/
def head (closing : List Char) (s : List Char) : Except Refusal (List String × List Char) :=
  match key s with
  | .error refusal => .error refusal
  | .ok (path, rest) =>
    if closing.isPrefixOf rest then .ok (path, rest.drop closing.length)
    else refuse rest "invalid table header\nexpected \x60.\x60, \x60]\x60"

/-- Reads an assignment. -/
def assignment (s : List Char) : Except Refusal ((List String × Setting) × List Char) :=
  match key s with
  | .error refusal => .error refusal
  | .ok (path, '=' :: rest) =>
    match value (rest.length + 1) (skipGap rest) with
    | .error refusal => .error refusal
    | .ok (setting, rest) => .ok ((path, setting), rest)
  | .ok (_, other) => refuse other "expected \x60.\x60, \x60=\x60"

/-- Takes a change of the state that was read from the place on, and ends the line. -/
def taken (place : List Char) (change : Except String State) (rest : List Char) :
    Except Refusal (State × List Char) :=
  match endLine rest with
  | .error refusal => .error refusal
  | .ok rest =>
    match change with
    | .error message => refuse place message
    | .ok state => .ok (state, rest)

/-- Reads one line that is not blank. -/
def line (state : State) (s : List Char) : Except Refusal (State × List Char) :=
  match s with
  | '[' :: '[' :: rest =>
    match head [']', ']'] rest with
    | .error refusal => .error refusal
    | .ok (path, rest) => taken s (state.open path .list) rest
  | '[' :: rest =>
    match head [']'] rest with
    | .error refusal => .error refusal
    | .ok (path, rest) => taken s (state.openOnce path) rest
  | _ =>
    match assignment s with
    | .error refusal => .error refusal
    | .ok ((path, setting), rest) => taken s (state.put path setting) rest

/-- Reads all lines. -/
def document : (fuel : Nat) → State → List Char → Except Refusal State
  | 0, state, _ => .ok state
  | fuel + 1, state, s =>
    match skipBlank s with
    | [] => .ok state
    | start =>
      match line state start with
      | .error refusal => .error refusal
      | .ok (state, rest) => document fuel state rest

/-! ## Refusals in words -/

/-- The refusal with its line, marked at the place. -/
def Refusal.text (refusal : Refusal) (all : List Char) : String :=
  let before := all.take (all.length - refusal.remaining)
  let number := Text.decimal (1 + before.count '\n')
  let column := (before.reverse.takeWhile (· ≠ '\n')).length
  let start := before.length - column
  let shown := String.ofList ((all.drop start).takeWhile (· ≠ '\n'))
  let gutter := String.ofList (List.replicate (number.length + 1) ' ')
  "TOML parse error at line " ++ number ++ ", column " ++ Text.decimal (column + 1) ++ "\n" ++
    gutter ++ "|\n" ++ number ++ " | " ++ shown ++ "\n" ++ gutter ++ "|" ++
    String.ofList (List.replicate (column + 1) ' ') ++ "^\n" ++ refusal.message ++ "\n"

/-- The format. -/
def format : Format where
  extensions := ["toml"]
  read text :=
    let all := text.toList
    match document (all.length + 1) {} all with
    | .error refusal => .error (refusal.text all)
    | .ok state => .ok (.table state.members)

end ChatGateway.Config.Toml
