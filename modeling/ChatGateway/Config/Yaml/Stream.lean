import ChatGateway.Config.Yaml.Node

/-!
# Configuration in YAML

A text holds any number of values between marks; a configuration is one of them, or none.
-/

namespace ChatGateway.Config.Yaml

open ChatGateway.Text (Cursor)

/-- What follows the lines that speak about a value before it starts. -/
def skipDirectives : (fuel : Nat) → Cursor → Cursor
  | 0, cursor => cursor
  | fuel + 1, cursor =>
    let next := nextToken cursor
    if next.column = 0 && next.rest.head? = some '%' then
      skipDirectives fuel (next.skipRun (· ≠ '\n'))
    else next

/-- What follows the marks at which values end. -/
def skipEnds : (fuel : Nat) → Cursor → Cursor
  | 0, cursor => cursor
  | fuel + 1, cursor =>
    let next := nextToken cursor
    if atMarker next && next.rest.head? = some '.' then skipEnds fuel (next.skip 3) else next

/-- Reads all values behind those that were read. -/
def nodes : (fuel : Nat) → (before : List Node) → Cursor → Except Refusal (List Node)
  | 0, before, _ => .ok before
  | fuel + 1, before, cursor =>
    let here := skipDirectives fuel (skipEnds fuel cursor)
    if here.rest.isEmpty then .ok before
    else
      let isMarked := atMarker here && here.rest.head? = some '-'
      let start := if isMarked then nextToken (here.skip 3) else here
      if !isMarked && !before.isEmpty then
        refuse here "did not find expected <document start>"
      else if atEnd start then nodes fuel (before ++ [.absent]) start
      else
        match blockNode (start.rest.length + start.rest.length + 2) (-1) {} ⟨start, []⟩ with
        | .error refusal => .error refusal
        | .ok (node, after) => nodes fuel (before ++ [node]) after.cursor

/-- The refusal with its place. -/
def Refusal.text (refusal : Refusal) : String :=
  refusal.message ++ " at line " ++ Text.decimal refusal.place.line ++ " column " ++
    Text.decimal (refusal.place.column + 1)

/-- A text whose lines all end in the same way. -/
def withLineEnds : List Char → List Char
  | '\r' :: '\n' :: rest => '\n' :: withLineEnds rest
  | c :: rest => (if c = '\r' then '\n' else c) :: withLineEnds rest
  | [] => []

/-- The document of the values in a text. -/
def documentOf : List Node → Except String Document
  | [] => .ok (.table [])
  | [node] => node.document
  | nodes => .error ("Got " ++ Text.decimal nodes.length ++ " YAML documents, expected 1")

/-- The format. -/
def format : Format where
  extensions := ["yaml", "yml"]
  read text :=
    let chars := withLineEnds text.toList
    match nodes (chars.length + 1) [] { rest := chars } with
    | .error refusal => .error refusal.text
    | .ok nodes => documentOf nodes

end ChatGateway.Config.Yaml
