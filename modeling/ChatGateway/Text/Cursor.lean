/-!
# Cursors

A cursor is a place in a text: what follows it, and its line and column. Lines are counted
from one and columns from zero.
-/

namespace ChatGateway.Text

/-- A place in a text. -/
structure Cursor where
  rest : List Char
  line : Nat := 1
  column : Nat := 0
  deriving DecidableEq, Repr

namespace Cursor

/-- The start of a text. -/
def ofText (text : String) : Cursor := { rest := text.toList }

/-- The place behind a number of characters. -/
def skip : Nat → Cursor → Cursor
  | 0, cursor => cursor
  | n + 1, ⟨'\n' :: rest, line, _⟩ => skip n ⟨rest, line + 1, 0⟩
  | n + 1, ⟨_ :: rest, line, column⟩ => skip n ⟨rest, line, column + 1⟩
  | _ + 1, cursor => cursor

/-- The characters of a kind at the cursor. -/
def run (p : Char → Bool) (cursor : Cursor) : List Char := cursor.rest.takeWhile p

/-- The place behind the characters of a kind. -/
def skipRun (p : Char → Bool) (cursor : Cursor) : Cursor := cursor.skip (cursor.run p).length

/-- Whether the text goes on with certain characters. -/
def startsWith (cursor : Cursor) (chars : List Char) : Bool := chars.isPrefixOf cursor.rest

end Cursor

end ChatGateway.Text
