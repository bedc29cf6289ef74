import ChatGateway.Text.Bytes
import ChatGateway.Text.Natural

/-!
# Why a document is refused

A `Fault` names the reason and the place at which reading stopped, and on the way out of
nested values it gathers the steps that lead to the refused part. The place is kept as the
number of octets that follow it; line and column are computed once, from the whole document.
-/

namespace ChatGateway.Json

/-- What is wrong with a document. -/
inductive Reason where
  | valueCutOff
  | listCutOff
  | objectCutOff
  | textCutOff
  | colonExpected
  | listContinuationExpected
  | objectContinuationExpected
  | wordExpected
  | valueExpected
  | invalidEscape
  | invalidNumber
  | numberOutOfRange
  | illFormedText
  | controlCharacter
  | memberNameExpected
  | loneSurrogate
  | trailingComma
  | trailingCharacters
  | unpairedEscape
  | nestedTooDeep
  | wrongKind (found expected : String)
  | wrongValue (found expected : String)
  | wrongLength (length : Nat) (expected : String)
  | missing (member : String)
  | duplicate (member : String)
  deriving DecidableEq, Repr

/-- Whether a document ends early, breaks the grammar, or holds the wrong data. -/
inductive Category where
  | cutOff
  | malformed
  | mistyped
  deriving DecidableEq, Repr

/-- The kind of a reason. -/
def Reason.category : Reason → Category
  | valueCutOff | listCutOff | objectCutOff | textCutOff => .cutOff
  | wrongKind .. | wrongValue .. | wrongLength .. | missing _ | duplicate _ => .mistyped
  | _ => .malformed

/-- The reason in words. -/
def Reason.message : Reason → String
  | valueCutOff => "EOF while parsing a value"
  | listCutOff => "EOF while parsing a list"
  | objectCutOff => "EOF while parsing an object"
  | textCutOff => "EOF while parsing a string"
  | colonExpected => "expected \x60:\x60"
  | listContinuationExpected => "expected \x60,\x60 or \x60]\x60"
  | objectContinuationExpected => "expected \x60,\x60 or \x60\x7d\x60"
  | wordExpected => "expected ident"
  | valueExpected => "expected value"
  | invalidEscape => "invalid escape"
  | invalidNumber => "invalid number"
  | numberOutOfRange => "number out of range"
  | illFormedText => "invalid unicode code point"
  | controlCharacter => "control character (\\u0000-\\u001F) found while parsing a string"
  | memberNameExpected => "key must be a string"
  | loneSurrogate => "lone leading surrogate in hex escape"
  | trailingComma => "trailing comma"
  | trailingCharacters => "trailing characters"
  | unpairedEscape => "unexpected end of hex escape"
  | nestedTooDeep => "recursion limit exceeded"
  | wrongKind found expected => "invalid type: " ++ found ++ ", expected " ++ expected
  | wrongValue found expected => "invalid value: " ++ found ++ ", expected " ++ expected
  | wrongLength length expected =>
    "invalid length " ++ Text.decimal length ++ ", expected " ++ expected
  | missing member => "missing field \x60" ++ member ++ "\x60"
  | duplicate member => "duplicate field \x60" ++ member ++ "\x60"

/-- A step from a value into one of its parts. -/
inductive Step where
  | member (name : String)
  | element (index : Nat)
  /-- Into a member whose name could not be read. -/
  | unnamed
  deriving DecidableEq, Repr

/-- A refusal: the reason, the number of octets after the place, and the way to it. -/
structure Fault where
  reason : Reason
  remaining : Nat
  path : List Step := []
  deriving DecidableEq, Repr

namespace Fault

/-- A fault just before the rest of the document. -/
def before (rest : Bytes) (reason : Reason) : Fault := ⟨reason, rest.length, []⟩

/-- A fault that includes the first octet of the rest, if there is one. -/
def upon (rest : Bytes) (reason : Reason) : Fault := ⟨reason, rest.length - 1, []⟩

/-- The fault seen from the value around the part that was refused. -/
def inside (fault : Fault) (step : Step) : Fault := { fault with path := step :: fault.path }

/-- The octets of the document up to the place. -/
def consumed (fault : Fault) (document : Bytes) : Bytes :=
  document.take (document.length - fault.remaining)

/-- The line of the place, counted from one. -/
def line (fault : Fault) (document : Bytes) : Nat :=
  1 + (fault.consumed document).count 0x0A

/-- How many octets of its line precede the place. -/
def column (fault : Fault) (document : Bytes) : Nat :=
  ((fault.consumed document).reverse.takeWhile (· != 0x0A)).length

/-- The reason with its line and column. -/
def message (fault : Fault) (document : Bytes) : String :=
  fault.reason.message ++ " at line " ++ Text.decimal (fault.line document) ++
    " column " ++ Text.decimal (fault.column document)

/-- The way to the refused part: names after dots and indices in brackets. -/
def pathText : List Step → String
  | [] => ""
  | step :: rest =>
    let shown := match step with
      | .member name => name
      | .element index => "[" ++ Text.decimal index ++ "]"
      | .unnamed => "?"
    let separator := match rest with
      | [] | .element _ :: _ => ""
      | _ => "."
    shown ++ separator ++ pathText rest

/-- The message behind the way to the refused part, unless no step of the way is known. -/
def locatedMessage (fault : Fault) (document : Bytes) : String :=
  if fault.path.all (· = .unnamed) then fault.message document
  else pathText fault.path ++ ": " ++ fault.message document

end Fault

end ChatGateway.Json
