import ChatGateway.Config.Setting

/-!
# Documents of settings

What a configuration file holds: a table of settings, or a single value, which is no
configuration. A format turns a text into a document or says in words why it cannot.
-/

namespace ChatGateway.Config

/-- The content of a configuration file. -/
inductive Document where
  | table (members : List (String × Setting))
  | other (root : Setting)

/-- A format: the extensions of its files, and how it is read. -/
structure Format where
  extensions : List String
  read : String → Except String Document

/-- The values that a document gives, which comes from the file at a path. -/
def Document.values (document : Document) (path : String) :
    Except Fault (List (String × Sourced)) :=
  match document with
  | .table members => .ok (members.map fun (name, setting) => (name, ⟨setting, some path⟩))
  | .other root =>
    .error (.unreadable (Fault.mistyped root.shown "a map" none (some path)).text path)

/-- Reads the values that the file at a path gives. -/
def Format.values (format : Format) (path text : String) :
    Except Fault (List (String × Sourced)) :=
  match format.read text with
  | .error cause => .error (.unreadable cause path)
  | .ok document => document.values path

/-- Gives a member its value, and drops the one that it had. -/
def putMember (members : List (String × Setting)) (name : String) (setting : Setting) :
    List (String × Setting) :=
  members.filter (·.1 ≠ name) ++ [(name, setting)]

/-- A value as it is read: what it is, the members if it is a table, and what is said of the
first number inside that cannot be used. -/
structure Node where
  setting : Setting
  members : List (String × Setting) := []
  unreadable : Option String := none

namespace Node

/-- A value that holds no others. -/
def leaf (setting : Setting) : Node := { setting }

/-- A text. -/
def text (text : String) : Node := leaf (.text text)

/-- The value where none is written. -/
def absent : Node := leaf .nothing

/-- A number that cannot be used, and what is said of it. -/
def unusable (message : String) : Node := { setting := .nothing, unreadable := some message }

/-- The value of a list. -/
def list (elements : List Node) : Node :=
  { setting := .list, unreadable := elements.findSome? (·.unreadable) }

/-- A table without members. -/
def emptyTable : Node := leaf .table

/-- Adds a member to a table. -/
def withMember (node : Node) (name : String) (value : Node) : Node :=
  { node with
    members := putMember node.members name value.setting
    unreadable := node.unreadable.or value.unreadable }

/-- The document of a value. -/
def document (node : Node) : Except String Document :=
  match node.unreadable, node.setting with
  | some cause, _ => .error cause
  | none, .table => .ok (.table node.members)
  | none, setting => .ok (.other setting)

end Node

end ChatGateway.Config
