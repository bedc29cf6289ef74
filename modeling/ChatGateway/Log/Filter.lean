import ChatGateway.Log
import ChatGateway.Text.Alphanumeric
import ChatGateway.Text.Blank
import ChatGateway.Text.Natural

/-!
# Which events are logged

A filter is a list of directives between commas. A directive names a target and the most
verbose level at which that target and all whose names it starts are logged; it may also ask
for a span or for fields. A level alone is about every target.

Of the directives that are about an event, the one with the longest target decides. No event
is logged by a directive that asks for a span, because no span is named when a filter is
written. Without directives, errors alone are logged.
-/

namespace ChatGateway

/-- How verbose a level is. -/
def LogLevel.verbosity : LogLevel → Nat
  | error => 1
  | warn => 2
  | info => 3
  | debug => 4
  | trace => 5

namespace LogFilter

/-- The greatest verbosity. -/
def wordiest : Nat := LogLevel.trace.verbosity

/-- The words for a verbosity. -/
def words : List (String × Nat) :=
  [("", 1), ("off", 0), ("error", 1), ("warn", 2), ("info", 3), ("debug", 4), ("trace", 5)]

/-- The verbosity that a text names by a number or a word. -/
def verbosity? (text : String) : Option Nat :=
  match Text.boundedNatural? Text.wordLimit text with
  | some n => if n ≤ wordiest then some n else none
  | none => words.lookup (Text.lower text)

/-- Why a text is no directive. -/
inductive Fault where
  | form
  | level
  deriving DecidableEq, Repr

/-- The fault in words. -/
def Fault.message : Fault → String
  | form => "invalid filter directive"
  | level =>
    "error parsing level filter: expected one of \"off\", \"error\", \"warn\", \"info\", " ++
      "\"debug\", \"trace\", or a number 0-5"

/-- A field that a directive asks for. -/
structure Field where
  name : String
  hasValue : Bool
  deriving DecidableEq, Repr

/-- A directive. -/
structure Directive where
  /-- How verbose the events may be; none are logged at zero. -/
  verbosity : Nat
  target : Option String := none
  span : Option String := none
  fields : List Field := []
  deriving DecidableEq, Repr

namespace Directive

/-- The part of the characters from one place up to another. -/
def slice (chars : List Char) (start stop : Nat) : String :=
  String.ofList ((chars.take stop).drop start)

/-- The part of the characters from a place on. -/
def sliceFrom (chars : List Char) (start : Nat) : String := String.ofList (chars.drop start)

/-- Gives a directive the verbosity that stands behind an equals sign. -/
def withLevel (directive : Directive) (text : String) : Except Fault Directive :=
  if text.isEmpty then .ok directive
  else
    match verbosity? text with
    | some verbosity => .ok { directive with verbosity }
    | none => .error .level

/-- The field that a text asks for. -/
def fieldOf (text : String) : Field :=
  let name := text.toList.takeWhile (· ≠ '=')
  ⟨String.ofList name, name.length ≠ text.length⟩

/-- Reads what follows the bracket that closes a span; `read` is where the characters are. -/
def afterSpan (directive : Directive) (all : List Char) (place : Nat) : List Char →
    Except Fault Directive
  | [] => .ok directive
  | '=' :: _ => directive.withLevel (sliceFrom all (place + 1))
  | _ => .error .form

/-- Reads a span behind its bracket. -/
def readSpan (directive : Directive) (all : List Char) (place : Nat) (s : List Char) :
    Except Fault Directive :=
  let name := s.takeWhile fun c => c ≠ ']' && c ≠ '\x7b'
  let stop := place + name.length
  let span := slice all place stop
  match s.drop name.length with
  | ']' :: rest => { directive with span := some span }.afterSpan all (stop + 1) rest
  | '\x7b' :: rest =>
    let field := rest.takeWhile (· ≠ '\x7d')
    let fieldStop := stop + 1 + field.length
    match rest.drop field.length with
    | '\x7d' :: ']' :: rest =>
      let asked := slice all (stop + 1) fieldStop
      if field.isEmpty then .error .form
      else
        { directive with
          span := if name.isEmpty then none else some span
          fields := [fieldOf asked] }.afterSpan all (fieldStop + 2) rest
    | _ => .error .form
  | _ => .error .form

/-- Whether a character may start a target. -/
def startsTarget (c : Char) : Bool := c = '-' || c = ':' || c = '_' || Text.isAlphanumeric c

/-- A directive that is a level, or else a target. -/
def ofName (text : String) : Directive :=
  match verbosity? text with
  | some verbosity => { verbosity }
  | none => { verbosity := wordiest, target := some text }

/-- A directive from its text. Places are counted from the first character that is not blank,
while the characters at them are those of the whole text. -/
def parse (text : String) : Except Fault Directive :=
  let all := text.toList
  let trimmed := Text.trimChars all
  match trimmed with
  | [] => .error .form
  | '[' :: rest => { verbosity := wordiest : Directive }.readSpan all 1 rest
  | c :: _ =>
    if !startsTarget c then .error .form
    else
      let name := trimmed.takeWhile fun c => c ≠ '=' && c ≠ '['
      let directive : Directive := ⟨wordiest, some (slice all 0 name.length), none, []⟩
      match trimmed.drop name.length with
      | '=' :: _ => directive.withLevel (sliceFrom all (name.length + 1))
      | '[' :: rest => directive.readSpan all (name.length + 1) rest
      | _ => .ok (ofName (sliceFrom all 0))

/-- Whether a directive asks for more than a target and a level. -/
def isConditional (directive : Directive) : Bool :=
  directive.span.isSome || !directive.fields.isEmpty

/-- Whether a directive decides about events outside of spans. -/
def isStatic (directive : Directive) : Bool :=
  directive.span.isNone && directive.fields.all (!·.hasValue)

/-- What makes a directive more specific than another: the length of its target, counting no
target as shorter than an empty one, and the number of its fields. -/
def weight (directive : Directive) : Nat × Nat :=
  (match directive.target with
    | none => 0
    | some target => target.utf8ByteSize + 1, directive.fields.length)

/-- Whether a directive is about an event. -/
def isAbout (directive : Directive) (event : LogEvent) : Bool :=
  (directive.target.getD "").toList.isPrefixOf event.target.toList &&
    directive.fields.all fun field =>
      field.name = "message" || (event.fields.lookup field.name).isSome

/-- Whether a directive replaces another. -/
def replaces (new old : Directive) : Bool :=
  new.target = old.target && new.fields.map (·.name) = old.fields.map (·.name)

end Directive

end LogFilter

open LogFilter (Directive)

/-- The directives that decide about events, the most specific first. -/
structure LogFilter where
  directives : List Directive
  deriving DecidableEq, Repr

namespace LogFilter

/-- Puts a directive before the first one that is less specific. -/
def place (directive : Directive) : List Directive → List Directive
  | [] => [directive]
  | first :: rest =>
    let (a, b) := directive.weight
    let (c, d) := first.weight
    if c < a || (c = a && d < b) then directive :: first :: rest else first :: place directive rest

/-- Adds a directive; it takes the place of one about the same events. -/
def add (directives : List Directive) (directive : Directive) : List Directive :=
  place directive (directives.filter fun old => !directive.replaces old)

/-- The filter of directives. -/
def ofDirectives (directives : List Directive) : LogFilter :=
  let deciding := directives.filter (·.isStatic)
  if deciding.isEmpty && !directives.any (·.isConditional) then
    ⟨[{ verbosity := LogLevel.error.verbosity }]⟩
  else ⟨deciding.foldl add []⟩

/-- The directives between commas. -/
def parts (text : String) : List String :=
  ((text.toList.splitOn ',').filter (!·.isEmpty)).map String.ofList

/-- A filter from its text, if all directives are right. -/
def parse? (text : String) : Option LogFilter :=
  ((parts text).mapM fun part => (Directive.parse part).toOption).map ofDirectives

/-- What is said of a directive that is left out. -/
def ignored (part : String) : Option String :=
  match Directive.parse part with
  | .ok _ => none
  | .error fault => some ("ignoring \x60" ++ part ++ "\x60: " ++ fault.message ++ "\n")

/-- A filter from its text without the directives that are wrong, and what is said of those. -/
def parseLenient (text : String) : LogFilter × String :=
  (ofDirectives ((parts text).filterMap fun part => (Directive.parse part).toOption),
    String.join ((parts text).filterMap ignored))

/-- Whether an event is logged. -/
def allows (filter : LogFilter) (event : LogEvent) : Bool :=
  match filter.directives.find? (·.isAbout event) with
  | some directive => event.level.verbosity ≤ directive.verbosity
  | none => false

end LogFilter

end ChatGateway
