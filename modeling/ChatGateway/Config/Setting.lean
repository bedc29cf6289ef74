import ChatGateway.Decimal.Notation
import ChatGateway.Failure
import ChatGateway.Text.Blank
import ChatGateway.Text.Quoted

/-!
# Configured values

A value that a variable or a file gives to a setting. It remembers where it comes from, and
it is lenient: a text that names a number or a truth value counts as one. What lists and
tables hold is never asked for, so it is not kept.
-/

namespace ChatGateway.Config

/-- A value. A whole number is below two to the sixty-fourth and not below minus two to the
sixty-third. -/
inductive Setting where
  | nothing
  | truth (value : Bool)
  | whole (value : Int)
  | real (value : Float)
  /-- A natural number that is too large for a whole one, and the real one that is kept of it. -/
  | large (value : Nat) (kept : Float)
  | text (value : String)
  | list
  | table

/-- A value and where it comes from; a table comes from several places and so from none. -/
structure Sourced where
  setting : Setting
  origin : Option String

/-- Why a configuration cannot be used. -/
inductive Fault where
  | message (text : String)
  | notFound (key : String)
  /-- A value of another kind than is expected, with the key that it stands under. -/
  | mistyped (found expected : String) (key origin : Option String)
  /-- A file that does not follow its format. -/
  | unreadable (cause path : String)
  deriving DecidableEq, Repr

namespace Fault

/-- A note behind a message. -/
def note (before after : String) : Option String → String
  | none => ""
  | some text => before ++ text ++ after

/-- The fault in words. -/
def text : Fault → String
  | message text => text
  | notFound key => "configuration property " ++ Text.quoted key ++ " not found"
  | mistyped found expected key origin =>
    "invalid type: " ++ found ++ ", expected " ++ expected ++ note " for key \x60" "\x60" key ++
      note " in " "" origin
  | unreadable cause path => cause ++ " in " ++ path

/-- The failure of a start with such a configuration. -/
def failure (fault : Fault) : Failure := .settings ⟨fault.text, []⟩

end Fault

namespace Setting

/-- Whether a number fits into sixty-four binary places with a sign. -/
def isWhole (n : Int) : Bool := -9223372036854775808 ≤ n && n ≤ 9223372036854775807

/-- A natural number above those that fit, as it is kept: rounded to a multiple of two thousand
and forty-eight, half a step to the even one, and cut off at sixty-four binary places. -/
def coarse (n : Nat) : Nat :=
  let steps := n / 2048
  let isUp := 1024 < n % 2048 || (n % 2048 = 1024 && steps % 2 = 1)
  min ((if isUp then steps + 1 else steps) * 2048) Text.wordLimit

/-- What a natural number counts as: one that does not fit is coarse. -/
def held (n : Nat) : Nat := if isWhole n then n else coarse n

/-- A value as it is kept: a whole number that does not fit is real. -/
def kept : Setting → Setting
  | whole value => if isWhole value then whole value else real value.toNat.toUInt64.toFloat
  | large _ value => real value
  | setting => setting

/-- A value as it is shown in a message. -/
def shown (setting : Setting) : String :=
  match setting.kept with
  | nothing => "unit value"
  | truth value => "boolean \x60" ++ (if value then "true" else "false") ++ "\x60"
  | whole value => "64-bit integer \x60" ++ Text.signedDecimal value ++ "\x60"
  | real value | large _ value => "floating point \x60" ++ Decimal.plain.write value ++ "\x60"
  | text value => "string " ++ Text.quoted value
  | list => "sequence"
  | table => "map"

/-- The number that a text stands for: the words for truth values count as one and zero. -/
def numberIn? (text : String) : Option Nat :=
  let word := Text.lower text
  if ["true", "on", "yes"].contains word then some 1
  else if ["false", "off", "no"].contains word then some 0
  else Text.boundedNatural? Text.wordLimit text

end Setting

namespace Sourced

/-- The fault of a value that stands under a key and should be something else. -/
def mistyped (value : Sourced) (expected key : String) : Fault :=
  .mistyped value.setting.shown expected (some key) value.origin

/-- The value under a key as a natural number. -/
def natural (value : Sourced) (key : String) : Except Fault Nat :=
  match value.setting with
  | .whole n =>
    if n < 0 then .error (value.mistyped "an unsigned 64 bit or less integer" key)
    else .ok (Setting.held n.toNat)
  | .truth b => .ok b.toNat
  | .real x => .ok x.round.toUInt64.toNat
  | .large n _ => .ok (Setting.held n)
  | .text t =>
    match Setting.numberIn? t with
    | some n => .ok n
    | none => .error (value.mistyped "an integer" key)
  | .nothing | .list | .table => .error (value.mistyped "an integer" key)

/-- The greatest number of sixteen binary places. -/
def shortLimit : Nat := 65535

/-- The value under a key as a number of sixteen binary places. -/
def shortNatural (value : Sourced) (key : String) : Except Fault Nat := do
  let n ← value.natural key
  if n ≤ shortLimit then return n
  else
    throw (.mistyped ("64-bit unsigned integer \x60" ++ Text.decimal n ++ "\x60")
      "an unsigned 16 bit integer" (some key) none)

/-- The value under a key as a text. -/
def text (value : Sourced) (key : String) : Except Fault String :=
  match value.setting.kept with
  | .text t => .ok t
  | .truth b => .ok (if b then "true" else "false")
  | .whole n => .ok (Text.signedDecimal n)
  | .real x | .large _ x => .ok (Decimal.plain.write x)
  | .nothing | .list | .table => .error (value.mistyped "a string" key)

end Sourced

end ChatGateway.Config
