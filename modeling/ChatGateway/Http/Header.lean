import ChatGateway.Text.Bytes

/-!
# Header fields

A list of named values. Names are in lower case; a name may occur several times. The
operations keep the order of what they do not touch.
-/

namespace ChatGateway.Http

/-- A header field. -/
structure Header where
  name : String
  value : Bytes
  deriving DecidableEq, Repr

/-- The header fields of a message, in order. -/
abbrev Headers := List Header

namespace Headers

/-- The values of a name, in order. -/
def values (headers : Headers) (name : String) : List Bytes :=
  (headers.filter (·.name = name)).map (·.value)

/-- The first value of a name. -/
def get? (headers : Headers) (name : String) : Option Bytes := (headers.values name).head?

/-- Whether a name occurs. -/
def contains (headers : Headers) (name : String) : Bool := headers.any (·.name = name)

/-- The fields without those of a name. -/
def erase (headers : Headers) (name : String) : Headers := headers.filter (·.name ≠ name)

/-- Makes `value` the only value of a name: it takes the place of the first one, or the end. -/
def set (headers : Headers) (name : String) (value : Bytes) : Headers :=
  match headers with
  | [] => [⟨name, value⟩]
  | h :: rest =>
    if h.name = name then ⟨name, value⟩ :: erase rest name else h :: set rest name value

/-- Makes a text the only value of a name. -/
def setText (headers : Headers) (name text : String) : Headers :=
  headers.set name (Bytes.ofText text)

/-- Gives a name a value if it has none. -/
def setMissing (headers : Headers) (name : String) (value : Bytes) : Headers :=
  if headers.contains name then headers else headers ++ [⟨name, value⟩]

/-- Fields with texts as values. -/
def ofTexts (fields : List (String × String)) : Headers :=
  fields.map fun (name, text) => ⟨name, Bytes.ofText text⟩

/-- The values of the name that was set are the one value. -/
theorem values_set_self (headers : Headers) (name : String) (value : Bytes) :
    (headers.set name value).values name = [value] := by
  induction headers with
  | nil => simp [set, values]
  | cons h rest ih =>
    simp only [set]
    split
    · simp [values, erase, List.filter_filter]
    · rename_i hn
      simpa [values, hn] using ih

/-- The values of other names are kept. -/
theorem values_set_of_ne (headers : Headers) {name other : String} (value : Bytes)
    (h : other ≠ name) : (headers.set name value).values other = headers.values other := by
  induction headers with
  | nil => simp [set, values, Ne.symm h]
  | cons f rest ih =>
    simp only [set]
    split
    · rename_i hn
      have differs : ¬ f.name = other := fun e => h (e.symm.trans hn)
      have kept : (rest.filter (·.name ≠ name)).filter (·.name = other) =
          rest.filter (·.name = other) := by
        rw [List.filter_filter]
        refine List.filter_congr fun g _ => ?_
        by_cases hg : g.name = other <;> simp [hg, h]
      simp only [values, erase, List.filter_cons]
      rw [kept]
      simp [Ne.symm h, differs]
    · simp only [values, List.filter_cons] at ih ⊢
      split <;> simp [ih]

end Headers

/-- Whether an octet may stand in the value of a field. -/
def isFieldOctet (b : UInt8) : Bool := (0x20 ≤ b && b ≠ 0x7F) || b = 0x09

/-- Whether the octets are the value of a field. -/
def isFieldValue (value : Bytes) : Bool := value.all isFieldOctet

/-- Whether an octet is a visible character of the basic range, a space or a tab. -/
def isVisible (b : UInt8) : Bool := (0x20 ≤ b && b < 0x7F) || b = 0x09

/-- A field value as text, if all of it is visible. -/
def visibleText? (value : Bytes) : Option String :=
  if value.all isVisible then some (String.ofList (value.map Bytes.character)) else none

/-- Whether a character may stand in a method or a field name. -/
def isTokenChar (c : Char) : Bool :=
  c.isAlphanum || c == '!' || c == '#' || c == '$' || c == '%' || c == '&' || c == '\x27' ||
    c == '*' || c == '+' || c == '-' || c == '.' || c == '^' || c == '_' || c == '\x60' ||
    c == '|' || c == '~'

/-- Whether a text is a method or a field name. -/
def isToken (text : String) : Bool := !text.isEmpty && text.toList.all isTokenChar

end ChatGateway.Http
