/-!
# Octets and text

Bodies, header values and file contents are lists of octets. A text has exactly one
form in octets, and reading that form gives the text back (`toText?_ofText`); octets
that are not well formed are no text.

`scalarWidth` looks at one encoded character. From it follow the place of the first
ill-formed octet and the reading that puts a replacement mark for each ill-formed part.
-/

namespace ChatGateway

/-- A sequence of octets. -/
abbrev Bytes := List UInt8

namespace Bytes

/-- The octets of a text. -/
def ofText (text : String) : Bytes := text.toByteArray.data.toList

/-- The text that the octets encode, if they are well formed. -/
def toText? (bytes : Bytes) : Option String := String.fromUTF8? ⟨bytes.toArray⟩

/-- Reading the octets of a text gives the text. -/
@[simp]
theorem toText?_ofText (text : String) : toText? (ofText text) = some text := by
  simp [toText?, ofText, String.fromUTF8?, String.fromUTF8, text.isValidUTF8]

/-- Octets that are read as a text are the octets of that text. -/
theorem ofText_of_toText? {bytes : Bytes} {text : String} (h : toText? bytes = some text) :
    ofText text = bytes := by
  simp only [toText?, String.fromUTF8?] at h
  split at h
  · cases h
    simp [ofText, String.fromUTF8]
  · simp at h

/-- Octets and texts correspond one to one. -/
theorem toText?_eq_some_iff {bytes : Bytes} {text : String} :
    toText? bytes = some text ↔ ofText text = bytes :=
  ⟨ofText_of_toText?, fun h => h ▸ toText?_ofText text⟩

/-- The octet of a character of the basic range. -/
def octet (c : Char) : UInt8 := UInt8.ofNat c.toNat

/-- The character of the basic range that an octet stands for. -/
def character (b : UInt8) : Char := Char.ofNat b.toNat

/-- Whether an octet continues an encoded character. -/
def isContinuation (b : UInt8) : Bool := 0x80 ≤ b && b ≤ 0xBF

/-- Whether the second octet may follow the first in a well-formed character. -/
def isSecond (first second : UInt8) : Bool :=
  if first = 0xE0 then 0xA0 ≤ second && second ≤ 0xBF
  else if first = 0xED then 0x80 ≤ second && second ≤ 0x9F
  else if first = 0xF0 then 0x90 ≤ second && second ≤ 0xBF
  else if first = 0xF4 then 0x80 ≤ second && second ≤ 0x8F
  else isContinuation second

/-- How many octets a character takes that starts with this one; none if no character does. -/
def announcedWidth (first : UInt8) : Option Nat :=
  if first < 0x80 then some 1
  else if 0xC2 ≤ first && first ≤ 0xDF then some 2
  else if 0xE0 ≤ first && first ≤ 0xEF then some 3
  else if 0xF0 ≤ first && first ≤ 0xF4 then some 4
  else none

/-- The width of the character that the octets start with, or the length of the ill-formed
part that stands in its place. -/
def scalarWidth (first : UInt8) (rest : Bytes) : Except Nat Nat :=
  match announcedWidth first with
  | none => .error 1
  | some 1 => .ok 1
  | some width =>
    match rest with
    | [] => .error 1
    | second :: more =>
      if !isSecond first second then .error 1
      else
        let tail := (more.take (width - 2)).takeWhile isContinuation
        if tail.length = width - 2 then .ok width else .error (2 + tail.length)

/-- How many octets precede the first ill-formed one. -/
def wellFormedLength (bytes : Bytes) : Nat :=
  go bytes 0
where
  /-- Counts on from `passed` octets that are known to be well formed. -/
  go (bytes : Bytes) (passed : Nat) : Nat :=
    match bytes with
    | [] => passed
    | first :: rest =>
      match scalarWidth first rest with
      | .ok width => go (rest.drop (width - 1)) (passed + width)
      | .error _ => passed
  termination_by bytes.length
  decreasing_by simp only [List.length_drop, List.length_cons]; omega

/-- The text of the octets with a replacement mark for each ill-formed part. -/
def readableText (bytes : Bytes) : String :=
  match toText? bytes with
  | some text => text
  | none => String.ofList (go bytes [])
where
  /-- Reads character by character; `seen` holds the characters so far, last first. -/
  go (bytes : Bytes) (seen : List Char) : List Char :=
    match bytes with
    | [] => seen.reverse
    | first :: rest =>
      match scalarWidth first rest with
      | .ok width =>
        let decoded := (toText? (first :: rest.take (width - 1))).getD ""
        go (rest.drop (width - 1)) (decoded.toList.reverse ++ seen)
      | .error width => go (rest.drop (width - 1)) ('\uFFFD' :: seen)
  termination_by bytes.length
  decreasing_by all_goals (simp only [List.length_drop, List.length_cons]; omega)

end Bytes

end ChatGateway
