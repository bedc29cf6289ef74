/-!
# Keys

A key names a setting by the name of a top-level one and, optionally, the way into it: names
behind dots, and indices in brackets. A text that follows no such form is a name of its own.
-/

namespace ChatGateway.Config

/-- The first step from a top-level setting. -/
inductive Within where
  | itself
  | member
  | element
  deriving DecidableEq, Repr

/-- The top-level setting that a key leads to or into. -/
structure Key where
  root : String
  within : Within
  deriving DecidableEq, Repr

namespace Key

/-- Whether a character may stand in a name. -/
def isNameChar (c : Char) : Bool := c.isAlphanum || c = ' ' || c = '_' || c = '-'

/-- Whether a character may stand around an index. -/
def isGap (c : Char) : Bool := c = ' ' || c = '\t'

/-- What follows the sign of an index, if there is one. -/
def afterSign : List Char → List Char
  | '-' :: rest => rest
  | chars => chars

/-- What follows the digits of an index; there is at least one, and not more than fit. -/
def afterDigits? (chars : List Char) : Option (List Char) :=
  let after := chars.dropWhile Char.isDigit
  if after.length < chars.length && chars.length ≤ after.length + 18 then some after else none

/-- What follows a closing bracket. -/
def afterBracket? : List Char → Option (List Char)
  | ']' :: rest => some rest
  | _ => none

/-- What follows a name, which is not empty. -/
def afterName? (chars : List Char) : Option (List Char) :=
  let after := chars.dropWhile isNameChar
  if after.length < chars.length then some after else none

/-- What follows one step: a name behind a dot, or an index in brackets. -/
def afterStep? : List Char → Option (List Char)
  | '.' :: rest => afterName? rest
  | '[' :: rest =>
    (afterDigits? (afterSign (rest.dropWhile isGap))).bind fun after =>
      afterBracket? (after.dropWhile isGap)
  | _ => none

/-- Dropping characters from the front of a text does not make it longer. -/
theorem dropWhile_length_le (p : Char → Bool) (s : List Char) : (s.dropWhile p).length ≤ s.length :=
  (List.dropWhile_suffix p).length_le

/-- A text is no longer behind its sign. -/
theorem afterSign_length (s : List Char) : (afterSign s).length ≤ s.length := by
  unfold afterSign
  split <;> simp

/-- Behind its digits a text is no longer than before them. -/
theorem afterDigits?_length {s t : List Char} (h : afterDigits? s = some t) :
    t.length ≤ s.length := by
  simp only [afterDigits?] at h
  split at h
  · cases h
    exact dropWhile_length_le Char.isDigit s
  · simp at h

/-- A text is no longer behind an index in brackets. -/
theorem afterBracket?_length {s t : List Char} (h : afterBracket? s = some t) :
    t.length ≤ s.length := by
  unfold afterBracket? at h
  split at h
  · cases h
    simp
  · simp at h

/-- A text is no longer behind a name. -/
theorem afterName?_length {s t : List Char} (h : afterName? s = some t) : t.length ≤ s.length := by
  simp only [afterName?] at h
  split at h
  · cases h
    exact dropWhile_length_le isNameChar s
  · simp at h

/-- Every step of a key uses up characters, so a key has finitely many steps. -/
theorem afterStep?_length {s t : List Char} (h : afterStep? s = some t) : t.length < s.length := by
  unfold afterStep? at h
  split at h
  · have := afterName?_length h
    simp only [List.length_cons]
    omega
  · rename_i rest
    obtain ⟨after, hdigits, hbracket⟩ := Option.bind_eq_some_iff.1 h
    have := afterBracket?_length hbracket
    have := dropWhile_length_le isGap after
    have := afterDigits?_length hdigits
    have := afterSign_length (rest.dropWhile isGap)
    have := dropWhile_length_le isGap rest
    simp only [List.length_cons]
    omega
  · simp at h

/-- Whether the characters are steps and nothing else. -/
def areSteps (chars : List Char) : Bool :=
  match _h : afterStep? chars with
  | none => chars.isEmpty
  | some rest => areSteps rest
termination_by chars.length
decreasing_by exact afterStep?_length _h

/-- The key that a text gives. -/
def ofText (text : String) : Key :=
  let chars := text.toList
  let name := chars.takeWhile isNameChar
  let steps := chars.dropWhile isNameChar
  if name.isEmpty || !areSteps steps then ⟨text, .itself⟩
  else
    ⟨String.ofList name,
      match steps with
      | [] => .itself
      | c :: _ => if c = '.' then .member else .element⟩

end Key

end ChatGateway.Config
