/-!
# Blank characters and trimming

A character is blank if it has the `White_Space` property. Trimming removes the blank
characters at both ends of a text and keeps those inside.

What trimming leaves has no blank end (`trimmed_of_trim`), and the text is recovered
from it by putting blanks back (`exists_blanks_trim`).
-/

namespace ChatGateway.Text

/-- The characters with the `White_Space` property. -/
def isBlank (c : Char) : Bool :=
  c == ' ' || ('\t' ≤ c && c ≤ '\r') || c == '\x85' || c == '\u00A0' || c == '\u1680' ||
    ('\u2000' ≤ c && c ≤ '\u200A') || c == '\u2028' || c == '\u2029' || c == '\u202F' ||
    c == '\u205F' || c == '\u3000'

/-- The characters from the first to the last that is not blank. -/
def trimChars (chars : List Char) : List Char :=
  ((chars.dropWhile isBlank).reverse.dropWhile isBlank).reverse

/-- The text without blank characters at its ends. -/
def trim (text : String) : String := String.ofList (trimChars text.toList)

/-- Whether a text has no character that is not blank. -/
def isBlankText (text : String) : Bool := text.toList.all isBlank

/-- The text with the letters of the basic range in lower case. -/
def lower (text : String) : String := String.ofList (text.toList.map Char.toLower)

/-- Neither end of the text is blank. -/
def Trimmed (chars : List Char) : Prop :=
  (∀ c ∈ chars.head?, isBlank c = false) ∧ ∀ c ∈ chars.getLast?, isBlank c = false

/-- The first character that is left after dropping has not the dropped property. -/
theorem head?_dropWhile_not {α : Type} (p : α → Bool) (xs : List α) :
    ∀ x ∈ (xs.dropWhile p).head?, p x = false := by
  induction xs with
  | nil => simp
  | cons x xs ih =>
    by_cases h : p x
    · simpa [h] using ih
    · simp [h]

/-- A trimmed text has no blank end. -/
theorem trimmed_of_trim (chars : List Char) : Trimmed (trimChars chars) := by
  refine ⟨?_, ?_⟩
  · intro c hc
    obtain ⟨kept, hkept⟩ := List.dropWhile_suffix isBlank (l := (chars.dropWhile isBlank).reverse)
    have split : chars.dropWhile isBlank = trimChars chars ++ kept.reverse := by
      have := congrArg List.reverse hkept
      simpa [trimChars] using this.symm
    refine head?_dropWhile_not isBlank chars c ?_
    rw [split]
    cases h : trimChars chars with
    | nil => simp [h] at hc
    | cons x xs => simpa [h] using hc
  · intro c hc
    refine head?_dropWhile_not isBlank (chars.dropWhile isBlank).reverse c ?_
    simpa [trimChars] using hc

/-- A text is its trimmed form between two runs of blanks. -/
theorem exists_blanks_trim (chars : List Char) :
    ∃ before after : List Char, (∀ c ∈ before, isBlank c) ∧ (∀ c ∈ after, isBlank c) ∧
      chars = before ++ trimChars chars ++ after := by
  refine ⟨chars.takeWhile isBlank,
    ((chars.dropWhile isBlank).reverse.takeWhile isBlank).reverse, ?_, ?_, ?_⟩
  · exact fun c hc => (List.all_takeWhile (p := isBlank) (l := chars) |> List.all_eq_true.mp) c hc
  · intro c hc
    exact (List.all_takeWhile (p := isBlank) |> List.all_eq_true.mp) c (List.mem_reverse.mp hc)
  · have inner : chars.dropWhile isBlank =
        trimChars chars ++ ((chars.dropWhile isBlank).reverse.takeWhile isBlank).reverse := by
      rw [trimChars, ← List.reverse_append, List.takeWhile_append_dropWhile, List.reverse_reverse]
    rw [List.append_assoc, ← inner, List.takeWhile_append_dropWhile]

end ChatGateway.Text
