import ChatGateway.Json.Skip

/-!
# The grammar of documents

Which characters make a document, and for which characters a text in it stands, said without any
reader. A document is a value with blanks around it; a value is a word, a number, a text, or a list or an
object whose parts are values again, to any depth.

A text may spell its characters in several ways. An escape with digits need not spell a character: it may
be one half of a pair whose other half is missing. Such a text is well formed, but it stands for nothing.
-/

namespace ChatGateway.Json.Grammar

/-- Characters that may stand between two parts. -/
def Blank (s : List Char) : Prop := ∀ c ∈ s, c = ' ' ∨ c = '\n' ∨ c = '\t' ∨ c = '\r'

/-! ## Numbers -/

/-- At least one digit. -/
def Digits (s : List Char) : Prop := s ≠ [] ∧ ∀ c ∈ s, c.isDigit = true

/-- What precedes the point. A zero at the front stands alone. -/
inductive Whole : List Char → Prop where
  | zero : Whole ['0']
  | digits {c : Char} {s : List Char} (first : c.isDigit = true) (positive : c ≠ '0')
      (more : ∀ d ∈ s, d.isDigit = true) : Whole (c :: s)

/-- The point with what follows it, or nothing. -/
inductive Fraction : List Char → Prop where
  | none : Fraction []
  | point {s : List Char} (digits : Digits s) : Fraction ('.' :: s)

/-- The sign of an exponent, or none. -/
inductive Sign : List Char → Prop where
  | none : Sign []
  | plus : Sign ['+']
  | minus : Sign ['-']

/-- An exponent with its mark, or nothing. -/
inductive Exponent : List Char → Prop where
  | none : Exponent []
  | marked {mark : Char} {sign s : List Char} (spelled : mark = 'e' ∨ mark = 'E') (signed : Sign sign)
      (digits : Digits s) : Exponent (mark :: (sign ++ s))

/-- A number without sign. -/
inductive Unsigned : List Char → Prop where
  | parts {whole fraction exponent : List Char} (before : Whole whole) (after : Fraction fraction)
      (power : Exponent exponent) : Unsigned (whole ++ (fraction ++ exponent))

/-! ## Texts -/

/-- The character for which a letter behind the escape mark stands. -/
def letterMeaning? (letter : Char) : Option Char :=
  [('"', '"'), ('\\', '\\'), ('/', '/'), ('b', '\x08'), ('f', '\x0C'), ('n', '\n'), ('r', '\r'),
    ('t', '\t')].lookup letter

/-- Four hexadecimal digits and their number. -/
inductive Quad : List Char → Nat → Prop where
  | digits {a b c d : Char} {w x y z : Nat} (first : Text.hexValue? a = some w)
      (second : Text.hexValue? b = some x) (third : Text.hexValue? c = some y)
      (fourth : Text.hexValue? d = some z) : Quad [a, b, c, d] (((w * 16 + x) * 16 + y) * 16 + z)

/-- What stands behind an escape mark, and the character that it means. The two halves of a pair are
numbers that no character has. -/
inductive Escape : List Char → Char → Prop where
  | letter {l c : Char} (means : letterMeaning? l = some c) : Escape [l] c
  | single {s : List Char} {c : Char} (number : Quad s c.toNat) : Escape ('u' :: s) c
  | pair {s t : List Char} {high low : Nat} {c : Char} (first : Quad s (0xD800 + high))
      (second : Quad t (0xDC00 + low)) (highBound : high < 0x400) (lowBound : low < 0x400)
      (means : c.toNat = 0x10000 + high * 0x400 + low) :
      Escape ('u' :: (s ++ '\\' :: 'u' :: t)) c

/-- What stands between the marks of a text, and the characters for which it stands. -/
inductive Spells : List Char → List Char → Prop where
  | nil : Spells [] []
  | plain {c : Char} {s t : List Char} (visible : 0x20 ≤ c.toNat) (noQuote : c ≠ '"')
      (noEscape : c ≠ '\\') (rest : Spells s t) : Spells (c :: s) (c :: t)
  | escaped {e s t : List Char} {c : Char} (escape : Escape e c) (rest : Spells s t) :
      Spells ('\\' :: (e ++ s)) (c :: t)

/-- What may stand behind an escape mark, whether it means a character or not. -/
inductive EscapeForm : List Char → Prop where
  | letter {l : Char} (means : (letterMeaning? l).isSome = true) : EscapeForm [l]
  | digits {s : List Char} {n : Nat} (number : Quad s n) : EscapeForm ('u' :: s)

/-- What stands between the marks of a text, whether it stands for characters or not. -/
inductive Characters : List Char → Prop where
  | nil : Characters []
  | plain {c : Char} {s : List Char} (visible : 0x20 ≤ c.toNat) (noQuote : c ≠ '"')
      (noEscape : c ≠ '\\') (rest : Characters s) : Characters (c :: s)
  | escaped {e s : List Char} (form : EscapeForm e) (rest : Characters s) :
      Characters ('\\' :: (e ++ s))

/-! ## Values -/

/-- The character that opens a bracket. -/
def opening : Bracket → Char
  | .list => '['
  | .object => '{'

/-- The character that closes a bracket. -/
def closing : Bracket → Char
  | .list => ']'
  | .object => '}'

/-- What precedes the value of a part inside a bracket: nothing, or the name of a member. -/
inductive Label : Bracket → List Char → Prop where
  | element : Label .list []
  | member {before name between : List Char} (blankBefore : Blank before) (named : Characters name)
      (blankBetween : Blank between) : Label .object (before ++ '"' :: (name ++ '"' :: (between ++ [':'])))

/-- The kinds of phrases that are made of each other. -/
inductive Phrase where
  | value
  /-- One part inside a bracket. -/
  | part (bracket : Bracket)
  /-- The parts inside a bracket, a comma between any two. -/
  | parts (bracket : Bracket)
  deriving DecidableEq, Repr

/-- The characters are a phrase of the kind. -/
inductive Derives : Phrase → List Char → Prop where
  | word {s : List Char} (known : s = "null".toList ∨ s = "true".toList ∨ s = "false".toList) :
      Derives .value s
  | positive {s : List Char} (number : Unsigned s) : Derives .value s
  | negative {s : List Char} (number : Unsigned s) : Derives .value ('-' :: s)
  | text {s : List Char} (characters : Characters s) : Derives .value ('"' :: (s ++ ['"']))
  | empty {s : List Char} (bracket : Bracket) (blank : Blank s) :
      Derives .value (opening bracket :: (s ++ [closing bracket]))
  | filled {s : List Char} {bracket : Bracket} (inside : Derives (.parts bracket) s) :
      Derives .value (opening bracket :: (s ++ [closing bracket]))
  | part {bracket : Bracket} {label before s after : List Char} (labelled : Label bracket label)
      (blankBefore : Blank before) (value : Derives .value s) (blankAfter : Blank after) :
      Derives (.part bracket) (label ++ (before ++ (s ++ after)))
  | last {bracket : Bracket} {s : List Char} (part : Derives (.part bracket) s) :
      Derives (.parts bracket) s
  | more {bracket : Bracket} {s rest : List Char} (part : Derives (.part bracket) s)
      (parts : Derives (.parts bracket) rest) : Derives (.parts bracket) (s ++ ',' :: rest)

/-- A value with nothing but blanks around it. -/
def IsDocument (s : List Char) : Prop := Derives (.part .list) s

/-- No characters are blank. -/
theorem Blank.nil : Blank [] := fun _ member => nomatch member

/-- Blanks behind blanks are blank. -/
theorem Blank.append {s t : List Char} (hs : Blank s) (ht : Blank t) : Blank (s ++ t) :=
  fun c member => (List.mem_append.mp member).elim (hs c) (ht c)

/-- A value between blanks is a document. -/
theorem isDocument_of_value {before s after : List Char} (blankBefore : Blank before)
    (value : Derives .value s) (blankAfter : Blank after) : IsDocument (before ++ (s ++ after)) :=
  .part .element blankBefore value blankAfter

/-- An escape begins characters of a text. -/
theorem Escape.characters {e s : List Char} {c : Char} (escape : Escape e c) (rest : Characters s) :
    Characters ('\\' :: (e ++ s)) := by
  cases escape with
  | letter means => exact .escaped (.letter (by rw [means]; rfl)) rest
  | single number => exact .escaped (.digits number) rest
  | pair first second highBound lowBound means =>
    simp only [List.cons_append, List.append_assoc]
    exact .escaped (.digits first) (.escaped (.digits second) rest)

/-- What stands for characters is well formed. -/
theorem Spells.characters {s t : List Char} (h : Spells s t) : Characters s := by
  induction h with
  | nil => exact .nil
  | plain visible noQuote noEscape _ ih => exact .plain visible noQuote noEscape ih
  | escaped escape _ ih => exact escape.characters ih

/-- Parts with commas between them. -/
theorem derives_intercalate {bracket : Bracket} {part : List Char} {others : List (List Char)}
    (h : ∀ s ∈ part :: others, Derives (.part bracket) s) :
    Derives (.parts bracket) ([','].intercalate (part :: others)) := by
  induction others generalizing part with
  | nil => simpa [List.intercalate] using Derives.last (h part List.mem_cons_self)
  | cons next others ih =>
    rw [List.forall_mem_cons] at h
    have rest := Derives.more h.1 (ih h.2)
    simpa [List.intercalate] using rest

end ChatGateway.Json.Grammar
