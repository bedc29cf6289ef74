import ChatGateway.Proofs.Config.Numerals
import ChatGateway.Proofs.Text.Trimming

/-!
# The port on a line

Each format of configuration files has a way to write a port down. A format keeps the port if it reads
this number and nothing else, or refuses the file because the number is too large for it.

A format is followed through its text mark by mark, and the number is read as the format reads numerals.
Here are the formats in which a port stands on a line of its own: TOML, and files of sections.
-/

namespace ChatGateway

namespace Text.Cursor

/-- Behind characters without line ends a cursor is on the same line. -/
theorem skip_append {front rest : List Char} {line column : Nat} (flat : '\n' ∉ front) :
    skip front.length ⟨front ++ rest, line, column⟩ = ⟨rest, line, column + front.length⟩ := by
  induction front generalizing column with
  | nil => rfl
  | cons c front ih =>
    obtain ⟨here, later⟩ := not_or.mp (mt List.mem_cons.mpr flat)
    have step : skip (front.length + 1) ⟨c :: (front ++ rest), line, column⟩ =
        skip front.length ⟨front ++ rest, line, column + 1⟩ := by
      rw [skip]
      rintro rfl
      contradiction
    rw [List.length_cons, List.cons_append, step, ih later, Nat.add_assoc, Nat.add_comm 1]

end Text.Cursor

namespace Config

open ChatGateway.Text (Cursor)

/-- How a port stands in a file of a format: behind some text and before another. -/
structure PortForm where
  format : Format
  before : String
  behind : String

namespace PortForm

/-- The file that gives a port. -/
def text (form : PortForm) (n : Nat) : String := form.before ++ Text.decimal n ++ form.behind

/-- The format reads a number as the only member, or refuses it because it is too large. -/
def Keeps (form : PortForm) (n : Nat) : Prop :=
  (∃ setting : Setting, setting.Names n ∧
    form.format.read (form.text n) = .ok (.table [("port", setting)])) ∨
    (Setting.isWhole n = false ∧ ∃ cause, form.format.read (form.text n) = .error cause)

/-- The characters of a file that gives a port. -/
theorem toList_text (form : PortForm) (n : Nat) :
    (form.text n).toList = form.before.toList ++ (Nat.toDigits 10 n ++ form.behind.toList) := by
  simp [text, Text.decimal, String.toList_append]

end PortForm

/-- The name of the port, and what stands behind it. -/
def namingPort (tail : List Char) : List Char := 'p' :: 'o' :: 'r' :: 't' :: tail

/-! ## TOML -/

namespace Toml

/-- The port in TOML. -/
def portForm : PortForm := ⟨format, "port = ", ""⟩

/-- Where a digit stands a number is read. -/
theorem value_of_digit {c : Char} {rest : List Char} (fuel : Nat) (digit : c.isDigit = true) :
    value (fuel + 1) (c :: rest) = number (c :: rest) := by
  have bracket := Text.ne_of_isDigit digit (show '['.isDigit = false by decide)
  have brace := Text.ne_of_isDigit digit (show '\x7b'.isDigit = false by decide)
  have double := Text.ne_of_isDigit digit (show '"'.isDigit = false by decide)
  have single := Text.ne_of_isDigit digit (show '\x27'.isDigit = false by decide)
  have unquoted : quoted? (c :: rest) = none := by
    unfold quoted?
    split <;> simp_all
  unfold value
  rw [unquoted]
  simp [digit]

/-- A line that assigns a number to the port is read as the number is. -/
theorem line_port {c : Char} {rest : List Char} (digit : c.isDigit = true) :
    line {} (namingPort (' ' :: '=' :: ' ' :: c :: rest)) =
      (number (c :: rest)).bind fun (setting, after) =>
        taken (namingPort (' ' :: '=' :: ' ' :: c :: rest)) (.ok { members := [("port", setting)] })
          after := by
  have lead : key (namingPort (' ' :: '=' :: ' ' :: c :: rest)) =
      .ok (["port"], '=' :: ' ' :: c :: rest) := rfl
  have space := Text.ne_of_isDigit digit (show ' '.isDigit = false by decide)
  have tab := Text.ne_of_isDigit digit (show '\t'.isDigit = false by decide)
  have gap : skipGap (' ' :: c :: rest) = c :: rest := by
    simp [skipGap, isGap, space, tab]
  have assigned : assignment (namingPort (' ' :: '=' :: ' ' :: c :: rest)) =
      (number (c :: rest)).map fun (setting, after) => ((["port"], setting), after) := by
    rw [assignment, lead]
    simp only [gap, List.length_cons, value_of_digit _ digit]
    cases number (c :: rest) <;> rfl
  rw [namingPort] at assigned ⊢
  simp only [line, assigned]
  cases number (c :: rest) <;> rfl

/-- A text is read as its characters are. -/
theorem read_eq {text : String} {chars : List Char} (h : text.toList = chars) :
    portForm.format.read text =
      match document (chars.length + 1) {} chars with
      | .error refusal => .error (refusal.text chars)
      | .ok state => .ok (.table state.members) := by
  subst h
  rfl

/-- A text that starts with a line is read line by line. -/
theorem document_of_start {state : State} {s : List Char} (start : skipBlank s = s) (full : s ≠ [])
    (fuel : Nat) :
    document (fuel + 1) state s = (line state s).bind fun (next, rest) => document fuel next rest := by
  rw [document, start]
  cases s with
  | nil => contradiction
  | cons c s =>
    simp only
    cases line state (c :: s) <;> rfl

/-- TOML keeps a port. -/
theorem keeps_port (n : Nat) : portForm.Keeps n := by
  obtain ⟨c, rest, shape, digit⟩ := Text.exists_digit n
  have chars : (portForm.text n).toList = namingPort (' ' :: '=' :: ' ' :: c :: rest) := by
    rw [PortForm.toList_text, shape]
    exact congrArg _ (List.append_nil _)
  have start : skipBlank (namingPort (' ' :: '=' :: ' ' :: c :: rest)) =
      namingPort (' ' :: '=' :: ' ' :: c :: rest) := rfl
  have stop : ∀ d ∈ ([] : List Char).head?, isNumberChar d = false ∧ d ≠ ':' := nofun
  have number := number_toDigits (n := n) stop
  rw [List.append_nil, shape] at number
  have read := read_eq chars
  rw [document_of_start start (List.cons_ne_nil _ _), line_port digit, number] at read
  by_cases fits : Setting.isWhole n = true
  · rw [if_pos fits] at read
    exact .inl ⟨.whole n, .whole n, read⟩
  · rw [if_neg fits] at read
    exact .inr ⟨Bool.eq_false_iff.mpr fits, _, read⟩

end Toml

/-! ## Sections -/

namespace Ini

/-- The port in a file of sections. -/
def portForm : PortForm := ⟨format, "port = ", ""⟩

/-- Characters that are neither backslashes nor ends are read as they are. -/
theorem textUntil_append {ends chars : List Char} {atFileEnd : Bool}
    (plain : ∀ c ∈ chars, c ≠ '\\' ∧ c ∉ ends) (out rest : List Char) :
    textUntil ends atFileEnd out (chars ++ rest) =
      textUntil ends atFileEnd (chars.reverse ++ out) rest := by
  induction chars generalizing out with
  | nil => rfl
  | cons c chars ih =>
    obtain ⟨⟨solid, inside⟩, later⟩ := List.forall_mem_cons.mp plain
    have step : textUntil ends atFileEnd out (c :: (chars ++ rest)) =
        textUntil ends atFileEnd (c :: out) (chars ++ rest) := by
      rw [textUntil.eq_def]
      simp [solid, inside]
    rw [List.cons_append, step, ih later, List.reverse_cons, List.append_assoc]
    rfl

/-- A value of digits is these digits. -/
theorem value_of_digits {c : Char} {rest : List Char} (all : ∀ d ∈ c :: rest, d.isDigit = true)
    (fuel : Nat) : value true [] (fuel + 1) (c :: rest) = .ok (c :: rest, []) := by
  have plain : ∀ d ∈ c :: rest, d ≠ '\\' ∧ d ∉ ['\n', '\r'] := Text.forall_of_isDigit (by decide) all
  have solid : ∀ d ∈ c :: rest, Text.isBlank d = false := Text.forall_of_isDigit (by decide) all
  have unquoted : ∀ d ∈ c :: rest, (d = '"' || d = '\x27') = false :=
    Text.forall_of_isDigit (by decide) all
  have line : textUntil ['\n', '\r'] true [] (c :: rest) = .ok (c :: rest, []) := by
    have read : textUntil ['\n', '\r'] true [] (c :: rest) =
        textUntil ['\n', '\r'] true (c :: rest).reverse [] := by
      simpa using textUntil_append plain [] []
    rw [read, textUntil.eq_def]
    simp
  have front : (c :: rest).dropWhile Text.isBlank = c :: rest :=
    Text.dropWhile_of_head fun _ first => solid _ (List.mem_of_mem_head? first)
  have back : (c :: rest).reverse.dropWhile Text.isBlank = (c :: rest).reverse :=
    Text.dropWhile_of_head fun _ last => solid _ (List.mem_reverse.mp (List.mem_of_mem_head? last))
  rw [value]
  simp only [unquoted c List.mem_cons_self, line, back, List.reverse_reverse, skipBlanks, front,
    Bool.false_eq_true, if_false, if_true, List.nil_append]

/-- A line that assigns digits to the port is read as their text. -/
theorem item_port {c : Char} {rest : List Char} (all : ∀ d ∈ c :: rest, d.isDigit = true) :
    item {} (namingPort (' ' :: '=' :: ' ' :: c :: rest)) =
      .ok ({ members := [("port", .text (String.ofList (c :: rest)))] }, []) := by
  have plain : ∀ d ∈ ['p', 'o', 'r', 't', ' '], d ≠ '\\' ∧ d ∉ ['=', ':'] := by simp
  have key : textUntil ['=', ':'] false [] (namingPort (' ' :: '=' :: ' ' :: c :: rest)) =
      .ok (['p', 'o', 'r', 't', ' '], '=' :: ' ' :: c :: rest) := by
    refine (textUntil_append plain [] _).trans ?_
    rw [textUntil.eq_def]
    simp
  have name : String.ofList (Text.trimChars ['p', 'o', 'r', 't', ' ']) = "port" := by decide
  have solid : ∀ d ∈ c :: rest, isGap d = false := Text.forall_of_isDigit (by decide) all
  have gap : (' ' :: c :: rest).dropWhile isGap = c :: rest := by
    simp [show isGap ' ' = true by decide, solid c List.mem_cons_self]
  rw [namingPort] at key ⊢
  simp only [item, key, List.drop_one, List.tail_cons, gap, value_of_digits all, name]
  rfl

/-- A text is read as its characters are. -/
theorem read_eq {text : String} {chars : List Char} (h : text.toList = chars) :
    portForm.format.read text =
      match document (chars.length + 1) {} chars with
      | .error refusal => .error (refusal.text chars)
      | .ok state => .ok (.table state.members) := by
  subst h
  rfl

/-- A file of sections keeps a port. -/
theorem keeps_port (n : Nat) : portForm.Keeps n := by
  obtain ⟨c, rest, shape, -⟩ := Text.exists_digit n
  have chars : (portForm.text n).toList = namingPort (' ' :: '=' :: ' ' :: c :: rest) := by
    rw [PortForm.toList_text, shape]
    exact congrArg _ (List.append_nil _)
  have start : skipBlanks (namingPort (' ' :: '=' :: ' ' :: c :: rest)) =
      namingPort (' ' :: '=' :: ' ' :: c :: rest) := rfl
  have item := item_port (shape ▸ Text.isDigit_of_mem (n := n))
  have numeral : String.ofList (c :: rest) = Text.decimal n := congrArg String.ofList shape.symm
  rw [namingPort] at start item chars
  have read := read_eq chars
  rw [document] at read
  simp only [start, item, numeral] at read
  exact .inl ⟨.text (Text.decimal n), .numeral (Text.natural?_decimal n), read⟩

end Ini

end Config

end ChatGateway
