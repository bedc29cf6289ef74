import ChatGateway.Proofs.Config.PortForm

/-!
# The port between braces

In JSON, JSON5 and RON a port is the member of an object or of a structure. All of them keep it.
-/

namespace ChatGateway.Config

open ChatGateway.Text (Cursor)

/-! ## JSON -/

/-- The port in JSON. -/
def jsonPortForm : PortForm := ⟨jsonFormat, "\x7b\"port\":", "\x7d"⟩

/-- A document that is decoded is read as what its value says. -/
theorem jsonFormat_read_of_ok {text : String} {value : Json.Value}
    (decoded : Json.Value.reader.decode (Bytes.ofText text) = .ok value) :
    jsonFormat.read text = .ok (documentOf value) := by
  simp only [jsonFormat, decoded]

/-- A document that is not decoded is refused with the message of the fault. -/
theorem jsonFormat_read_of_error {text : String} {fault : Json.Fault}
    (decoded : Json.Value.reader.decode (Bytes.ofText text) = .error fault) :
    jsonFormat.read text = .error (fault.message (Bytes.ofText text)) := by
  simp only [jsonFormat, decoded]

/-- JSON keeps a port. -/
theorem json_keeps_port (n : Nat) : jsonPortForm.Keeps n := by
  rcases Json.read_portText n with ⟨number, names, read⟩ | ⟨large, fault, read⟩
  · have whole := jsonFormat_read_of_ok ((Json.Reader.decode_of_read read).mpr rfl)
    exact .inl ⟨ofNumber number, names_ofNumber names, whole⟩
  · have unfit : Setting.isWhole n = false := by
      simp only [Text.wordLimit] at large
      simp only [Setting.isWhole, Bool.and_eq_false_iff, decide_eq_false_iff_not]
      omega
    have decoded : Json.Value.reader.decode (Bytes.ofText (ListenAddress.portText n)) = .error fault := by
      rw [Json.Reader.decode, read]
    exact .inr ⟨unfit, _, jsonFormat_read_of_error decoded⟩

/-! ## JSON5 -/

namespace Json5

/-- The port in JSON5. -/
def portForm : PortForm := ⟨format, "\x7bport: ", "\x7d"⟩

/-- Before a closing brace the digits of a number are a decimal. -/
theorem decimalLength_toDigits (n : Nat) :
    decimalLength (Nat.toDigits 10 n ++ ['\x7d']) = (Nat.toDigits 10 n).length := by
  have run : (Nat.toDigits 10 n ++ ['\x7d']).takeWhile Char.isDigit = Nat.toDigits 10 n :=
    (Text.span_of_boundary Text.isDigit_of_mem (by rintro _ ⟨⟩; decide)).1
  have whole : wholeLength (Nat.toDigits 10 n ++ ['\x7d']) = (Nat.toDigits 10 n).length := by
    rcases Nat.eq_zero_or_pos n with rfl | positive
    · rfl
    · obtain ⟨c, rest, shape, -⟩ := Text.exists_digit n
      have front := Text.head?_toDigits_ne positive
      rw [shape] at front run ⊢
      rw [wholeLength, run]
      rintro _ zero
      exact front (congrArg some (List.cons.inj zero).1)
  have full : (Nat.toDigits 10 n).length ≠ 0 := by simp
  rw [decimalLength, whole, List.drop_left]
  simp [full, exponentLength]

/-- Before a closing brace a number takes as many characters as it has digits. -/
theorem numberLength_toDigits (n : Nat) :
    numberLength (Nat.toDigits 10 n ++ ['\x7d']) = (Nat.toDigits 10 n).length := by
  obtain ⟨c, rest, shape, digit⟩ := Text.exists_digit n
  have letter (mark : Char) (none : mark.isDigit = false) : ¬ mark = c :=
    (Text.ne_of_isDigit digit none).symm
  have unsigned : signLength (Nat.toDigits 10 n ++ ['\x7d']) = 0 := by
    unfold signLength
    split <;> simp_all
  have basic : ∀ d ∈ Nat.toDigits 10 n, (d = 'x' || d = 'X') = false :=
    Text.forall_of_isDigit (by decide) Text.isDigit_of_mem
  have hex : hexLength (Nat.toDigits 10 n ++ ['\x7d']) = 0 := by
    unfold hexLength
    split
    · rename_i mark digits whole
      have plain : (mark = 'x' || mark = 'X') = false := by
        have member : mark ∈ Nat.toDigits 10 n ++ ['\x7d'] := whole ▸ by simp
        rcases List.mem_append.mp member with inside | last
        · exact basic mark inside
        · rw [List.mem_singleton.mp last]
          decide
      simp [plain]
    · rfl
  have word : wordLength (Nat.toDigits 10 n ++ ['\x7d']) = 0 := by
    rw [shape, wordLength]
    simp [List.isPrefixOf, letter 'I' (by decide), letter 'N' (by decide)]
  simp [numberLength, unsigned, hex, word, decimalLength_toDigits]

/-- A number before a closing brace is a value. -/
theorem leaf_toDigits (n : Nat) (missed : Missed) : ∃ after,
    leaf (Nat.toDigits 10 n ++ ['\x7d']) missed =
      (some (numberNode (Nat.toDigits 10 n), ['\x7d']), after) := by
  obtain ⟨c, rest, shape, digit⟩ := Text.exists_digit n
  have letter (mark : Char) (none : mark.isDigit = false) : ¬ mark = c :=
    (Text.ne_of_isDigit digit none).symm
  have null : word? "null" .absent (Nat.toDigits 10 n ++ ['\x7d']) = none := by
    simp [word?, List.isPrefixOf, shape, letter 'n' (by decide)]
  have truth : word? "true" (.leaf (.truth true)) (Nat.toDigits 10 n ++ ['\x7d']) = none := by
    simp [word?, List.isPrefixOf, shape, letter 't' (by decide)]
  have falsehood : word? "false" (.leaf (.truth false)) (Nat.toDigits 10 n ++ ['\x7d']) = none := by
    simp [word?, List.isPrefixOf, shape, letter 'f' (by decide)]
  have unquoted : quoted? (Nat.toDigits 10 n ++ ['\x7d']) = none := by
    unfold quoted?
    split <;> simp_all
  have full : (Nat.toDigits 10 n).length ≠ 0 := by simp
  have whole : leaf (Nat.toDigits 10 n ++ ['\x7d']) missed =
      look "number" (some (numberNode (Nat.toDigits 10 n), ['\x7d'])) (Nat.toDigits 10 n ++ ['\x7d'])
        (((missed.note (Nat.toDigits 10 n ++ ['\x7d']) "null").note (Nat.toDigits 10 n ++ ['\x7d'])
          "boolean").note (Nat.toDigits 10 n ++ ['\x7d']) "string") := by
    rw [leaf, null, truth, falsehood, unquoted, numberLength_toDigits, List.take_left, List.drop_left,
      if_neg full]
    rfl
  exact ⟨_, whole⟩

/-- A blank before another character is passed over. -/
theorem skip_blank {tail : List Char} (solid : ∀ c ∈ tail.head?, isSpace c = false ∧ c ≠ '/') :
    skip (' ' :: tail) = tail := by
  have dropped : (' ' :: tail).dropWhile isSpace = tail := by
    rw [List.dropWhile_cons_of_pos (by decide)]
    cases tail with
    | nil => rfl
    | cons c tail => exact List.dropWhile_cons_of_neg (by simpa using (solid c rfl).1)
  rw [skip, skipBlanks, dropped]
  split
  · exact absurd rfl (solid '/' rfl).2
  · exact absurd rfl (solid '/' rfl).2
  · rfl

/-- The port is the only member, and its value is what the digits are read as. -/
theorem members_port {tail : List Char} {node : Node}
    (solid : ∀ c ∈ tail.head?, isSpace c = false ∧ c ≠ '/')
    (found : ∀ missed, ∃ after, leaf tail missed = (some (node, ['\x7d']), after)) (fuel : Nat)
    (missed : Missed) : ∃ after, members (fuel + 2) .emptyTable (namingPort (':' :: ' ' :: tail)) missed =
      (some (Node.emptyTable.withMember "port" node, []), after) := by
  have name : key (namingPort (':' :: ' ' :: tail)) missed = (some ("port", ':' :: ' ' :: tail), missed) := rfl
  have colon : skip (':' :: ' ' :: tail) = ':' :: ' ' :: tail := rfl
  have close : skip ['\x7d'] = ['\x7d'] := rfl
  obtain ⟨after, leaf⟩ := found missed
  have value : value (fuel + 1) tail missed = (some (node, ['\x7d']), after) := by
    rw [value, leaf]
  refine ⟨after, ?_⟩
  rw [members]
  simp only [name, colon, skip_blank solid, value, close]
  simp [namingPort]

/-- An object whose only member is the port is read as the value of the port is. -/
theorem document_port {tail : List Char} {node : Node}
    (solid : ∀ c ∈ tail.head?, isSpace c = false ∧ c ≠ '/')
    (found : ∀ missed, ∃ after, leaf tail missed = (some (node, ['\x7d']), after)) :
    document ('\x7b' :: namingPort (':' :: ' ' :: tail)) =
      .ok (Node.emptyTable.withMember "port" node) := by
  have start : skip ('\x7b' :: namingPort (':' :: ' ' :: tail)) =
      '\x7b' :: namingPort (':' :: ' ' :: tail) := rfl
  have inside : skip (namingPort (':' :: ' ' :: tail)) = namingPort (':' :: ' ' :: tail) := rfl
  -- An object is no value of another kind, whatever was looked for in vain before.
  obtain ⟨missed, none⟩ : ∃ missed, leaf ('\x7b' :: namingPort (':' :: ' ' :: tail))
      ⟨('\x7b' :: namingPort (':' :: ' ' :: tail)).length + 1, []⟩ = (none, missed) := ⟨_, rfl⟩
  obtain ⟨after, members⟩ := members_port solid found (tail.length + 5) missed
  have whole : value (('\x7b' :: namingPort (':' :: ' ' :: tail)).length + 1)
      ('\x7b' :: namingPort (':' :: ' ' :: tail))
      ⟨('\x7b' :: namingPort (':' :: ' ' :: tail)).length + 1, []⟩ =
        (some (Node.emptyTable.withMember "port" node, []), after) := by
    rw [value, none]
    simp only [inside]
    exact members
  rw [document, start, whole]
  rfl

/-- A text is read as its characters are. -/
theorem read_eq {text : String} {chars : List Char} (h : text.toList = chars) :
    portForm.format.read text =
      match document chars with
      | .error missed => .error (missed.text chars)
      | .ok node => node.document := by
  subst h
  rfl

/-- JSON5 keeps a port. -/
theorem keeps_port (n : Nat) : portForm.Keeps n := by
  obtain ⟨c, rest, shape, digit⟩ := Text.exists_digit n
  have chars : (portForm.text n).toList =
      '\x7b' :: namingPort (':' :: ' ' :: (Nat.toDigits 10 n ++ ['\x7d'])) := by
    rw [PortForm.toList_text]
    rfl
  have solid : ∀ d ∈ (Nat.toDigits 10 n ++ ['\x7d']).head?, isSpace d = false ∧ d ≠ '/' := by
    have all : ∀ d ∈ Nat.toDigits 10 n, isSpace d = false ∧ d ≠ '/' :=
      Text.forall_of_isDigit (by decide) Text.isDigit_of_mem
    rw [shape]
    rintro _ ⟨⟩
    exact all c (shape ▸ List.mem_cons_self)
  have whole := read_eq chars
  rw [document_port solid (leaf_toDigits n), numberNode_of_natural? (Text.natural?_toDigits n)] at whole
  by_cases fits : Setting.isWhole n = true
  · rw [if_pos fits] at whole
    exact .inl ⟨.whole n, .whole n, whole⟩
  · rw [if_neg fits] at whole
    exact .inr ⟨Bool.eq_false_iff.mpr fits, _, whole⟩

end Json5

/-! ## RON -/

namespace Ron

/-- The port in RON. -/
def portForm : PortForm := ⟨format, "(port: ", ")"⟩

/-- The port is the only member, and its value is what is read behind the colon. -/
theorem members_port {tail : List Char} {read : Result Node}
    (found : ∀ fuel, value (fuel + 1) ⟨' ' :: tail, 1, 6⟩ = read)
    (closes : ∀ node after, read = .ok (node, after) → after.rest = [')']) (fuel : Nat) :
    members (fuel + 2) .emptyTable ⟨namingPort (':' :: ' ' :: tail), 1, 1⟩ =
      read.map fun (node, after) => (Node.emptyTable.withMember "port" node, after.skip 1) := by
  have name : Cursor.run isNameChar ⟨namingPort (':' :: ' ' :: tail), 1, 1⟩ = ['p', 'o', 'r', 't'] := rfl
  have colon : after? ':' (Cursor.skipRun isNameChar ⟨namingPort (':' :: ' ' :: tail), 1, 1⟩) =
      .ok (some ⟨' ' :: tail, 1, 6⟩) := rfl
  have start : skip ⟨namingPort (':' :: ' ' :: tail), 1, 1⟩ =
      .ok ⟨namingPort (':' :: ' ' :: tail), 1, 1⟩ := rfl
  rw [members]
  simp only [start, colon, found, name]
  cases read with
  | error refusal => rfl
  | ok taken =>
    obtain ⟨node, rest, line, column⟩ := taken
    cases closes node _ rfl
    rfl

/-- Between parentheses a name with a colon makes a structure. -/
theorem value_port {tail : List Char} {read : Result Node}
    (found : ∀ fuel, value (fuel + 1) ⟨' ' :: tail, 1, 6⟩ = read)
    (closes : ∀ node after, read = .ok (node, after) → after.rest = [')']) (fuel : Nat) :
    value (fuel + 4) ⟨'(' :: namingPort (':' :: ' ' :: tail), 1, 0⟩ =
      read.map fun (node, after) => (Node.emptyTable.withMember "port" node, after.skip 1) := by
  have start : skip ⟨namingPort (':' :: ' ' :: tail), 1, 1⟩ =
      .ok ⟨namingPort (':' :: ' ' :: tail), 1, 1⟩ := rfl
  have member : startsMember ⟨namingPort (':' :: ' ' :: tail), 1, 1⟩ = true := rfl
  have inside : inParentheses (fuel + 3) ⟨namingPort (':' :: ' ' :: tail), 1, 1⟩ =
      read.map fun (node, after) => (Node.emptyTable.withMember "port" node, after.skip 1) := by
    rw [inParentheses]
    simp only [start, member, members_port found closes]
    rfl
  rw [value]
  exact inside

/-- A structure whose only member is the port is read as the value of the port is. -/
theorem document_port {tail : List Char} {read : Result Node}
    (found : ∀ fuel, value (fuel + 1) ⟨' ' :: tail, 1, 6⟩ = read)
    (closes : ∀ node after, read = .ok (node, after) → after.rest = [')']) :
    document ⟨'(' :: namingPort (':' :: ' ' :: tail), 1, 0⟩ =
      read.map fun (node, _) => Node.emptyTable.withMember "port" node := by
  have first : skipExtensions (('(' :: namingPort (':' :: ' ' :: tail)).length + 1)
      ⟨'(' :: namingPort (':' :: ' ' :: tail), 1, 0⟩ =
        .ok ⟨'(' :: namingPort (':' :: ' ' :: tail), 1, 0⟩ := rfl
  have fuel : 2 * ('(' :: namingPort (':' :: ' ' :: tail)).length + 2 = (2 * tail.length + 12) + 4 := by
    simp only [namingPort, List.length_cons]
    omega
  rw [document]
  simp only [first, fuel, value_port found closes]
  cases read with
  | error refusal => rfl
  | ok taken =>
    obtain ⟨node, rest, line, column⟩ := taken
    cases closes node _ rfl
    rfl

/-- Behind a blank a number is read where a digit stands. -/
theorem value_of_digit {c : Char} {rest : List Char} (fuel : Nat) (digit : c.isDigit = true) :
    value (fuel + 1) ⟨' ' :: c :: rest, 1, 6⟩ = number ⟨c :: rest, 1, 7⟩ := by
  have all : ∀ d ∈ [c], d.isDigit = true := by simpa using digit
  have solid : ∀ d ∈ [c], Text.isBlank d = false := Text.forall_of_isDigit (by decide) all
  have nameless : ∀ d ∈ [c], startsName d = false := Text.forall_of_isDigit (by decide) all
  have different (mark : Char) (none : mark.isDigit = false) : c ≠ mark := Text.ne_of_isDigit digit none
  have behind : Cursor.skipRun Text.isBlank ⟨' ' :: c :: rest, 1, 6⟩ = ⟨c :: rest, 1, 7⟩ := by
    have run : (' ' :: c :: rest).takeWhile Text.isBlank = [' '] := by
      simp [show Text.isBlank ' ' = true by decide, solid]
    rw [Cursor.skipRun, Cursor.run, run]
    rfl
  have start : skip ⟨' ' :: c :: rest, 1, 6⟩ = .ok ⟨c :: rest, 1, 7⟩ := by
    rw [skip, skipBlanks, behind]
    simp [Cursor.startsWith, (different '/' (by decide)).symm]
  rw [value]
  simp only [start]
  split <;> rename_i shape <;> simp_all

/-- A numeral in parentheses is its number, or it is refused. -/
theorem number_toDigits (n : Nat) :
    let next := ⟨[')'], 1, 7 + (Nat.toDigits 10 n).length⟩
    number ⟨Nat.toDigits 10 n ++ [')'], 1, 7⟩ =
      if Setting.isWhole n then .ok (.leaf (.whole n), next) else refuse next "Integer is out of bounds" := by
  have all := Text.isDigit_of_mem (n := n)
  have run : Cursor.run isNumberChar ⟨Nat.toDigits 10 n ++ [')'], 1, 7⟩ = Nat.toDigits 10 n :=
    (Text.span_of_boundary (Text.forall_of_isDigit (by decide) all) (by rintro _ ⟨⟩; decide)).1
  have kept : (Nat.toDigits 10 n).filter (· ≠ '_') = Nat.toDigits 10 n :=
    List.filter_eq_self.mpr (Text.forall_of_isDigit (by decide) all)
  have flat : '\n' ∉ Nat.toDigits 10 n := fun member => absurd (all '\n' member) (by decide)
  have numeral := Text.natural?_toDigits n
  rw [← kept, ← run] at numeral
  rw [number_of_natural? numeral, run, Cursor.skip_append flat]

/-- A text is read from its start. -/
theorem read_eq (text : String) :
    portForm.format.read text =
      match document (Cursor.ofText text) with
      | .error refusal => .error refusal.text
      | .ok node => node.document := rfl

/-- RON keeps a port. -/
theorem keeps_port (n : Nat) : portForm.Keeps n := by
  obtain ⟨c, rest, shape, digit⟩ := Text.exists_digit n
  have chars : Cursor.ofText (portForm.text n) =
      ⟨'(' :: namingPort (':' :: ' ' :: (Nat.toDigits 10 n ++ [')'])), 1, 0⟩ := by
    rw [Cursor.ofText, PortForm.toList_text]
    rfl
  have found (fuel : Nat) : value (fuel + 1) ⟨' ' :: (Nat.toDigits 10 n ++ [')']), 1, 6⟩ =
      number ⟨Nat.toDigits 10 n ++ [')'], 1, 7⟩ := by
    rw [shape]
    exact value_of_digit fuel digit
  have whole := read_eq (portForm.text n)
  by_cases fits : Setting.isWhole n = true
  · rw [number_toDigits, if_pos fits] at found
    rw [chars, document_port found (by rintro _ _ ⟨⟩; rfl)] at whole
    exact .inl ⟨.whole n, .whole n, whole⟩
  · rw [number_toDigits, if_neg fits, refuse] at found
    rw [chars, document_port found nofun] at whole
    exact .inr ⟨Bool.eq_false_iff.mpr fits, _, whole⟩

end Ron

end ChatGateway.Config
