import ChatGateway.Proofs.Config.PortForm

/-!
# The port in YAML

A port is the member of a table without brackets: a name, a colon, and a scalar up to the end of the
text. YAML keeps it.
-/

namespace ChatGateway.Config.Yaml

open ChatGateway.Text (Cursor)

/-- The port in YAML. -/
def portForm : PortForm := ⟨format, "port: ", ""⟩

/-! ## Scalars -/

/-- No mark between documents starts with another character. -/
theorem atMarker_of_head {c : Char} {rest : List Char} {line column : Nat} (hyphen : c ≠ '-')
    (dot : c ≠ '.') : atMarker ⟨c :: rest, line, column⟩ = false := by
  simp [atMarker, Cursor.startsWith, hyphen.symm, dot.symm]

/-- Before its colon the name of the port is a scalar, in whatever column its table stands. -/
theorem scalar_port (indent : Int) (tail : List Char) :
    scalar false indent ⟨namingPort (':' :: ' ' :: tail), 1, 0⟩ =
      .ok (plainNode "port", "port", ⟨':' :: ' ' :: tail, 1, 4⟩) := by
  have letter : atMarker ⟨namingPort (':' :: ' ' :: tail), 1, 0⟩ = false :=
    atMarker_of_head (by decide) (by decide)
  have word : plainWord false (namingPort (':' :: ' ' :: tail)) = 4 := rfl
  have stop : plainWord false (':' :: ' ' :: tail) = 0 := rfl
  have head : (namingPort (':' :: ' ' :: tail)).head? = some 'p' := rfl
  have taken : (namingPort (':' :: ' ' :: tail)).take 4 = ['p', 'o', 'r', 't'] := rfl
  have behind : Cursor.skip 4 ⟨namingPort (':' :: ' ' :: tail), 1, 0⟩ = ⟨':' :: ' ' :: tail, 1, 4⟩ := rfl
  have next : Cursor.skipRun isSpace ⟨':' :: ' ' :: tail, 1, 4⟩ = ⟨':' :: ' ' :: tail, 1, 4⟩ := rfl
  have again (fuel : Nat) (out : List Char) :
      plain false indent (fuel + 1) out ⟨':' :: ' ' :: tail, 1, 4⟩ ⟨':' :: ' ' :: tail, 1, 4⟩ =
        (String.ofList out, ⟨':' :: ' ' :: tail, 1, 4⟩) := by
    simp [plain, stop]
  have read (fuel : Nat) : plain false indent (fuel + 2) [] ⟨namingPort (':' :: ' ' :: tail), 1, 0⟩
      ⟨namingPort (':' :: ' ' :: tail), 1, 0⟩ = ("port", ⟨':' :: ' ' :: tail, 1, 4⟩) := by
    rw [plain]
    simp [letter, word, behind, next, head, taken, again, folded]
  have fuel : (namingPort (':' :: ' ' :: tail)).length + 1 = ((' ' :: tail).length + 4) + 2 := rfl
  unfold scalar
  simp only [fuel, read]
  rfl

/-- A word without blanks and colons goes to the end of the text. -/
theorem plainWord_of_solid {word : List Char} (solid : ∀ c ∈ word, isSpace c = false ∧ c ≠ ':') :
    plainWord false word = word.length := by
  induction word with
  | nil => rfl
  | cons c word ih =>
    obtain ⟨⟨space, colon⟩, later⟩ := List.forall_mem_cons.mp solid
    simp [plainWord, space, colon, ih later]

/-- At the end of the text a numeral is a scalar. -/
theorem scalar_toDigits (n column : Nat) :
    scalar false 0 ⟨Nat.toDigits 10 n, 1, column⟩ =
      .ok (plainNode (Text.decimal n), Text.decimal n, ⟨[], 1, column + (Nat.toDigits 10 n).length⟩) := by
  have all := Text.isDigit_of_mem (n := n)
  have word : plainWord false (Nat.toDigits 10 n) = (Nat.toDigits 10 n).length :=
    plainWord_of_solid (Text.forall_of_isDigit (by decide) all)
  have flat : '\n' ∉ Nat.toDigits 10 n := fun member => absurd (all '\n' member) (by decide)
  have behind : Cursor.skip (Nat.toDigits 10 n).length ⟨Nat.toDigits 10 n ++ [], 1, column⟩ =
      ⟨[], 1, column + (Nat.toDigits 10 n).length⟩ := Cursor.skip_append flat
  rw [List.append_nil] at behind
  obtain ⟨c, rest, shape, digit⟩ := Text.exists_digit n
  have different (mark : Char) (none : mark.isDigit = false) : c ≠ mark := Text.ne_of_isDigit digit none
  have start : atMarker ⟨Nat.toDigits 10 n, 1, column⟩ = false := by
    rw [shape]
    exact atMarker_of_head (different '-' (by decide)) (different '.' (by decide))
  have again (fuel : Nat) (out : List Char) (column : Nat) :
      plain false 0 (fuel + 1) out ⟨[], 1, column⟩ ⟨[], 1, column⟩ = (String.ofList out, ⟨[], 1, column⟩) := by
    simp [plain, plainWord]
  have next (column : Nat) : Cursor.skipRun isSpace ⟨[], 1, column⟩ = ⟨[], 1, column⟩ := rfl
  have read (fuel : Nat) : plain false 0 (fuel + 2) [] ⟨Nat.toDigits 10 n, 1, column⟩
      ⟨Nat.toDigits 10 n, 1, column⟩ = (Text.decimal n, ⟨[], 1, column + (Nat.toDigits 10 n).length⟩) := by
    have head : (Nat.toDigits 10 n).head? ≠ some '#' := by
      rw [shape]
      simpa using different '#' (by decide)
    rw [plain]
    simp [start, word, behind, next, again, head, folded, Text.decimal]
  have fuel : (Nat.toDigits 10 n).length + 1 = rest.length + 2 := by rw [shape]; rfl
  unfold scalar
  simp only [fuel, read]
  rw [shape]
  simp [different '"' (by decide), different '\x27' (by decide), different '%' (by decide),
    different '@' (by decide), different '\x60' (by decide)]

/-! ## The table -/

section Table

variable {c : Char} {rest : List Char} {node : Node} {text : String} {column : Nat}

/-- Behind the colon and a blank the numeral is next. -/
theorem nextToken_digit (digit : c.isDigit = true) :
    nextToken ⟨' ' :: c :: rest, 1, 5⟩ = ⟨c :: rest, 1, 6⟩ := by
  have all : ∀ d ∈ [c], d.isDigit = true := by simpa using digit
  have solid : ∀ d ∈ [c], isSpace d = false := Text.forall_of_isDigit (by decide) all
  have run : (' ' :: c :: rest).takeWhile isSpace = [' '] := by
    simp [show isSpace ' ' = true by decide, solid]
  have behind : Cursor.skipRun isSpace ⟨' ' :: c :: rest, 1, 5⟩ = ⟨c :: rest, 1, 6⟩ := by
    rw [Cursor.skipRun, Cursor.run, run]
    rfl
  rw [nextToken, skipComments, behind]
  have mark : c ≠ '#' := Text.ne_of_isDigit digit (by decide)
  simp [mark]

/-- On the line of its name a scalar that starts with a digit is a node of its own. -/
theorem blockNode_digit (digit : c.isDigit = true)
    (found : scalar false 0 ⟨c :: rest, 1, 6⟩ = .ok (node, text, ⟨[], 1, column⟩)) (fuel : Nat) :
    blockNode (fuel + 2) 0 { isInline := true } ⟨⟨c :: rest, 1, 6⟩, []⟩ =
      .ok (node, ⟨⟨[], 1, column⟩, []⟩) := by
  have different (mark : Char) (none : mark.isDigit = false) : c ≠ mark := Text.ne_of_isDigit digit none
  have noKey : isKey ⟨c :: rest, 1, 6⟩ ⟨[], 1, column⟩ = false := rfl
  have noColon : beforeColon ⟨[], 1, column⟩ = false := rfl
  have noHyphen : atMark '-' ⟨c :: rest, 1, 6⟩ = false := by
    simp [atMark, different '-' (by decide)]
  have inner : blockScalar (fuel + 1) 0 { isInline := true } ⟨⟨c :: rest, 1, 6⟩, []⟩ =
      .ok (node, ⟨⟨[], 1, column⟩, []⟩) := by
    simp [blockScalar, different '[' (by decide), different '\x7b' (by decide), different '*' (by decide),
      found, State.at, noKey, noColon, underTag]
  rw [blockNode]
  simp only [noHyphen, Bool.false_eq_true, if_false, List.head?_cons]
  split
  · rename_i same
    exact absurd (Option.some.inj same) (different '&' (by decide))
  · rename_i same
    exact absurd (Option.some.inj same) (different '!' (by decide))
  · rename_i same
    exact absurd (Option.some.inj same) (different '|' (by decide))
  · rename_i same
    exact absurd (Option.some.inj same) (different '>' (by decide))
  · exact inner

/-- The value of the member is its scalar. -/
theorem memberValue_port (digit : c.isDigit = true)
    (found : scalar false 0 ⟨c :: rest, 1, 6⟩ = .ok (node, text, ⟨[], 1, column⟩)) (fuel : Nat) :
    memberValue (fuel + 4) 0 1 ⟨⟨' ' :: c :: rest, 1, 5⟩, []⟩ = .ok (node, ⟨⟨[], 1, column⟩, []⟩) := by
  have noEnd : atEnd ⟨c :: rest, 1, 6⟩ = false := rfl
  rw [memberValue]
  simp only [nextToken_digit digit, noEnd]
  rw [blockValue]
  simp only [nextToken_digit digit, noEnd]
  exact blockNode_digit digit found fuel

/-- The table has the port as its only member, and the text ends behind it. -/
theorem blockTable_port (digit : c.isDigit = true)
    (found : scalar false 0 ⟨c :: rest, 1, 6⟩ = .ok (node, text, ⟨[], 1, column⟩)) (fuel : Nat) :
    blockTable (fuel + 5) 0 .emptyTable ⟨⟨namingPort (':' :: ' ' :: c :: rest), 1, 0⟩, []⟩ =
      .ok (Node.emptyTable.withMember "port" node, ⟨⟨[], 1, column⟩, []⟩) := by
  have noHyphen : atMark '-' ⟨namingPort (':' :: ' ' :: c :: rest), 1, 0⟩ = false := rfl
  have isKey : isKey ⟨namingPort (':' :: ' ' :: c :: rest), 1, 0⟩ ⟨':' :: ' ' :: c :: rest, 1, 4⟩ = true := rfl
  have colon : Cursor.skipRun isGap ⟨':' :: ' ' :: c :: rest, 1, 4⟩ = ⟨':' :: ' ' :: c :: rest, 1, 4⟩ := rfl
  have behind : Cursor.skip 1 ⟨':' :: ' ' :: c :: rest, 1, 4⟩ = ⟨' ' :: c :: rest, 1, 5⟩ := rfl
  have name : keyName (plainNode "port") "port" = "port" := rfl
  have last : nextToken ⟨[], 1, column⟩ = ⟨[], 1, column⟩ := rfl
  have ended : atEnd ⟨[], 1, column⟩ = true := rfl
  rw [blockTable]
  simp only [noHyphen, scalar_port, isKey, colon, behind, State.at, memberValue_port digit found, last,
    name, ended]
  rfl

/-- The name of the port opens the table. -/
theorem blockNode_port (digit : c.isDigit = true)
    (found : scalar false 0 ⟨c :: rest, 1, 6⟩ = .ok (node, text, ⟨[], 1, column⟩)) (fuel : Nat) :
    blockNode (fuel + 7) (-1) {} ⟨⟨namingPort (':' :: ' ' :: c :: rest), 1, 0⟩, []⟩ =
      .ok (Node.emptyTable.withMember "port" node, ⟨⟨[], 1, column⟩, []⟩) := by
  have noHyphen : atMark '-' ⟨namingPort (':' :: ' ' :: c :: rest), 1, 0⟩ = false := rfl
  have head : (namingPort (':' :: ' ' :: c :: rest)).head? = some 'p' := rfl
  have scalar : blockScalar (fuel + 6) (-1) {} ⟨⟨namingPort (':' :: ' ' :: c :: rest), 1, 0⟩, []⟩ =
      .ok (Node.emptyTable.withMember "port" node, ⟨⟨[], 1, column⟩, []⟩) := by
    rw [blockScalar]
    simp only [head, scalar_port, State.at]
    exact blockTable_port digit found fuel
  rw [blockNode]
  simp only [noHyphen, head]
  exact scalar

/-- Nothing comes before the name of the port. -/
theorem skipDirectives_port (tail : List Char) (fuel : Nat) :
    skipDirectives (fuel + 2) (skipEnds (fuel + 2) ⟨namingPort (':' :: ' ' :: tail), 1, 0⟩) =
      ⟨namingPort (':' :: ' ' :: tail), 1, 0⟩ := by
  have letter : atMarker ⟨namingPort (':' :: ' ' :: tail), 1, 0⟩ = false :=
    atMarker_of_head (by decide) (by decide)
  have here : nextToken ⟨namingPort (':' :: ' ' :: tail), 1, 0⟩ =
      ⟨namingPort (':' :: ' ' :: tail), 1, 0⟩ := rfl
  have ends : skipEnds (fuel + 2) ⟨namingPort (':' :: ' ' :: tail), 1, 0⟩ =
      ⟨namingPort (':' :: ' ' :: tail), 1, 0⟩ := by
    rw [skipEnds, here, letter]
    rfl
  rw [ends, skipDirectives, here]
  rfl

/-- At the end of the text there is no other document. -/
theorem nodes_end (fuel : Nat) (read : Node) : nodes (fuel + 2) [read] ⟨[], 1, column⟩ = .ok [read] := by
  have last : nextToken ⟨[], 1, column⟩ = ⟨[], 1, column⟩ := rfl
  have noMarker : atMarker ⟨[], 1, column⟩ = false := by
    simp [atMarker, Cursor.startsWith]
  simp [nodes, skipDirectives, skipEnds, last, noMarker]

/-- A table whose only member is the port is read as the scalar of the port is. -/
theorem nodes_port (digit : c.isDigit = true)
    (found : scalar false 0 ⟨c :: rest, 1, 6⟩ = .ok (node, text, ⟨[], 1, column⟩)) (fuel : Nat) :
    nodes (fuel + 3) [] ⟨namingPort (':' :: ' ' :: c :: rest), 1, 0⟩ =
      .ok [Node.emptyTable.withMember "port" node] := by
  have letter : atMarker ⟨namingPort (':' :: ' ' :: c :: rest), 1, 0⟩ = false :=
    atMarker_of_head (by decide) (by decide)
  have noEnd : atEnd ⟨namingPort (':' :: ' ' :: c :: rest), 1, 0⟩ = false := by
    rw [atEnd, letter]
    rfl
  have enough : (namingPort (':' :: ' ' :: c :: rest)).length +
      (namingPort (':' :: ' ' :: c :: rest)).length + 2 = (2 * rest.length + 9) + 7 := by
    simp only [namingPort, List.length_cons]
    omega
  rw [nodes]
  simp only [skipDirectives_port, letter, Bool.false_and, Bool.false_eq_true, if_false, noEnd, enough,
    blockNode_port digit found]
  exact nodes_end fuel _

end Table

/-! ## The text -/

/-- Without carriage returns the line ends of a text stay as they are. -/
theorem withLineEnds_of_plain {chars : List Char} (plain : '\r' ∉ chars) : withLineEnds chars = chars := by
  induction chars with
  | nil => rfl
  | cons c chars ih =>
    obtain ⟨here, later⟩ := not_or.mp (mt List.mem_cons.mpr plain)
    rw [withLineEnds, ih later, if_neg (Ne.symm here)]
    rintro _ rfl
    exact absurd rfl here

/-- A text is read as its characters are when its lines end in one way. -/
theorem read_eq {text : String} {chars : List Char} (h : withLineEnds text.toList = chars) :
    portForm.format.read text =
      match nodes (chars.length + 1) [] ⟨chars, 1, 0⟩ with
      | .error refusal => .error refusal.text
      | .ok nodes => documentOf nodes := by
  subst h
  rfl

/-- YAML keeps a port. -/
theorem keeps_port (n : Nat) : portForm.Keeps n := by
  obtain ⟨c, rest, shape, digit⟩ := Text.exists_digit n
  have chars : (portForm.text n).toList = namingPort (':' :: ' ' :: c :: rest) := by
    rw [PortForm.toList_text, shape]
    exact congrArg _ (List.append_nil _)
  have plain : '\r' ∉ namingPort (':' :: ' ' :: c :: rest) := by
    have digits : '\r' ∉ c :: rest := fun member =>
      absurd (Text.isDigit_of_mem (n := n) '\r' (shape ▸ member)) (by decide)
    simpa [namingPort] using digits
  have found := scalar_toDigits n 6
  rw [shape] at found
  have read := nodes_port digit found (rest.length + 5)
  obtain ⟨setting, names, numeral⟩ := names_plainNode (Text.natural?_decimal n)
  have whole := read_eq (withLineEnds_of_plain (chars ▸ plain))
  have fuel : (namingPort (':' :: ' ' :: c :: rest)).length + 1 = rest.length + 5 + 3 := rfl
  rw [chars, fuel, read, numeral] at whole
  exact .inl ⟨setting, names, whole⟩

end ChatGateway.Config.Yaml
