import ChatGateway.Json.Value
import ChatGateway.Json.Writer
import ChatGateway.Proofs.Text.Octets

/-!
# Reading back what was written

A written text is read back as that text, whatever follows it. So an object that was written
is read as an object with exactly the members that it was written from.
-/

namespace ChatGateway.Json

/-! ## Texts -/

/-- A hexadecimal digit is read as what it was written for. -/
theorem hexOctet_hexDigit : ∀ n < 16, hexOctet? (Bytes.octet (Text.hexDigit n)) = some n := by
  decide

/-- A code point of the basic range is written as itself. -/
theorem codePoint_of_basic {b : UInt8} (h : b < 0x80) : codePoint b.toNat = [b] := by
  have basic : (Bytes.character b).toNat < 0x80 := by
    simpa [Bytes.toNat_character, UInt8.lt_iff_toNat_lt] using h
  have single : String.singleton (Bytes.character b) = String.ofList [Bytes.character b] := by simp
  change Bytes.ofText (String.singleton (Bytes.character b)) = [b]
  rw [single, Bytes.ofText_ofList_of_basic (by simpa using basic)]
  simp [Bytes.octet_character]

/-- The escape with two digits stands for its octet. -/
theorem hexQuad_written {b : UInt8} (h : b < 0x20) (rest : Bytes) :
    hexQuad (0x30 :: 0x30 :: Bytes.octet (Text.hexDigit (b.toNat / 16)) ::
      Bytes.octet (Text.hexDigit (b.toNat % 16)) :: rest) = .ok (b.toNat, rest) := by
  have hb : b.toNat < 0x20 := by simpa [UInt8.lt_iff_toNat_lt] using h
  have zero : hexOctet? 0x30 = some 0 := by decide
  have high := hexOctet_hexDigit (b.toNat / 16) (by omega)
  have low := hexOctet_hexDigit (b.toNat % 16) (by omega)
  have value : ((0 * 16 + 0) * 16 + b.toNat / 16) * 16 + b.toNat % 16 = b.toNat := by omega
  simp only [hexQuad, zero, high, low, value]

/-- An escaped octet is read as that octet. -/
theorem textOctets_escaped {tail octets rest seen : Bytes} (h : escaped tail = .ok (octets, rest)) :
    textOctets (escapeMark :: tail) seen = textOctets rest (octets.reverse ++ seen) := by
  rw [textOctets]
  simp only [show escapeMark ≠ quoteMark by decide, if_false, if_true]
  split
  · simp_all
  · rename_i o r he
    rw [h] at he
    cases he
    rfl

/-- An octet that is no mark and no control character stands for itself. -/
theorem textOctets_plain {b : UInt8} (hq : b ≠ quoteMark) (he : b ≠ escapeMark) (hc : ¬ b < 0x20)
    (rest seen : Bytes) : textOctets (b :: rest) seen = textOctets rest (b :: seen) := by
  rw [textOctets]
  simp only [hq, he, hc, if_false]

/-- A letter after the escape mark stands for one octet. -/
theorem textOctets_letter {letter b : UInt8} (h : letterEscape? letter = some b) (rest seen : Bytes) :
    textOctets (escapeMark :: letter :: rest) seen = textOctets rest (b :: seen) := by
  have read : escaped (letter :: rest) = .ok ([b], rest) := by simp only [escaped, h]
  exact textOctets_escaped read

/-- An octet is written as an escape with a letter, as one with digits, or as itself. -/
theorem writtenOctet_cases (b : UInt8) :
    (∃ letter, writtenOctet b = [escapeMark, letter] ∧ letterEscape? letter = some b) ∨
      (b < 0x20 ∧ writtenOctet b = [escapeMark, 0x75, 0x30, 0x30,
        Bytes.octet (Text.hexDigit (b.toNat / 16)), Bytes.octet (Text.hexDigit (b.toNat % 16))]) ∨
      (b ≠ quoteMark ∧ b ≠ escapeMark ∧ ¬ b < 0x20 ∧ writtenOctet b = [b]) := by
  by_cases quote : b = 0x22
  · subst quote
    exact .inl ⟨0x22, rfl, by decide⟩
  by_cases escape : b = 0x5C
  · subst escape
    exact .inl ⟨0x5C, rfl, by decide⟩
  by_cases back : b = 0x08
  · subst back
    exact .inl ⟨0x62, rfl, by decide⟩
  by_cases feed : b = 0x0C
  · subst feed
    exact .inl ⟨0x66, rfl, by decide⟩
  by_cases line : b = 0x0A
  · subst line
    exact .inl ⟨0x6E, rfl, by decide⟩
  by_cases carriage : b = 0x0D
  · subst carriage
    exact .inl ⟨0x72, rfl, by decide⟩
  by_cases tab : b = 0x09
  · subst tab
    exact .inl ⟨0x74, rfl, by decide⟩
  simp only [writtenOctet, quoteMark, escapeMark, quote, escape, back, feed, line, carriage, tab,
    if_false]
  by_cases control : b < 0x20
  · rw [if_pos control]
    exact .inr (.inl ⟨control, rfl⟩)
  · rw [if_neg control]
    exact .inr (.inr ⟨quote, escape, control, rfl⟩)

/-- The escape of a control character is read as that character. -/
theorem escaped_control {b : UInt8} (h : b < 0x20) (rest : Bytes) :
    escaped (0x75 :: 0x30 :: 0x30 :: Bytes.octet (Text.hexDigit (b.toNat / 16)) ::
      Bytes.octet (Text.hexDigit (b.toNat % 16)) :: rest) = .ok ([b], rest) := by
  have small : b.toNat < 0x20 := by simpa [UInt8.lt_iff_toNat_lt] using h
  have basic : b < 0x80 := UInt8.lt_iff_toNat_lt.mpr (by simp; omega)
  have noLetter : letterEscape? 0x75 = none := by decide
  have noSecond : (0xDC00 ≤ b.toNat && b.toNat ≤ 0xDFFF) = false := by simp; omega
  rw [escaped, noLetter]
  simp only [hexQuad_written h, noSecond, codePoint_of_basic basic]
  simp
  exact fun high => by omega

/-- A written octet is read as that octet. -/
theorem textOctets_writtenOctet (b : UInt8) (rest seen : Bytes) :
    textOctets (writtenOctet b ++ rest) seen = textOctets rest (b :: seen) := by
  rcases writtenOctet_cases b with ⟨letter, hw, hl⟩ | ⟨control, hw⟩ | ⟨hq, he, hc, hw⟩
  · rw [hw]
    exact textOctets_letter hl rest seen
  · rw [hw]
    exact textOctets_escaped (escaped_control control rest)
  · rw [hw]
    exact textOctets_plain hq he hc rest seen

/-- Written octets are read as they were. -/
theorem textOctets_written (octets rest seen : Bytes) :
    textOctets (octets.flatMap writtenOctet ++ quoteMark :: rest) seen =
      .ok (seen.reverse ++ octets, rest) := by
  induction octets generalizing seen with
  | nil => simp [textOctets]
  | cons b octets ih =>
    rw [List.flatMap_cons, List.append_assoc, textOctets_writtenOctet, ih]
    simp

/-- A written text is read back, whatever follows it. -/
theorem textAfterMark_written (text : String) (rest : Bytes) :
    textAfterMark ((Bytes.ofText text).flatMap writtenOctet ++ quoteMark :: rest) =
      .ok (text, rest) := by
  simp [textAfterMark, textOctets_written]

/-- A text is written as a mark, its octets and a mark again. -/
theorem writeText_append (text : String) (rest : Bytes) :
    writeText text ++ rest =
      quoteMark :: ((Bytes.ofText text).flatMap writtenOctet ++ quoteMark :: rest) := by
  simp [writeText]

/-! ## Objects -/

/-- An octet that is no space is not passed over. -/
theorem skipSpace_of_isSpace {b : UInt8} (h : isSpace b = false) (rest : Bytes) :
    skipSpace (b :: rest) = b :: rest := by
  simp [skipSpace, h]

/-- No blanks stand before a mark. -/
theorem skipSpace_quoteMark (rest : Bytes) : skipSpace (quoteMark :: rest) = quoteMark :: rest :=
  skipSpace_of_isSpace (by decide) rest

/-- A written text is read back as a value. -/
theorem readScalar_written (text : String) (rest : Bytes) :
    readScalar quoteMark ((Bytes.ofText text).flatMap writtenOctet ++ quoteMark :: rest) =
      .ok (.text text, rest) := by
  have noDigit : isDigit quoteMark = false := by decide
  simp only [readScalar, show quoteMark ≠ 0x6E by decide, show quoteMark ≠ 0x74 by decide,
    show quoteMark ≠ 0x66 by decide, show quoteMark ≠ 0x2D by decide, noDigit, if_false, if_true,
    textAfterMark_written]
  rfl

/-- A written text is read back as a value at any depth. -/
theorem read_upTo_written (depth : Nat) (text : String) (rest : Bytes) :
    (Value.upTo depth).read (writeText text ++ rest) = .ok (.text text, rest) := by
  rw [writeText_append]
  cases depth with
  | zero =>
    simp only [Value.upTo, readFlat, skipSpace_quoteMark, readScalar_written]
    rfl
  | succ depth =>
    simp only [Value.upTo, readValue, skipSpace_quoteMark, readScalar_written]
    rfl

/-- The first name stands behind the opening mark. -/
theorem nextName_quoteMark (t : Bytes) : nextName true (quoteMark :: t) = .ok (some t) := by
  simp [nextName, skipSpace_quoteMark, show quoteMark ≠ 0x7D by decide]

/-- The value of a member stands behind the colon. -/
theorem readMember_colon {α : Type} (r : Reader α) (value : Bytes) :
    readMember r (0x3A :: value) = r.read value := by
  simp [readMember, skipColon, skipSpace_of_isSpace (show isSpace 0x3A = false by decide)]

/-- Behind its name a member is read, and it goes before those that follow. -/
theorem readPairs_member {α : Type} {r : Reader α} {taken : List (String × α)} {s t u : Bytes}
    {name : String} (hn : nextName taken.isEmpty s = .ok (some t))
    (hk : textAfterMark t = .ok (name, u)) :
    readPairs r taken s =
      match readMember r u with
      | .error fault => .error (fault.inside (.member name))
      | .ok (value, v) => readPairs r ((name, value) :: taken) v := by
  conv => lhs; rw [readPairs]
  split
  · simp_all
  · simp_all
  · rename_i next
    rw [hn] at next
    cases next
    split
    · simp_all
    · rename_i named
      rw [hk] at named
      cases named
      cases readMember r u <;> rfl

/-- One member that is read with its name goes before those that follow. -/
theorem readPairs_next {α : Type} {r : Reader α} {taken : List (String × α)} {s t u v : Bytes}
    {name : String} {value : α} (hn : nextName taken.isEmpty s = .ok (some t))
    (hk : textAfterMark t = .ok (name, u)) (hv : readMember r u = .ok (value, v)) :
    readPairs r taken s = readPairs r ((name, value) :: taken) v := by
  rw [readPairs_member hn hk, hv]

/-- The closing bracket ends the members and is left. -/
theorem readPairs_closing {α : Type} (r : Reader α) (taken : List (String × α)) (rest : Bytes) :
    readPairs r taken (0x7D :: rest) = .ok (taken.reverse, 0x7D :: rest) := by
  have closes : nextName taken.isEmpty (0x7D :: rest) = .ok none := by
    simp [nextName, skipSpace_of_isSpace (show isSpace 0x7D = false by decide)]
  rw [readPairs]
  split <;> simp_all

/-- The value of a written member is read behind its name. -/
theorem readMember_written (depth : Nat) (text : String) (rest : Bytes) :
    readMember (Value.upTo depth) (0x3A :: (writeText text ++ rest)) = .ok (.text text, rest) := by
  rw [readMember_colon, read_upTo_written]

/-- A member is written as its quoted name, a colon and its text. -/
theorem writeMember_append (member : String × String) (rest : Bytes) :
    writeMember member ++ rest =
      quoteMark :: ((Bytes.ofText member.1).flatMap writtenOctet ++
        quoteMark :: (0x3A :: (writeText member.2 ++ rest))) := by
  simp [writeMember, writeText]

/-- A member as a value of any kind. -/
def asValue (member : String × String) : String × Value := (member.1, .text member.2)

/-- Members behind others are read in order. -/
theorem readPairs_written (depth : Nat) (members : List (String × String))
    {taken : List (String × Value)} (h : taken ≠ []) :
    readPairs (Value.upTo depth) taken (members.flatMap (0x2C :: writeMember ·) ++ [0x7D]) =
      .ok (taken.reverse ++ members.map asValue, [0x7D]) := by
  induction members generalizing taken with
  | nil => simpa using readPairs_closing (Value.upTo depth) taken []
  | cons member members ih =>
    have later : taken.isEmpty = false := by simpa using h
    have next (t : Bytes) : nextName taken.isEmpty (0x2C :: quoteMark :: t) = .ok (some t) := by
      simp [nextName, later, skipSpace_quoteMark,
        skipSpace_of_isSpace (show isSpace 0x2C = false by decide)]
    rw [List.flatMap_cons, List.append_assoc, List.cons_append, writeMember_append,
      readPairs_next (next _) (textAfterMark_written member.1 _) (readMember_written depth member.2 _),
      ih (by simp)]
    simp [asValue]

/-- Members with commas between them are the first one, and the others with a comma before each. -/
theorem flatten_intersperse (member : String × String) (members : List (String × String)) :
    (((member :: members).map writeMember).intersperse [0x2C]).flatten =
      writeMember member ++ members.flatMap (0x2C :: writeMember ·) := by
  induction members generalizing member with
  | nil => simp
  | cons next members ih =>
    simp only [List.map_cons] at ih
    simp [ih next]

/-- A written object is read as an object with the same members and nothing behind it. -/
theorem decode_writeObject (members : List (String × String)) :
    Value.reader.decode (writeObject members) = .ok (.object (members.map asValue)) := by
  have inside : readPairs (Value.upTo 126) []
      (((members.map writeMember).intersperse [0x2C]).flatten ++ [0x7D]) =
        .ok (members.map asValue, [0x7D]) := by
    cases members with
    | nil => exact readPairs_closing (Value.upTo 126) [] []
    | cons member members =>
      have next (t u v : Bytes) (name : String) (value : Value)
          (hk : textAfterMark t = .ok (name, u)) (hv : readMember (Value.upTo 126) u = .ok (value, v)) :
          readPairs (Value.upTo 126) [] (quoteMark :: t) =
            readPairs (Value.upTo 126) [(name, value)] v := readPairs_next (nextName_quoteMark t) hk hv
      rw [flatten_intersperse, List.append_assoc, writeMember_append,
        next _ _ _ _ _ (textAfterMark_written member.1 _) (readMember_written 126 member.2 _),
        readPairs_written 126 members (by simp)]
      simp [asValue]
  have opened : skipSpace (writeObject members) = writeObject members :=
    skipSpace_of_isSpace (show isSpace 0x7B = false by decide) _
  have closing : closeObject [0x7D] = ([], none) := by decide
  have read : Value.reader.read (writeObject members) =
      .ok (.object (members.map asValue), []) := by
    change readValue (Value.upTo 126) (writeObject members) = _
    rw [readValue, opened]
    simp only [writeObject, List.cons_append, show (0x7B : UInt8) ≠ 0x5B by decide, if_false, if_true,
      inside, closedBy, closing]
  rw [Reader.decode, read]
  rfl

end ChatGateway.Json
