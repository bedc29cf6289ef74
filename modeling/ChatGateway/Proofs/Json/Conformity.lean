import ChatGateway.Proofs.Json.Economy

/-!
# What is written is a document

A written text is one of the grammar, which stands for the characters that were written, and a written
object is a document of the grammar, whatever its members are. The octets are those of characters, since
an escape consists of characters of the basic range and no octet of the other characters is escaped.
-/

namespace ChatGateway.Json

open Grammar

/-- Octets of the basic range are those of characters. -/
theorem exists_chars_of_basic {octets : Bytes} (h : ∀ b ∈ octets, b < 0x80) :
    ∃ s, octets = Bytes.ofChars s := by
  have spelled := Bytes.ofText_ofList_character h
  rw [Bytes.ofText_eq_ofChars] at spelled
  exact ⟨_, spelled.symm⟩

/-- What is written for a basic octet is basic. -/
theorem writtenOctet_basic {b : UInt8} (h : b < 0x80) : ∀ octet ∈ writtenOctet b, octet < 0x80 := by
  have digit (n : Nat) (small : n < 16) : Bytes.octet (Text.hexDigit n) < 0x80 :=
    Bytes.octet_basic (Text.hexDigit_visible n small).2
  rcases writtenOctet_cases b with ⟨letter, hw, hl⟩ | ⟨_, hw⟩ | ⟨_, _, _, hw⟩
  · obtain ⟨basic, _⟩ := exists_letterMeaning hl
    rw [hw]
    simpa using ⟨by decide, basic⟩
  · have number := b.toNat_lt
    rw [hw]
    simpa using ⟨by decide, digit (b.toNat / 16) (by omega), digit (b.toNat % 16) (by omega)⟩
  · rw [hw]
    simpa using h

/-- Characters are written in characters. -/
theorem exists_chars_written (chars : List Char) : ∃ s, written (Bytes.ofChars chars) = Bytes.ofChars s := by
  induction chars with
  | nil => exact ⟨[], rfl⟩
  | cons c chars ih =>
    obtain ⟨rest, later⟩ := ih
    have first : ∃ front, written (String.utf8EncodeChar c) = Bytes.ofChars front := by
      by_cases basic : c.toNat < 0x80
      · rw [Bytes.utf8EncodeChar_of_basic basic]
        apply exists_chars_of_basic
        simpa [written] using writtenOctet_basic (Bytes.octet_basic basic)
      · rw [written_above (Nat.le_of_not_lt basic)]
        exact ⟨[c], by simp [Bytes.ofChars]⟩
    obtain ⟨front, this⟩ := first
    exact ⟨front ++ rest, by rw [Bytes.ofChars_cons, written_append, this, later, Bytes.ofChars_append]⟩

/-- A written text stands for its characters. -/
theorem exists_quotes (text : String) : ∃ s, writeText text = Bytes.ofChars s ∧ Quotes s text.toList := by
  obtain ⟨s, same⟩ := exists_chars_written text.toList
  have quote : Bytes.octet '"' = quoteMark := by decide
  have inside : (Bytes.ofText text).flatMap writtenOctet = Bytes.ofChars s := by
    rw [Bytes.ofText_eq_ofChars]
    exact same
  -- It is read back, so it is spelled as the grammar says.
  have read := textAfterMark_written text []
  have marked : (Bytes.ofText text).flatMap writtenOctet ++ [quoteMark] = Bytes.ofChars (s ++ ['"']) := by
    rw [inside, Bytes.ofChars_append, Bytes.ofChars_cons_of_basic (by decide), quote]
    rfl
  rw [marked] at read
  obtain ⟨raw, t, cut, spells, rest⟩ := exists_of_textAfterMark read
  rw [Bytes.eq_nil_of_ofChars rest.symm] at cut
  have whole : s = raw := List.append_inj_left' cut rfl
  refine ⟨'"' :: (s ++ ['"']), ?_, .marks (whole ▸ spells)⟩
  rw [writeText, List.cons_append, marked, Bytes.ofChars_cons_of_basic (by decide), quote]

/-- A written member is one of the grammar. -/
theorem exists_member (member : String × String) :
    ∃ s, writeMember member = Bytes.ofChars s ∧ Derives (.part .object) s := by
  obtain ⟨name, writtenName, quotesName⟩ := exists_quotes member.1
  obtain ⟨value, writtenValue, quotesValue⟩ := exists_quotes member.2
  have colon : Bytes.octet ':' = 0x3A := by decide
  have entry := Entry.member Blank.nil quotesName Blank.nil Blank.nil quotesValue.derives Blank.nil
  refine ⟨_, ?_, entry.derives⟩
  simp [writeMember, writtenName, writtenValue, Bytes.ofChars_cons_of_basic, colon]

/-- Written members behind commas. -/
theorem exists_members (members : List (String × String)) :
    ∃ parts : List (List Char),
      members.flatMap (0x2C :: writeMember ·) = Bytes.ofChars (parts.flatMap (',' :: ·)) ∧
      ∀ part ∈ parts, Derives (.part .object) part := by
  induction members with
  | nil => exact ⟨[], rfl, fun part none => nomatch none⟩
  | cons member members ih =>
    obtain ⟨parts, spelled, derived⟩ := ih
    obtain ⟨part, written, first⟩ := exists_member member
    have comma : Bytes.octet ',' = 0x2C := by decide
    refine ⟨part :: parts, ?_, List.forall_mem_cons.mpr ⟨first, derived⟩⟩
    rw [List.flatMap_cons, List.flatMap_cons, spelled, written, Bytes.ofChars_append,
      Bytes.ofChars_cons_of_basic (by decide), comma]

/-- A written object is a document of the grammar. -/
theorem exists_document (members : List (String × String)) :
    ∃ text, writeObject members = Bytes.ofText text ∧ IsDocument text.toList := by
  have opens : Bytes.octet '{' = 0x7B := by decide
  have closes : Bytes.octet '}' = 0x7D := by decide
  have inside : ∃ s, ((members.map writeMember).intersperse [0x2C]).flatten = Bytes.ofChars s ∧
      Derives .value ('{' :: (s ++ ['}'])) := by
    cases members with
    | nil => exact ⟨[], rfl, .empty .object Blank.nil⟩
    | cons member members =>
      obtain ⟨first, written, derived⟩ := exists_member member
      obtain ⟨more, spelled, later⟩ := exists_members members
      have parts := derives_intercalate (List.forall_mem_cons.mpr ⟨derived, later⟩)
      refine ⟨_, ?_, .filled parts⟩
      rw [flatten_intersperse, written, spelled, intercalate_comma, Bytes.ofChars_append]
  obtain ⟨s, spelled, derived⟩ := inside
  refine ⟨String.ofList ('{' :: (s ++ ['}'])), ?_, ?_⟩
  · rw [writeObject, spelled, Bytes.ofText_eq_ofChars, String.toList_ofList,
      Bytes.ofChars_cons_of_basic (by decide), Bytes.ofChars_append, Bytes.ofChars_cons_of_basic (by decide),
      opens, closes]
    rfl
  · rw [String.toList_ofList]
    have document := isDocument_of_value Blank.nil derived Blank.nil
    simpa using document

end ChatGateway.Json
