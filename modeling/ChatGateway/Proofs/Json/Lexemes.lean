import ChatGateway.Json.Skip
import ChatGateway.Proofs.Json.Extent
import ChatGateway.Proofs.Json.Grammar
import ChatGateway.Proofs.Text.Encoding

/-!
# Blanks, words and digits of the grammar

What reads octets takes exactly the phrases of the grammar, if the octets are those of characters. Each
phrase is taken, whatever follows it, and whatever is taken is a phrase with characters behind it.
-/

namespace ChatGateway.Json

open Grammar

/-- The octets behind a phrase of the kind at the front of the characters. -/
def Takes (kind : List Char → Prop) (s : List Char) (u : Bytes) : Prop :=
  ∃ front t, s = front ++ t ∧ kind front ∧ u = Bytes.ofChars t

namespace Takes

variable {kind other : List Char → Prop} {s : List Char} {u : Bytes}

/-- A character before a phrase that is taken is taken with it, if they make a phrase. -/
theorem cons {c : Char} (h : Takes kind s u) (hkind : ∀ front, kind front → other (c :: front)) :
    Takes other (c :: s) u := by
  obtain ⟨front, t, rfl, taken, rest⟩ := h
  exact ⟨c :: front, t, rfl, hkind front taken, rest⟩

/-- Characters before a phrase that is taken are taken with it, if they make a phrase. -/
theorem append (before : List Char) (h : Takes kind s u)
    (hkind : ∀ front, kind front → other (before ++ front)) : Takes other (before ++ s) u := by
  obtain ⟨front, t, rfl, taken, rest⟩ := h
  exact ⟨before ++ front, t, by rw [List.append_assoc], hkind front taken, rest⟩

/-- A phrase that is taken is one of any weaker kind. -/
theorem imp (h : Takes kind s u) (hkind : ∀ front, kind front → other front) : Takes other s u :=
  h.append [] hkind

/-- The empty phrase may be taken before anything. -/
theorem nil (h : kind []) (s : List Char) : Takes kind s (Bytes.ofChars s) := ⟨[], s, rfl, h, rfl⟩

end Takes

/-! ## Blanks -/

/-- The blanks of the grammar are blank octets. -/
theorem isSpace_octet {c : Char} (h : c = ' ' ∨ c = '\n' ∨ c = '\t' ∨ c = '\r') :
    c.toNat < 0x80 ∧ isSpace (Bytes.octet c) = true := by
  rcases h with rfl | rfl | rfl | rfl <;> decide

/-- A blank octet is a blank of the grammar. -/
theorem isBlank_character {b : UInt8} (h : isSpace b = true) :
    b < 0x80 ∧ Blank [Bytes.character b] := by
  simp only [isSpace, Bool.or_eq_true, decide_eq_true_eq] at h
  rcases h with ((rfl | rfl) | rfl) | rfl
  all_goals
    refine ⟨by decide, fun c member => ?_⟩
    rw [List.mem_singleton.mp member]
    decide

/-- Blanks are passed over. -/
theorem skipSpace_blank {s : List Char} (h : Blank s) (rest : Bytes) :
    skipSpace (Bytes.ofChars s ++ rest) = skipSpace rest := by
  induction s with
  | nil => rfl
  | cons c s ih =>
    obtain ⟨basic, space⟩ := isSpace_octet (h c List.mem_cons_self)
    rw [Bytes.ofChars_cons_of_basic basic, List.cons_append, skipSpace, if_pos space]
    exact ih fun d member => h d (List.mem_cons_of_mem c member)

/-- Nothing but blanks is passed over. -/
theorem takes_skipSpace (s : List Char) : Takes Blank s (skipSpace (Bytes.ofChars s)) := by
  induction s with
  | nil => exact Takes.nil Blank.nil []
  | cons c s ih =>
    cases shape : Bytes.ofChars (c :: s) with
    | nil => exact ⟨[], c :: s, rfl, Blank.nil, by rw [shape]; rfl⟩
    | cons b u =>
      cases space : isSpace b with
      | false =>
        rw [skipSpace_of_isSpace space, ← shape]
        exact Takes.nil Blank.nil (c :: s)
      | true =>
        obtain ⟨basic, blank⟩ := isBlank_character space
        obtain ⟨t, same, rfl⟩ := Bytes.exists_of_ofChars_eq_cons shape basic
        cases same
        rw [skipSpace, if_pos space]
        exact ih.cons fun front taken => Blank.append blank taken

/-- Before an octet of the basic range stand blanks, and it is a character. -/
theorem exists_of_skipSpace {s : List Char} {b : UInt8} {u : Bytes}
    (h : skipSpace (Bytes.ofChars s) = b :: u) (basic : b < 0x80) :
    ∃ blank t, s = blank ++ Bytes.character b :: t ∧ Blank blank ∧ u = Bytes.ofChars t := by
  obtain ⟨blank, t, rfl, spaces, rest⟩ := takes_skipSpace s
  obtain ⟨more, rfl, behind⟩ := Bytes.exists_of_ofChars_eq_cons (rest.symm.trans h) basic
  exact ⟨blank, more, rfl, spaces, behind⟩

/-- Characters are passed over to the last one exactly if they are blanks. -/
theorem skipSpace_ofChars_eq_nil_iff {s : List Char} : skipSpace (Bytes.ofChars s) = [] ↔ Blank s := by
  constructor
  · intro none
    obtain ⟨blank, t, rfl, spaces, rest⟩ := takes_skipSpace s
    rw [none] at rest
    rwa [Bytes.eq_nil_of_ofChars rest.symm, List.append_nil]
  · intro blank
    rw [← List.append_nil (Bytes.ofChars s)]
    exact skipSpace_blank blank []

/-- A word is expected as it is spelled. -/
theorem expectWord_ofChars (word : List Char) (basic : ∀ c ∈ word, c.toNat < 0x80) (rest : Bytes) :
    expectWord (word.map Bytes.octet) (Bytes.ofChars word ++ rest) = .ok rest := by
  induction word with
  | nil => rfl
  | cons c word ih =>
    rw [List.forall_mem_cons] at basic
    rw [Bytes.ofChars_cons_of_basic basic.1, List.map_cons, List.cons_append, expectWord, if_pos rfl]
    exact ih basic.2

/-- What is taken as a word is the word. -/
theorem takes_expectWord (word : List Char) (basic : ∀ c ∈ word, c.toNat < 0x80) {s : List Char}
    {u : Bytes} (h : expectWord (word.map Bytes.octet) (Bytes.ofChars s) = .ok u) :
    Takes (· = word) s u := by
  induction word generalizing s with
  | nil =>
    cases h
    exact ⟨[], s, rfl, rfl, rfl⟩
  | cons c word ih =>
    rw [List.forall_mem_cons] at basic
    cases shape : Bytes.ofChars s with
    | nil =>
      rw [shape] at h
      contradiction
    | cons b v =>
      rw [shape, List.map_cons, expectWord] at h
      split at h
      · rename_i same
        subst same
        obtain ⟨t, rfl, rfl⟩ := Bytes.exists_of_ofChars_eq_cons shape (Bytes.octet_basic basic.1)
        rw [Bytes.character_octet basic.1]
        exact (ih basic.2 h).cons fun front same => by rw [same]
      · contradiction

/-! ## Escapes -/

/-- A hexadecimal digit is a basic character. -/
theorem basic_of_hexValue? {c : Char} {n : Nat} (h : Text.hexValue? c = some n) : c.toNat < 0x80 := by
  have bound (last : Char) (high : last.toNat < 0x80) (le : c ≤ last) : c.toNat < 0x80 :=
    Nat.lt_of_le_of_lt (UInt32.le_iff_toNat_le.mp le) high
  simp only [Text.hexValue?, Bool.and_eq_true, decide_eq_true_eq] at h
  split at h
  · rename_i range
    exact bound '9' (by decide) range.2
  · split at h
    · rename_i range
      exact bound 'f' (by decide) range.2
    · split at h
      · rename_i range
        exact bound 'F' (by decide) range.2
      · contradiction

/-- A hexadecimal digit has the same value in a document. -/
theorem hexOctet_octet {c : Char} {n : Nat} (h : Text.hexValue? c = some n) :
    hexOctet? (Bytes.octet c) = some n := by
  rw [hexOctet?, Bytes.character_octet (basic_of_hexValue? h), h]

/-- A hexadecimal digit is worth less than sixteen. -/
theorem hexValue?_lt {c : Char} {n : Nat} (h : Text.hexValue? c = some n) : n < 16 := by
  have between (first last : Char) (low : first ≤ c) (high : c ≤ last) :
      first.toNat ≤ c.toNat ∧ c.toNat ≤ last.toNat :=
    ⟨UInt32.le_iff_toNat_le.mp low, UInt32.le_iff_toNat_le.mp high⟩
  simp only [Text.hexValue?, Bool.and_eq_true, decide_eq_true_eq] at h
  split at h
  · rename_i range
    cases h
    have := between '0' '9' range.1 range.2
    simp at this ⊢
    omega
  · split at h
    · rename_i range
      cases h
      have := between 'a' 'f' range.1 range.2
      simp at this ⊢
      omega
    · split at h
      · rename_i range
        cases h
        have := between 'A' 'F' range.1 range.2
        simp at this ⊢
        omega
      · contradiction

/-- An octet that is read as a hexadecimal digit is basic. -/
theorem basic_of_hexOctet? {b : UInt8} {n : Nat} (h : hexOctet? b = some n) : b < 0x80 := by
  have basic := basic_of_hexValue? h
  rwa [Bytes.toNat_character] at basic

/-- Four hexadecimal digits are worth no more than sixteen bits. -/
theorem Grammar.Quad.lt {s : List Char} {n : Nat} (h : Quad s n) : n < 0x10000 := by
  cases h with
  | digits first second third fourth =>
    have := hexValue?_lt first
    have := hexValue?_lt second
    have := hexValue?_lt third
    have := hexValue?_lt fourth
    omega

/-- Four digits are read as their number. -/
theorem hexQuad_of_quad {s : List Char} {n : Nat} (h : Quad s n) (rest : Bytes) :
    hexQuad (Bytes.ofChars s ++ rest) = .ok (n, rest) := by
  cases h with
  | digits first second third fourth =>
    rw [Bytes.ofChars_cons_of_basic (basic_of_hexValue? first),
      Bytes.ofChars_cons_of_basic (basic_of_hexValue? second),
      Bytes.ofChars_cons_of_basic (basic_of_hexValue? third),
      Bytes.ofChars_cons_of_basic (basic_of_hexValue? fourth), Bytes.ofChars_nil]
    simp only [List.cons_append, List.nil_append, hexQuad, hexOctet_octet first, hexOctet_octet second,
      hexOctet_octet third, hexOctet_octet fourth]

/-- What is taken as four hexadecimal digits is such a phrase. -/
theorem takes_hexQuad {s : List Char} {n : Nat} {u : Bytes}
    (h : hexQuad (Bytes.ofChars s) = .ok (n, u)) : Takes (Quad · n) s u := by
  unfold hexQuad at h
  split at h
  · rename_i a b c d rest shape
    split at h
    · rename_i first second third fourth
      cases h
      obtain ⟨v, rfl, behindFirst⟩ :=
        Bytes.exists_of_ofChars_eq_cons shape (basic_of_hexOctet? first)
      obtain ⟨w, rfl, behindSecond⟩ :=
        Bytes.exists_of_ofChars_eq_cons behindFirst.symm (basic_of_hexOctet? second)
      obtain ⟨x, rfl, behindThird⟩ :=
        Bytes.exists_of_ofChars_eq_cons behindSecond.symm (basic_of_hexOctet? third)
      obtain ⟨t, rfl, rfl⟩ :=
        Bytes.exists_of_ofChars_eq_cons behindThird.symm (basic_of_hexOctet? fourth)
      exact ⟨_, t, rfl, .digits first second third fourth, rfl⟩
    · contradiction
  · contradiction

/-- A number is read as the octets of the character with the number. -/
theorem codePoint_eq (n : Nat) : codePoint n = String.utf8EncodeChar (Char.ofNat n) := by
  rw [codePoint, Bytes.ofText_eq_ofChars]
  simp [Bytes.ofChars]

/-- The octets of a code point are those of its character. -/
theorem codePoint_toNat (c : Char) : codePoint c.toNat = String.utf8EncodeChar c := by
  rw [codePoint_eq, Char.ofNat_toNat]

/-- A number that is neither half of a pair is that of a character. -/
theorem exists_char {n : Nat} (small : n < 0x110000) (single : n < 0xD800 ∨ 0xDFFF < n) :
    ∃ c : Char, c.toNat = n := by
  have valid : n.isValidChar := by
    unfold Nat.isValidChar
    omega
  exact ⟨Char.ofNatAux n valid, rfl⟩

end ChatGateway.Json
