import ChatGateway.Proofs.Text.Octets

/-!
# Where characters begin

The octets of characters in a row can be cut again. An octet of the basic range is a character of its
own, wherever it stands, and all octets of the other characters are above that range. So what looks for
a character of the basic range can look for its octet.
-/

namespace ChatGateway.Bytes

/-- The octets of characters in order. -/
def ofChars (chars : List Char) : Bytes := chars.flatMap String.utf8EncodeChar

/-- The octets of a text are those of its characters. -/
theorem ofText_eq_ofChars (text : String) : ofText text = ofChars text.toList := by
  rw [ofChars, ← ofText_ofList, String.ofList_toList]

/-- No characters have no octets. -/
@[simp]
theorem ofChars_nil : ofChars [] = [] := rfl

/-- The octets of the first character come first. -/
theorem ofChars_cons (c : Char) (rest : List Char) :
    ofChars (c :: rest) = String.utf8EncodeChar c ++ ofChars rest := rfl

/-- Every character has octets. -/
theorem eq_nil_of_ofChars {s : List Char} (h : ofChars s = []) : s = [] := by
  cases s with
  | nil => rfl
  | cons c s =>
    have width := String.length_utf8EncodeChar c
    rw [(List.append_eq_nil_iff.mp h).1] at width
    exact absurd width (Nat.ne_of_lt c.utf8Size_pos)

/-- The octets of characters in two parts are those of the parts. -/
@[simp]
theorem ofChars_append (front rest : List Char) :
    ofChars (front ++ rest) = ofChars front ++ ofChars rest := by
  simp [ofChars]

/-- A character of the basic range stands for itself before the others. -/
theorem ofChars_cons_of_basic {c : Char} (h : c.toNat < 0x80) (rest : List Char) :
    ofChars (c :: rest) = octet c :: ofChars rest := by
  rw [ofChars_cons, utf8EncodeChar_of_basic h]
  rfl

/-- The octets of a character above the basic range are above it too. -/
theorem above_basic {c : Char} (h : 0x80 ≤ c.toNat) : ∀ b ∈ String.utf8EncodeChar c, 0x80 ≤ b := by
  have large : ¬ c.val.toNat ≤ 0x7F := Nat.not_le_of_lt h
  have marked (n low : Nat) (below : n + low < 256) (high : 0x80 ≤ low) : 0x80 ≤ UInt8.ofNat (n + low) := by
    rw [UInt8.le_iff_toNat_le]
    simp
    omega
  intro b member
  unfold String.utf8EncodeChar at member
  simp only [large, if_false] at member
  split at member
  · simp only [List.mem_cons, List.not_mem_nil, or_false] at member
    rcases member with rfl | rfl
    all_goals apply marked <;> omega
  · split at member
    · simp only [List.mem_cons, List.not_mem_nil, or_false] at member
      rcases member with rfl | rfl | rfl
      all_goals apply marked <;> omega
    · simp only [List.mem_cons, List.not_mem_nil, or_false] at member
      rcases member with rfl | rfl | rfl | rfl
      all_goals apply marked <;> omega

/-- A character of the basic range is found again from its octet. -/
theorem character_octet {c : Char} (h : c.toNat < 0x80) : character (octet c) = c := by
  apply Char.toNat_inj.mp
  rw [toNat_character]
  simp [octet]
  omega

/-- The octet of a basic character is a basic one. -/
theorem octet_basic {c : Char} (h : c.toNat < 0x80) : octet c < 0x80 := by
  rw [UInt8.lt_iff_toNat_lt]
  simp [octet]
  omega

/-- An octet of the basic range at the front is the whole first character. -/
theorem exists_of_ofChars_eq_cons {s : List Char} {b : UInt8} {u : Bytes} (h : ofChars s = b :: u)
    (basic : b < 0x80) : ∃ t, s = character b :: t ∧ u = ofChars t := by
  cases s with
  | nil => contradiction
  | cons c t =>
    by_cases low : c.toNat < 0x80
    · rw [ofChars_cons_of_basic low] at h
      cases h
      exact ⟨t, by rw [character_octet low], rfl⟩
    · cases shape : String.utf8EncodeChar c with
      | nil =>
        have width := String.length_utf8EncodeChar c
        rw [shape] at width
        exact absurd width (Nat.ne_of_lt c.utf8Size_pos)
      | cons d more =>
        rw [ofChars_cons, shape] at h
        cases h
        have high : 0x80 ≤ b := above_basic (Nat.le_of_not_lt low) b (by simp [shape])
        rw [UInt8.lt_iff_toNat_lt] at basic
        rw [UInt8.le_iff_toNat_le] at high
        omega

/-- Characters are told apart by their octets. -/
theorem toText?_ofChars (chars : List Char) : toText? (ofChars chars) = some (String.ofList chars) := by
  rw [ofChars, ← ofText_ofList, toText?_ofText]

end ChatGateway.Bytes
