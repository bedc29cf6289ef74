import ChatGateway.Proofs.Json.Envelopes

/-!
# Documents are written short

However a text is spelled in a document, it is not written longer than it was spelled: what is escaped
when it is written cannot be spelled in fewer octets, and an escape with digits takes at least as many
octets as the character for which it stands.

An object that is read as the text of its own member contains at least the name, the colon and the text.
So the object that is written instead is no longer, whatever else was passed over.
-/

namespace ChatGateway.Json

/-- The octets of a text as they are written between its marks. -/
def written (octets : Bytes) : Bytes := octets.flatMap writtenOctet

/-- Octets in two parts are written one part after the other. -/
theorem written_append (front rest : Bytes) : written (front ++ rest) = written front ++ written rest := by
  simp [written]

/-- A text is written with two marks around its octets. -/
theorem length_writeText (text : String) :
    (writeText text).length = (written (Bytes.ofText text)).length + 2 := by
  simp [writeText, written]

/-! ## Octets and escapes -/

/-- No octet takes more than six octets to write. -/
theorem length_writtenOctet (b : UInt8) : (writtenOctet b).length ≤ 6 := by
  rcases writtenOctet_cases b with ⟨letter, hw, _⟩ | ⟨_, hw⟩ | ⟨_, _, _, hw⟩
  all_goals
    rw [hw]
    simp

/-- The octet for which a letter stands takes no more than the escape. -/
theorem length_written_letter {letter b : UInt8} (h : letterEscape? letter = some b) :
    (written [b]).length ≤ 2 := by
  simp only [letterEscape?] at h
  repeat' split at h
  all_goals cases h
  all_goals decide

/-- An octet that needs no escape is written as itself. -/
theorem writtenOctet_plain {b : UInt8} (noQuote : b ≠ quoteMark) (noEscape : b ≠ escapeMark)
    (visible : ¬ b < 0x20) : writtenOctet b = [b] := by
  have other (control : UInt8) (low : control < 0x20) : b ≠ control := fun same => visible (same ▸ low)
  have quote : b ≠ 0x22 := noQuote
  have escape : b ≠ 0x5C := noEscape
  simp only [writtenOctet, quote, escape, other 0x08 (by decide), other 0x0C (by decide),
    other 0x0A (by decide), other 0x0D (by decide), other 0x09 (by decide), visible, if_false]

/-- Octets that need no escape are written as they are. -/
theorem written_plain {octets : Bytes}
    (h : ∀ b ∈ octets, b ≠ quoteMark ∧ b ≠ escapeMark ∧ ¬ b < 0x20) : written octets = octets := by
  induction octets with
  | nil => rfl
  | cons b octets ih =>
    rw [List.forall_mem_cons] at h
    have itself := writtenOctet_plain h.1.1 h.1.2.1 h.1.2.2
    change writtenOctet b ++ written octets = _
    rw [itself, ih h.2]
    rfl

/-- A character above the basic range is written as itself. -/
theorem written_above {c : Char} (h : 0x80 ≤ c.toNat) :
    written (String.utf8EncodeChar c) = String.utf8EncodeChar c := by
  apply written_plain
  apply plain_of_mem
  · omega
  · rintro rfl
    exact absurd h (by decide)
  · rintro rfl
    exact absurd h (by decide)

/-- One character takes at most six octets. -/
theorem length_written_char (c : Char) : (written (String.utf8EncodeChar c)).length ≤ 6 := by
  by_cases basic : c.toNat < 0x80
  · rw [Bytes.utf8EncodeChar_of_basic basic]
    simpa [written] using length_writtenOctet (Bytes.octet c)
  · rw [written_above (Nat.le_of_not_lt basic), String.length_utf8EncodeChar]
    exact Nat.le_trans c.utf8Size_le_four (by decide)

/-- Four octets are taken for four hexadecimal digits. -/
theorem length_of_hexQuad {s t : Bytes} {n : Nat} (h : hexQuad s = .ok (n, t)) :
    s.length = t.length + 4 := by
  unfold hexQuad at h
  split at h
  · split at h
    · cases h
      rfl
    · contradiction
  · contradiction

/-- The second half of a pair takes six octets, and what the pair stands for is written in no more. -/
theorem length_of_secondEscape {high : Nat} {s octets t : Bytes}
    (h : secondEscape high s = .ok (octets, t)) :
    t.length + 6 = s.length ∧ (written octets).length ≤ 6 := by
  unfold secondEscape at h
  split at h
  · contradiction
  split at h
  · contradiction
  split at h
  · contradiction
  split at h
  · contradiction
  split at h
  · contradiction
  rename_i quad
  have digits := length_of_hexQuad quad
  split at h
  · contradiction
  · simp only [Except.ok.injEq, Prod.mk.injEq] at h
    obtain ⟨rfl, rfl⟩ := h
    refine ⟨by simp [digits], ?_⟩
    rw [codePoint_eq]
    exact length_written_char _

/-- What stands behind an escape mark is written in as many octets, with the mark. -/
theorem length_of_escaped {s octets t : Bytes} (h : escaped s = .ok (octets, t)) :
    (written octets).length + t.length ≤ s.length + 1 := by
  unfold escaped at h
  split at h
  · contradiction
  split at h
  · rename_i letter
    cases h
    have short := length_written_letter letter
    simp only [List.length_cons]
    omega
  split at h
  · contradiction
  split at h
  · contradiction
  rename_i n rest quad
  have digits := length_of_hexQuad quad
  simp only [List.length_cons]
  split at h
  · contradiction
  split at h
  · cases h
    have short := length_written_char (Char.ofNat n)
    rw [codePoint_eq]
    omega
  · obtain ⟨second, short⟩ := length_of_secondEscape h
    omega

/-! ## Texts -/

/-- A text is written in no more octets than it was read from. -/
theorem length_of_textOctets {s seen octets t : Bytes} (h : textOctets s seen = .ok (octets, t)) :
    (written octets).length + t.length + 1 ≤ (written seen.reverse).length + s.length := by
  fun_induction textOctets s seen with
  | case1 | case3 | case5 => contradiction
  | case2 seen rest =>
    cases h
    simp only [List.length_cons]
    omega
  | case4 seen rest one rest' first _ ih =>
    have later := ih h
    have short := length_of_escaped first
    rw [List.reverse_append, List.reverse_reverse, written_append, List.length_append] at later
    simp only [List.length_cons]
    omega
  | case6 seen b rest noQuote noEscape visible ih =>
    have later := ih h
    have itself : written [b] = [b] := by simp [written, writtenOctet_plain noQuote noEscape visible]
    rw [List.reverse_cons, written_append, List.length_append, itself, List.length_singleton] at later
    simp only [List.length_cons]
    omega

/-- A text behind its mark is not written longer than it was read. -/
theorem length_of_textAfterMark {s t : Bytes} {text : String} (h : textAfterMark s = .ok (text, t)) :
    (written (Bytes.ofText text)).length + t.length + 1 ≤ s.length := by
  unfold textAfterMark at h
  split at h
  · contradiction
  rename_i octets rest read
  have bound := length_of_textOctets read
  split at h
  · rename_i text found
    cases h
    rw [Bytes.ofText_of_toText? found]
    simpa [written] using bound
  · contradiction

/-- A text is not written longer than it was read. -/
theorem length_of_readText {s t : Bytes} {text : String} (h : readText s = .ok (text, t)) :
    (writeText text).length + t.length ≤ s.length := by
  unfold readText at h
  split at h
  · contradiction
  rename_i b rest found
  have behind := length_of_skipSpace found
  split at h
  · have bound := length_of_textAfterMark h
    rw [length_writeText]
    omega
  · contradiction

/-! ## Members and objects -/

section Records

variable {α : Type} {title name text : String} {make : String → α} {draft next last : Option String}
  {isFirst : Bool} {s t u : Bytes}

/-- A member that fills the draft takes as many octets as it would be written in. -/
theorem length_of_own {v w : Bytes} (first : nextName isFirst s = .ok (some t))
    (named : textAfterMark t = .ok (name, u)) (colon : skipColon u = .ok v)
    (read : readText v = .ok (text, w)) : (writeMember (name, text)).length + w.length ≤ s.length := by
  have := nextName_length first
  have := length_of_textAfterMark named
  have := skipColon_length colon
  have := length_of_readText read
  simp only [writeMember, List.length_append, List.length_cons, length_writeText] at *
  omega

/-- Members that fill a draft take as many octets as the one that they fill it with. -/
theorem length_of_readMembers
    (h : readMembers (Shape.ofText title name make).members isFirst draft s = .ok (last, u))
    (filled : last = some text) :
    draft = some text ∨ (writeMember (name, text)).length + u.length ≤ s.length := by
  fun_induction readMembers (Shape.ofText title name make).members isFirst draft s with
  | case1 | case3 | case4 | case5 | case7 => contradiction
  | case2 =>
    cases h
    exact .inl filled
  | case6 isFirst draft s t first called v named member known unset change w read ih =>
    have left := readMembers_length h
    rcases ih h with same | bound
    · generalize next : change draft = filledDraft at same
      have behind := behind_of_known known unset read
      rw [next, same] at behind
      cases behind with
      | own colon read =>
        have bound := length_of_own first named colon read
        exact .inr (by omega)
      | other differs => exact .inl rfl
    · have := nextName_length first
      have := textAfterMark_length named
      have := readMember_length read
      exact .inr (by omega)
  | case8 isFirst draft s t first called v named unknown w passed ih =>
    refine (ih h).imp_right fun bound => ?_
    have := nextName_length first
    have := textAfterMark_length named
    have := skipMember_length passed
    omega

/-- An object that is read as a text is not shorter than the one that is written around it. -/
theorem length_of_readRecord {rest : Bytes} (opened : skipSpace s = 0x7B :: rest)
    (h : (Shape.ofText title name make).readRecord s = .ok (make text, t))
    (injective : Function.Injective make) :
    (writeObject [(name, text)]).length + t.length ≤ s.length := by
  obtain ⟨same, inside, u, made, ⟨found, members, closed⟩ | ⟨found, _⟩⟩ := readRecord_eq_ok_iff.mp h
  · rw [found] at opened
    cases opened
    have inside := length_of_skipSpace found
    have behind := length_of_skipSpace closed
    rcases length_of_readMembers members rfl with none | bound
    · contradiction
    · rw [← injective made] at bound
      simp only [writeObject, List.map_cons, List.map_nil, List.intersperse_singleton,
        List.flatten_singleton, List.length_append, List.length_cons, List.length_nil] at *
      omega
  · rw [found] at opened
    exact absurd (List.cons.inj opened).1 (by decide)

end Records

end ChatGateway.Json
