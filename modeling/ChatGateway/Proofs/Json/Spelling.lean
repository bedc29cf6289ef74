import ChatGateway.Proofs.Json.Lexemes

/-!
# Texts of the grammar

Reading a text gives the characters for which it stands, and only what stands for characters is read.
Passing over a text takes whatever is well formed, halves of pairs included.
-/

namespace ChatGateway.Json

open Grammar

/-! ## Escapes -/

/-- The letters with a meaning behind the escape mark are eight. -/
theorem mem_of_letterMeaning? {l c : Char} (h : letterMeaning? l = some c) :
    (l, c) ∈ [('"', '"'), ('\\', '\\'), ('/', '/'), ('b', '\x08'), ('f', '\x0C'), ('n', '\n'),
      ('r', '\r'), ('t', '\t')] := by
  obtain ⟨before, after, listed, _⟩ := List.lookup_eq_some_iff.mp h
  rw [listed]
  exact List.mem_append_right before List.mem_cons_self

/-- A letter behind the escape mark is read as what it means. -/
theorem letterEscape_octet {l c : Char} (h : letterMeaning? l = some c) :
    l.toNat < 0x80 ∧ c.toNat < 0x80 ∧ letterEscape? (Bytes.octet l) = some (Bytes.octet c) := by
  have listed := mem_of_letterMeaning? h
  simp only [List.mem_cons, Prod.mk.injEq, List.not_mem_nil, or_false] at listed
  rcases listed with ⟨rfl, rfl⟩ | ⟨rfl, rfl⟩ | ⟨rfl, rfl⟩ | ⟨rfl, rfl⟩ | ⟨rfl, rfl⟩ | ⟨rfl, rfl⟩ |
    ⟨rfl, rfl⟩ | ⟨rfl, rfl⟩
  all_goals decide

/-- An octet that is read as a letter behind the escape mark has the meaning of that letter. -/
theorem exists_letterMeaning {b octet : UInt8} (h : letterEscape? b = some octet) :
    b < 0x80 ∧ ∃ c, letterMeaning? (Bytes.character b) = some c ∧ String.utf8EncodeChar c = [octet] := by
  have listed : (b, octet) ∈ [((0x22 : UInt8), (0x22 : UInt8)), (0x5C, 0x5C), (0x2F, 0x2F),
      (0x62, 0x08), (0x66, 0x0C), (0x6E, 0x0A), (0x72, 0x0D), (0x74, 0x09)] := by
    unfold letterEscape? at h
    grind
  simp only [List.mem_cons, Prod.mk.injEq, List.not_mem_nil, or_false] at listed
  rcases listed with ⟨rfl, rfl⟩ | ⟨rfl, rfl⟩ | ⟨rfl, rfl⟩ | ⟨rfl, rfl⟩ | ⟨rfl, rfl⟩ | ⟨rfl, rfl⟩ |
    ⟨rfl, rfl⟩ | ⟨rfl, rfl⟩
  all_goals exact ⟨by decide, _, rfl, rfl⟩

/-- No character has the number of one half of a pair. -/
theorem toNat_single (c : Char) : c.toNat < 0xD800 ∨ (0xDFFF < c.toNat ∧ c.toNat < 0x110000) := c.valid

/-- The second half of a pair is read, and the pair makes a character. -/
theorem secondEscape_of_quad {s : List Char} {high low : Nat} {c : Char} (h : Quad s (0xDC00 + low))
    (bound : low < 0x400) (means : c.toNat = 0x10000 + high * 0x400 + low) (rest : Bytes) :
    secondEscape (0xD800 + high) (Bytes.ofChars ('\\' :: 'u' :: s) ++ rest) =
      .ok (String.utf8EncodeChar c, rest) := by
  have number : 0x10000 + (0xD800 + high - 0xD800) * 0x400 + (0xDC00 + low - 0xDC00) = c.toNat := by
    rw [means, Nat.add_sub_cancel_left, Nat.add_sub_cancel_left]
  have inside : (decide (0xDC00 + low < 0xDC00) || decide (0xDFFF < 0xDC00 + low)) = false := by
    simp
    omega
  rw [Bytes.ofChars_cons_of_basic (by decide), Bytes.ofChars_cons_of_basic (by decide)]
  simp only [List.cons_append, secondEscape, show Bytes.octet '\\' = escapeMark by decide,
    show Bytes.octet 'u' = 0x75 by decide, ne_eq, not_true, if_false, hexQuad_of_quad h rest, inside,
    number, codePoint_toNat]
  rfl

/-- An escape is read as the character that it means. -/
theorem escaped_of_escape {e : List Char} {c : Char} (h : Escape e c) (rest : Bytes) :
    escaped (Bytes.ofChars e ++ rest) = .ok (String.utf8EncodeChar c, rest) := by
  have noLetter : letterEscape? (Bytes.octet 'u') = none := by decide
  have mark : Bytes.octet 'u' = 0x75 := by decide
  cases h with
  | letter means =>
    obtain ⟨basic, meaning, letter⟩ := letterEscape_octet means
    rw [Bytes.ofChars_cons_of_basic basic, Bytes.utf8EncodeChar_of_basic meaning]
    simp only [Bytes.ofChars_nil, List.cons_append, List.nil_append, escaped, letter]
  | single number =>
    have single := toNat_single c
    have noSecond : (decide (0xDC00 ≤ c.toNat) && decide (c.toNat ≤ 0xDFFF)) = false := by
      simp
      omega
    have noFirst : (decide (c.toNat < 0xD800) || decide (0xDBFF < c.toNat)) = true := by
      simp
      omega
    rw [Bytes.ofChars_cons_of_basic (by decide), List.cons_append, escaped, noLetter]
    simp only [mark, ne_eq, not_true, if_false, hexQuad_of_quad number rest, noSecond, noFirst, if_true,
      codePoint_toNat]
    rfl
  | @pair s t high low c first second highBound lowBound means =>
    have noSecond : (decide (0xDC00 ≤ 0xD800 + high) && decide (0xD800 + high ≤ 0xDFFF)) = false := by
      simp
      omega
    have isFirst : (decide (0xD800 + high < 0xD800) || decide (0xDBFF < 0xD800 + high)) = false := by
      simp
      omega
    rw [Bytes.ofChars_cons_of_basic (by decide), Bytes.ofChars_append, List.cons_append,
      List.append_assoc, escaped, noLetter]
    simp only [mark, ne_eq, not_true, if_false, hexQuad_of_quad first, noSecond, isFirst]
    exact secondEscape_of_quad second lowBound means rest

/-- What is taken as the second half of a pair is an escape, and both halves make one character. -/
theorem takes_secondEscape {s : List Char} {high : Nat} {octets u : Bytes} (bound : high < 0x400)
    (h : secondEscape (0xD800 + high) (Bytes.ofChars s) = .ok (octets, u)) :
    ∃ low c, low < 0x400 ∧ c.toNat = 0x10000 + high * 0x400 + low ∧
      octets = String.utf8EncodeChar c ∧
      Takes (fun front => ∃ quad, front = '\\' :: 'u' :: quad ∧ Quad quad (0xDC00 + low)) s u := by
  unfold secondEscape at h
  split at h
  · contradiction
  rename_i shape
  split at h
  · contradiction
  rename_i mark
  split at h
  · contradiction
  rename_i c rest
  split at h
  · contradiction
  rename_i letter
  have mark := Decidable.not_not.mp mark
  have letter := Decidable.not_not.mp letter
  subst mark letter
  split at h
  · contradiction
  rename_i n v quad
  split at h
  · contradiction
  rename_i inside
  simp only [Except.ok.injEq, Prod.mk.injEq] at h
  obtain ⟨rfl, rfl⟩ := h
  obtain ⟨t, rfl, behind⟩ := Bytes.exists_of_ofChars_eq_cons shape (by decide)
  obtain ⟨w, rfl, rfl⟩ := Bytes.exists_of_ofChars_eq_cons behind.symm (by decide)
  simp only [Bool.or_eq_true, decide_eq_true_eq, not_or, Nat.not_lt] at inside
  obtain ⟨char, number⟩ := exists_char (n := 0x10000 + high * 0x400 + (n - 0xDC00)) (by omega) (by omega)
  refine ⟨n - 0xDC00, char, by omega, number, ?_, ?_⟩
  · rw [Nat.add_sub_cancel_left, ← number, codePoint_toNat]
  · have taken := takes_hexQuad quad
    rw [← Nat.add_sub_cancel' inside.1] at taken
    exact taken.append ['\\', 'u'] fun front number => ⟨front, rfl, number⟩

/-- Whatever is read behind an escape mark is an escape. -/
theorem takes_escaped {s : List Char} {octets u : Bytes}
    (h : escaped (Bytes.ofChars s) = .ok (octets, u)) :
    ∃ c, octets = String.utf8EncodeChar c ∧ Takes (Escape · c) s u := by
  unfold escaped at h
  split at h
  · contradiction
  rename_i b rest shape
  split at h
  · rename_i octet letter
    cases h
    obtain ⟨basic, c, means, one⟩ := exists_letterMeaning letter
    obtain ⟨t, rfl, rfl⟩ := Bytes.exists_of_ofChars_eq_cons shape basic
    exact ⟨c, one.symm, [Bytes.character b], t, rfl, .letter means, rfl⟩
  split at h
  · contradiction
  rename_i letter
  have letter := Decidable.not_not.mp letter
  subst letter
  obtain ⟨t, rfl, rfl⟩ := Bytes.exists_of_ofChars_eq_cons shape (by decide)
  split at h
  · contradiction
  rename_i n v quad
  obtain ⟨digits, t, rfl, number, rfl⟩ := takes_hexQuad quad
  split at h
  · contradiction
  rename_i noSecond
  simp only [Bool.and_eq_true, decide_eq_true_eq] at noSecond
  split at h
  · rename_i single
    cases h
    simp only [Bool.or_eq_true, decide_eq_true_eq] at single
    obtain ⟨c, rfl⟩ := exists_char (n := n) (by have := number.lt; omega) (by omega)
    exact ⟨c, codePoint_toNat c, 'u' :: digits, t, rfl, .single number, rfl⟩
  · rename_i first
    simp only [Bool.or_eq_true, decide_eq_true_eq, not_or, Nat.not_lt] at first
    obtain ⟨high, rfl⟩ := Nat.exists_eq_add_of_le first.1
    obtain ⟨low, c, lowBound, means, rfl, second⟩ := takes_secondEscape (by omega) h
    refine ⟨c, rfl, (second.append digits ?_).cons fun front known => known⟩
    intro front known
    obtain ⟨quad, rfl, again⟩ := known
    exact .pair number again (by omega) lowBound means

/-- Well-formed escapes are passed over. -/
theorem skipEscaped_of_form {e : List Char} (h : EscapeForm e) (rest : Bytes) :
    skipEscaped (Bytes.ofChars e ++ rest) = .ok rest := by
  cases h with
  | letter means =>
    obtain ⟨c, means⟩ := Option.isSome_iff_exists.mp means
    obtain ⟨basic, _, letter⟩ := letterEscape_octet means
    rw [Bytes.ofChars_cons_of_basic basic]
    simp only [Bytes.ofChars_nil, List.cons_append, List.nil_append, skipEscaped, letter,
      Option.isSome_some, if_true]
  | digits number =>
    rw [Bytes.ofChars_cons_of_basic (by decide), List.cons_append]
    simp only [skipEscaped, show Bytes.octet 'u' = 0x75 by decide, ne_eq, not_true, if_false,
      hexQuad_of_quad number rest]
    rfl

/-- What is passed over behind the escape mark has the form of an escape. -/
theorem takes_skipEscaped {s : List Char} {u : Bytes} (h : skipEscaped (Bytes.ofChars s) = .ok u) :
    Takes EscapeForm s u := by
  unfold skipEscaped at h
  split at h
  · contradiction
  rename_i b rest shape
  split at h
  · rename_i letter
    cases h
    obtain ⟨octet, letter⟩ := Option.isSome_iff_exists.mp letter
    obtain ⟨basic, c, means, _⟩ := exists_letterMeaning letter
    obtain ⟨t, rfl, rfl⟩ := Bytes.exists_of_ofChars_eq_cons shape basic
    exact ⟨[Bytes.character b], t, rfl, .letter (by rw [means]; rfl), rfl⟩
  split at h
  · contradiction
  rename_i letter
  have letter := Decidable.not_not.mp letter
  subst letter
  obtain ⟨t, rfl, rfl⟩ := Bytes.exists_of_ofChars_eq_cons shape (by decide)
  split at h
  · contradiction
  rename_i quad
  cases h
  exact (takes_hexQuad quad).cons fun front number => .digits number

/-! ## Texts -/

/-- The octets of a character that stands for itself do so too. -/
theorem plain_of_mem {c : Char} (visible : 0x20 ≤ c.toNat) (noQuote : c ≠ '"') (noEscape : c ≠ '\\') :
    ∀ b ∈ String.utf8EncodeChar c, b ≠ quoteMark ∧ b ≠ escapeMark ∧ ¬ b < 0x20 := by
  intro b member
  by_cases basic : c.toNat < 0x80
  · rw [Bytes.utf8EncodeChar_of_basic basic] at member
    have same : c = Bytes.character b := by
      rw [List.mem_singleton.mp member, Bytes.character_octet basic]
    have number : b.toNat = c.toNat := by rw [same, Bytes.toNat_character]
    refine ⟨fun quote => noQuote ?_, fun escape => noEscape ?_, fun control => ?_⟩
    · rw [same, quote]
      rfl
    · rw [same, escape]
      rfl
    · have below : b.toNat < 0x20 := UInt8.lt_iff_toNat_lt.mp control
      omega
  · have high : 0x80 ≤ b.toNat :=
      UInt8.le_iff_toNat_le.mp (Bytes.above_basic (Nat.le_of_not_lt basic) b member)
    refine ⟨fun quote => ?_, fun escape => ?_, fun control => ?_⟩
    · rw [quote] at high
      exact absurd high (by decide)
    · rw [escape] at high
      exact absurd high (by decide)
    · have below : b.toNat < 0x20 := UInt8.lt_iff_toNat_lt.mp control
      omega

/-- Octets that need no escape are read as they are. -/
theorem textOctets_plains {front : Bytes}
    (h : ∀ b ∈ front, b ≠ quoteMark ∧ b ≠ escapeMark ∧ ¬ b < 0x20) (rest seen : Bytes) :
    textOctets (front ++ rest) seen = textOctets rest (front.reverse ++ seen) := by
  induction front generalizing seen with
  | nil => rfl
  | cons b front ih =>
    rw [List.forall_mem_cons] at h
    rw [List.cons_append, textOctets_plain h.1.1 h.1.2.1 h.1.2.2, ih h.2]
    simp

/-- Octets that need no escape are passed over one by one. -/
theorem skipText_plains {front : Bytes}
    (h : ∀ b ∈ front, b ≠ quoteMark ∧ b ≠ escapeMark ∧ ¬ b < 0x20) (rest : Bytes) :
    skipText (front ++ rest) = skipText rest := by
  induction front with
  | nil => rfl
  | cons b front ih =>
    rw [List.forall_mem_cons] at h
    rw [List.cons_append, skipText_plain h.1.1 h.1.2.1 h.1.2.2, ih h.2]

/-- The mark ends the octets of a text. -/
theorem textOctets_quote (rest seen : Bytes) :
    textOctets (quoteMark :: rest) seen = .ok (seen.reverse, rest) := by
  rw [textOctets]
  exact if_pos rfl

/-- The mark ends a text that is passed over. -/
theorem skipText_quote (rest : Bytes) : skipText (quoteMark :: rest) = .ok rest := by
  rw [skipText]
  exact if_pos rfl

/-- A text is read as the characters for which it stands. -/
theorem textOctets_of_spells {s t : List Char} (h : Spells s t) (rest seen : Bytes) :
    textOctets (Bytes.ofChars s ++ quoteMark :: rest) seen =
      .ok (seen.reverse ++ Bytes.ofChars t, rest) := by
  induction h generalizing seen with
  | nil => simpa using textOctets_quote rest seen
  | plain visible noQuote noEscape _ ih =>
    rw [Bytes.ofChars_cons, List.append_assoc,
      textOctets_plains (plain_of_mem visible noQuote noEscape), ih, Bytes.ofChars_cons]
    simp
  | @escaped e s t c escape _ ih =>
    have mark : Bytes.octet '\\' = escapeMark := by decide
    rw [Bytes.ofChars_cons_of_basic (by decide), Bytes.ofChars_append, List.cons_append,
      List.append_assoc, mark, textOctets_escaped (escaped_of_escape escape _), ih, Bytes.ofChars_cons]
    simp

/-- A text is read, whatever follows its closing mark. -/
theorem textAfterMark_of_spells {s : List Char} {text : String} (h : Spells s text.toList)
    (rest : Bytes) : textAfterMark (Bytes.ofChars s ++ quoteMark :: rest) = .ok (text, rest) := by
  simp only [textAfterMark, textOctets_of_spells h, List.reverse_nil, List.nil_append,
    Bytes.toText?_ofChars, String.ofList_toList]

/-- What a text consists of: its closing mark, an escape, or an octet that stands for itself. -/
theorem textOctets_eq_ok {b : UInt8} {rest seen octets u : Bytes}
    (h : textOctets (b :: rest) seen = .ok (octets, u)) :
    (b = quoteMark ∧ octets = seen.reverse ∧ u = rest) ∨
      (b = escapeMark ∧ ∃ one v, escaped rest = .ok (one, v) ∧
        textOctets v (one.reverse ++ seen) = .ok (octets, u)) ∨
      (b ≠ quoteMark ∧ b ≠ escapeMark ∧ ¬ b < 0x20 ∧
        textOctets rest (b :: seen) = .ok (octets, u)) := by
  rw [textOctets] at h
  split at h
  · rename_i quote
    cases h
    exact .inl ⟨quote, rfl, rfl⟩
  rename_i noQuote
  split at h
  · rename_i escape
    split at h
    · contradiction
    · rename_i one v first
      exact .inr (.inl ⟨escape, one, v, first, h⟩)
  rename_i noEscape
  split at h
  · contradiction
  · rename_i visible
    exact .inr (.inr ⟨noQuote, noEscape, visible, h⟩)

/-- A text that is passed over ends at once, or goes on with an escape or with a plain octet. -/
theorem skipText_eq_ok {b : UInt8} {rest u : Bytes} (h : skipText (b :: rest) = .ok u) :
    (b = quoteMark ∧ u = rest) ∨
      (b = escapeMark ∧ ∃ v, skipEscaped rest = .ok v ∧ skipText v = .ok u) ∨
      (b ≠ quoteMark ∧ b ≠ escapeMark ∧ ¬ b < 0x20 ∧ skipText rest = .ok u) := by
  rw [skipText] at h
  split at h
  · rename_i quote
    cases h
    exact .inl ⟨quote, rfl⟩
  rename_i noQuote
  split at h
  · rename_i escape
    split at h
    · contradiction
    · rename_i v first
      exact .inr (.inl ⟨escape, v, first, h⟩)
  rename_i noEscape
  split at h
  · contradiction
  · rename_i visible
    exact .inr (.inr ⟨noQuote, noEscape, visible, h⟩)

/-- A character whose first octet stands for itself does so as a whole. -/
theorem plain_of_head {c : Char} {s : List Char} {b : UInt8} {rest : Bytes}
    (h : Bytes.ofChars (c :: s) = b :: rest) (noQuote : b ≠ quoteMark) (noEscape : b ≠ escapeMark)
    (visible : ¬ b < 0x20) : 0x20 ≤ c.toNat ∧ c ≠ '"' ∧ c ≠ '\\' := by
  by_cases basic : c.toNat < 0x80
  · rw [Bytes.ofChars_cons_of_basic basic] at h
    cases h
    refine ⟨Nat.le_of_not_lt fun control => visible ?_, fun quote => noQuote ?_, fun escape => noEscape ?_⟩
    · rw [UInt8.lt_iff_toNat_lt]
      simp [Bytes.octet]
      omega
    · rw [quote]
      rfl
    · rw [escape]
      rfl
  · refine ⟨by omega, fun quote => basic ?_, fun escape => basic ?_⟩
    · rw [quote]
      decide
    · rw [escape]
      decide

/-- What is read between the marks stands for the characters that are read. -/
theorem exists_of_textOctets {s : List Char} {seen octets u : Bytes}
    (h : textOctets (Bytes.ofChars s) seen = .ok (octets, u)) :
    ∃ raw meaning t, s = raw ++ '"' :: t ∧ Spells raw meaning ∧
      octets = seen.reverse ++ Bytes.ofChars meaning ∧ u = Bytes.ofChars t := by
  induction size : s.length using Nat.strongRecOn generalizing s seen with
  | ind n ih =>
    cases shape : Bytes.ofChars s with
    | nil =>
      rw [shape, textOctets] at h
      contradiction
    | cons b rest =>
      rw [shape] at h
      rcases textOctets_eq_ok h with ⟨rfl, rfl, rfl⟩ | ⟨rfl, one, v, first, later⟩ |
        ⟨noQuote, noEscape, high, _⟩
      · obtain ⟨t, rfl, rfl⟩ := Bytes.exists_of_ofChars_eq_cons shape (by decide)
        exact ⟨[], [], t, rfl, .nil, by simp, rfl⟩
      · obtain ⟨t, rfl, rfl⟩ := Bytes.exists_of_ofChars_eq_cons shape (by decide)
        obtain ⟨c, rfl, e, t, rfl, escape, rfl⟩ := takes_escaped first
        have shorter : t.length < n := by
          rw [← size]
          simp only [List.length_cons, List.length_append]
          omega
        obtain ⟨raw, meaning, t, rfl, spells, rfl, rfl⟩ := ih t.length shorter later rfl
        exact ⟨'\\' :: (e ++ raw), c :: meaning, t, by simp; rfl, .escaped escape spells,
          by simp [Bytes.ofChars_cons], rfl⟩
      · -- Only the first octet of the character was looked at; the others stand for themselves too.
        cases s with
        | nil => contradiction
        | cons c s =>
          obtain ⟨visible, quote, escape⟩ := plain_of_head shape noQuote noEscape high
          rw [← shape, Bytes.ofChars_cons, textOctets_plains (plain_of_mem visible quote escape)] at h
          have shorter : s.length < n := by
            rw [← size]
            simp
          obtain ⟨raw, meaning, t, rfl, spells, rfl, rfl⟩ := ih s.length shorter h rfl
          exact ⟨c :: raw, c :: meaning, t, rfl, .plain visible quote escape spells,
            by simp [Bytes.ofChars_cons], rfl⟩

/-- A text that was read behind its mark was spelled before the next mark. -/
theorem exists_of_textAfterMark {s : List Char} {text : String} {u : Bytes}
    (h : textAfterMark (Bytes.ofChars s) = .ok (text, u)) :
    ∃ raw t, s = raw ++ '"' :: t ∧ Spells raw text.toList ∧ u = Bytes.ofChars t := by
  unfold textAfterMark at h
  split at h
  · contradiction
  rename_i octets rest read
  obtain ⟨raw, meaning, t, rfl, spells, rfl, rfl⟩ := exists_of_textOctets read
  rw [List.reverse_nil, List.nil_append, Bytes.toText?_ofChars] at h
  cases h
  exact ⟨raw, t, rfl, by rwa [String.toList_ofList], rfl⟩

/-- A well-formed text is passed over. -/
theorem skipText_of_characters {s : List Char} (h : Characters s) (rest : Bytes) :
    skipText (Bytes.ofChars s ++ quoteMark :: rest) = .ok rest := by
  induction h with
  | nil => exact skipText_quote rest
  | plain visible noQuote noEscape _ ih =>
    rw [Bytes.ofChars_cons, List.append_assoc, skipText_plains (plain_of_mem visible noQuote noEscape),
      ih]
  | escaped form _ ih =>
    have mark : Bytes.octet '\\' = escapeMark := by decide
    rw [Bytes.ofChars_cons_of_basic (by decide), Bytes.ofChars_append, List.cons_append,
      List.append_assoc, mark, skipText_escaped (skipEscaped_of_form form _), ih]

/-- A text that was passed over has characters before the next mark. -/
theorem exists_of_skipText {s : List Char} {u : Bytes} (h : skipText (Bytes.ofChars s) = .ok u) :
    ∃ raw t, s = raw ++ '"' :: t ∧ Characters raw ∧ u = Bytes.ofChars t := by
  induction size : s.length using Nat.strongRecOn generalizing s with
  | ind n ih =>
    cases shape : Bytes.ofChars s with
    | nil =>
      rw [shape, skipText] at h
      contradiction
    | cons b rest =>
      rw [shape] at h
      rcases skipText_eq_ok h with ⟨rfl, rfl⟩ | ⟨rfl, v, first, later⟩ | ⟨noQuote, noEscape, high, _⟩
      · obtain ⟨t, rfl, rfl⟩ := Bytes.exists_of_ofChars_eq_cons shape (by decide)
        exact ⟨[], t, rfl, .nil, rfl⟩
      · obtain ⟨t, rfl, rfl⟩ := Bytes.exists_of_ofChars_eq_cons shape (by decide)
        obtain ⟨e, t, rfl, form, rfl⟩ := takes_skipEscaped first
        have shorter : t.length < n := by
          rw [← size]
          simp only [List.length_cons, List.length_append]
          omega
        obtain ⟨raw, t, rfl, characters, rfl⟩ := ih t.length shorter later rfl
        exact ⟨'\\' :: (e ++ raw), t, by simp; rfl, .escaped form characters, rfl⟩
      · cases s with
        | nil => contradiction
        | cons c s =>
          obtain ⟨visible, quote, escape⟩ := plain_of_head shape noQuote noEscape high
          rw [← shape, Bytes.ofChars_cons, skipText_plains (plain_of_mem visible quote escape)] at h
          have shorter : s.length < n := by
            rw [← size]
            simp
          obtain ⟨raw, t, rfl, characters, rfl⟩ := ih s.length shorter h rfl
          exact ⟨c :: raw, t, rfl, .plain visible quote escape characters, rfl⟩

end ChatGateway.Json
