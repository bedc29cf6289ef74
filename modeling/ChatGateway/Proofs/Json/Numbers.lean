import ChatGateway.Proofs.Json.Lexemes
import ChatGateway.Proofs.Json.Numeral

/-!
# Numbers of the grammar

Passing over a number takes exactly a number of the grammar. A number is taken as far as it goes, so
what follows one that is to be passed over must not go on with it.
-/

namespace ChatGateway.Json

open Grammar

/-- An octet is a digit exactly if its character is. -/
theorem isDigit_character (b : UInt8) : (Bytes.character b).isDigit = isDigit b := by
  have number : (Bytes.character b).val.toNat = b.toNat := Bytes.toNat_character b
  rw [Bool.eq_iff_iff]
  simp only [Char.isDigit, isDigit, Bool.and_eq_true, decide_eq_true_eq, ge_iff_le,
    UInt32.le_iff_toNat_le, UInt8.le_iff_toNat_le, number]
  rfl

/-- A digit is a basic octet. -/
theorem basic_of_isDigit {b : UInt8} (h : isDigit b = true) : b < 0x80 := by
  simp only [isDigit, Bool.and_eq_true, decide_eq_true_eq, UInt8.le_iff_toNat_le] at h
  rw [UInt8.lt_iff_toNat_lt]
  simp at h ⊢
  omega

/-- A digit is a basic character. -/
theorem toNat_of_isDigit {c : Char} (h : c.isDigit = true) : c.toNat < 0x80 := by
  have := (Text.bounds_of_isDigit h).2
  omega

/-- The octets of digits are digits. -/
theorem isDigit_of_mem_ofChars {s : List Char} (h : ∀ c ∈ s, c.isDigit = true) :
    ∀ b ∈ Bytes.ofChars s, isDigit b = true := by
  induction s with
  | nil => exact nofun
  | cons c s ih =>
    rw [List.forall_mem_cons] at h
    rw [Bytes.ofChars_cons_of_basic (toNat_of_isDigit h.1), List.forall_mem_cons]
    exact ⟨isDigit_octet h.1, ih h.2⟩

/-- The digits at the front end where the characters say. -/
theorem takes_afterDigits (s : List Char) :
    Takes (fun digits => (∀ c ∈ digits, c.isDigit = true) ∧
      digitsOf (Bytes.ofChars s) = Bytes.ofChars digits) s (afterDigits (Bytes.ofChars s)) := by
  induction s with
  | nil => exact ⟨[], [], rfl, ⟨nofun, rfl⟩, rfl⟩
  | cons c s ih =>
    cases shape : Bytes.ofChars (c :: s) with
    | nil => exact ⟨[], c :: s, rfl, ⟨nofun, rfl⟩, by rw [shape]; rfl⟩
    | cons b u =>
      cases digit : isDigit b with
      | false =>
        refine ⟨[], c :: s, rfl, ⟨nofun, ?_⟩, ?_⟩
        · simp [digitsOf, digit]
        · rw [shape]
          simp [afterDigits, digit]
      | true =>
        have basic := basic_of_isDigit digit
        obtain ⟨t, same, rfl⟩ := Bytes.exists_of_ofChars_eq_cons shape basic
        cases same
        rw [← isDigit_character] at digit
        have after : afterDigits (b :: Bytes.ofChars s) = afterDigits (Bytes.ofChars s) := by
          simp [afterDigits, ← isDigit_character, digit]
        rw [after]
        refine ih.cons fun front taken => ⟨List.forall_mem_cons.mpr ⟨digit, taken.1⟩, ?_⟩
        rw [Bytes.ofChars_cons_of_basic (toNat_of_isDigit digit), Bytes.octet_character, ← taken.2]
        simp [digitsOf, ← isDigit_character, digit]

/-- Nothing that follows goes on with a number. -/
def EndsNumber (rest : Bytes) : Prop := ∀ b ∈ rest.head?, endsNumber b = true

/-- No digit follows where a number ends. -/
theorem EndsNumber.noDigit {rest : Bytes} (h : EndsNumber rest) :
    ∀ b ∈ rest.head?, isDigit b = false := by
  intro b first
  have last := h b first
  simp only [endsNumber, Bool.and_eq_true, Bool.not_eq_true'] at last
  exact last.1.1

/-- Digits are passed over together. -/
theorem afterDigits_of_digits {s : List Char} (digits : ∀ c ∈ s, c.isDigit = true) {rest : Bytes}
    (stop : ∀ b ∈ rest.head?, isDigit b = false) :
    digitsOf (Bytes.ofChars s ++ rest) = Bytes.ofChars s ∧
      afterDigits (Bytes.ofChars s ++ rest) = rest :=
  Text.span_of_boundary (isDigit_of_mem_ofChars digits) stop

/-- A sign and digits are passed over as an exponent, if no digit follows. -/
theorem skipExponent_of_digits {sign s : List Char} (signed : Sign sign) (digits : Digits s)
    {rest : Bytes} (stop : ∀ b ∈ rest.head?, isDigit b = false) :
    skipExponent (Bytes.ofChars (sign ++ s) ++ rest) = .ok rest := by
  obtain ⟨some, digits⟩ := digits
  cases s with
  | nil => exact absurd rfl some
  | cons c s =>
    rw [List.forall_mem_cons] at digits
    have first := isDigit_octet digits.1
    have unsigned : (exponentSign (Bytes.octet c :: (Bytes.ofChars s ++ rest))).2 =
        Bytes.octet c :: (Bytes.ofChars s ++ rest) := by
      have noPlus : Bytes.octet c ≠ 0x2B := fun plus => by rw [plus] at first; contradiction
      have noMinus : Bytes.octet c ≠ 0x2D := fun minus => by rw [minus] at first; contradiction
      simp only [exponentSign, noPlus, noMinus, if_false]
    have skipped : (exponentSign (Bytes.ofChars (sign ++ c :: s) ++ rest)).2 =
        Bytes.octet c :: (Bytes.ofChars s ++ rest) := by
      rw [Bytes.ofChars_append, List.append_assoc, Bytes.ofChars_cons_of_basic (toNat_of_isDigit digits.1)]
      cases signed with
      | none => exact unsigned
      | plus => rfl
      | minus => rfl
    simp only [skipExponent, skipped, first, if_true, (afterDigits_of_digits digits.2 stop).2]

/-- What is taken before the digits of an exponent is a sign. -/
theorem takes_exponentSign {s : List Char} {d : UInt8} {rest : Bytes}
    (h : (exponentSign (Bytes.ofChars s)).2 = d :: rest) : Takes Sign s (d :: rest) := by
  unfold exponentSign at h
  split at h
  · contradiction
  rename_i b u shape
  split at h
  · rename_i plus
    subst plus
    obtain ⟨t, rfl, rfl⟩ := Bytes.exists_of_ofChars_eq_cons shape (by decide)
    exact ⟨_, t, rfl, .plus, h.symm⟩
  · split at h
    · rename_i minus
      subst minus
      obtain ⟨t, rfl, rfl⟩ := Bytes.exists_of_ofChars_eq_cons shape (by decide)
      exact ⟨_, t, rfl, .minus, h.symm⟩
    · exact ⟨[], s, rfl, .none, by rw [shape]; exact h.symm⟩

/-- What is taken behind the letter of an exponent is a sign and digits. -/
theorem takes_skipExponent {s : List Char} {u : Bytes} (h : skipExponent (Bytes.ofChars s) = .ok u) :
    Takes (fun front => ∃ sign digits, front = sign ++ digits ∧ Sign sign ∧ Digits digits) s u := by
  unfold skipExponent at h
  split at h
  · contradiction
  rename_i d rest shape
  split at h
  · rename_i digit
    cases h
    obtain ⟨sign, t, rfl, signed, next⟩ := takes_exponentSign shape
    obtain ⟨t, rfl, rfl⟩ := Bytes.exists_of_ofChars_eq_cons next.symm (basic_of_isDigit digit)
    rw [← isDigit_character] at digit
    refine ((takes_afterDigits t).cons fun front taken => ?_).append sign fun front digits =>
      ⟨sign, front, rfl, signed, digits⟩
    exact ⟨List.cons_ne_nil _ front, List.forall_mem_cons.mpr ⟨digit, taken.1⟩⟩
  · contradiction

/-- An exponent is passed over. -/
theorem skipAfterFraction_of_exponent {e : List Char} (h : Exponent e) {rest : Bytes}
    (ends : EndsNumber rest) : skipAfterFraction (Bytes.ofChars e ++ rest) = .ok rest := by
  cases h with
  | none =>
    cases rest with
    | nil => rfl
    | cons b rest =>
      have last := ends b rfl
      simp only [endsNumber, Bool.and_eq_true, Bool.not_eq_true'] at last
      simp [skipAfterFraction, last.2]
  | @marked mark sign s spelled signed digits =>
    have marks : mark.toNat < 0x80 ∧ marksExponent (Bytes.octet mark) = true := by
      rcases spelled with rfl | rfl <;> decide
    rw [Bytes.ofChars_cons_of_basic marks.1, List.cons_append, skipAfterFraction, if_pos marks.2]
    exact skipExponent_of_digits signed digits ends.noDigit

/-- An exponent starts with its mark. -/
theorem exponent_of_marks {b : UInt8} (h : marksExponent b = true) :
    b < 0x80 ∧ ∀ front, (∃ sign digits, front = sign ++ digits ∧ Sign sign ∧ Digits digits) →
      Exponent (Bytes.character b :: front) := by
  simp only [marksExponent, Bool.or_eq_true, decide_eq_true_eq] at h
  have spelled : b < 0x80 ∧ (Bytes.character b = 'e' ∨ Bytes.character b = 'E') := by
    rcases h with rfl | rfl <;> decide
  refine ⟨spelled.1, fun front parts => ?_⟩
  obtain ⟨sign, digits, rfl, signed, some⟩ := parts
  exact .marked spelled.2 signed some

/-- What is taken behind a fraction is an exponent. -/
theorem takes_skipAfterFraction {s : List Char} {u : Bytes}
    (h : skipAfterFraction (Bytes.ofChars s) = .ok u) : Takes Exponent s u := by
  unfold skipAfterFraction at h
  split at h
  · rename_i shape
    cases h
    rw [← shape]
    exact Takes.nil .none s
  rename_i b rest shape
  split at h
  · rename_i marks
    obtain ⟨basic, exponent⟩ := exponent_of_marks marks
    obtain ⟨t, rfl, rfl⟩ := Bytes.exists_of_ofChars_eq_cons shape basic
    exact (takes_skipExponent h).cons exponent
  · cases h
    rw [← shape]
    exact Takes.nil .none s

/-- An exponent starts with no digit. -/
theorem noDigit_exponent {e : List Char} (h : Exponent e) {rest : Bytes} (ends : EndsNumber rest) :
    ∀ b ∈ (Bytes.ofChars e ++ rest).head?, isDigit b = false := by
  cases h with
  | none => exact ends.noDigit
  | marked spelled signed digits =>
    intro b first
    rcases spelled with rfl | rfl
    all_goals
      rw [Bytes.ofChars_cons_of_basic (by decide)] at first
      cases first
      decide

/-- Behind the digits of a whole number stands no digit. -/
theorem noDigit_fraction {f e : List Char} (fraction : Fraction f) (power : Exponent e) {rest : Bytes}
    (ends : EndsNumber rest) : ∀ b ∈ (Bytes.ofChars (f ++ e) ++ rest).head?, isDigit b = false := by
  cases fraction with
  | none => exact noDigit_exponent power ends
  | point digits =>
    intro b first
    rw [List.cons_append, Bytes.ofChars_cons_of_basic (by decide)] at first
    cases first
    decide

/-- A point with digits and an exponent are passed over. -/
theorem skipAfterWhole_of_parts {f e : List Char} (fraction : Fraction f) (power : Exponent e)
    {rest : Bytes} (ends : EndsNumber rest) :
    skipAfterWhole (Bytes.ofChars (f ++ e) ++ rest) = .ok rest := by
  cases fraction with
  | none =>
    cases power with
    | none =>
      cases rest with
      | nil => rfl
      | cons b rest =>
        have last := ends b rfl
        simp only [endsNumber, Bool.and_eq_true, Bool.not_eq_true', bne_iff_ne] at last
        simp [skipAfterWhole, last]
    | @marked mark sign s spelled signed digits =>
      have marks : mark.toNat < 0x80 ∧ Bytes.octet mark ≠ 0x2E ∧
          marksExponent (Bytes.octet mark) = true := by
        rcases spelled with rfl | rfl <;> decide
      rw [List.nil_append, Bytes.ofChars_cons_of_basic marks.1, List.cons_append, skipAfterWhole,
        if_neg marks.2.1, if_pos marks.2.2]
      exact skipExponent_of_digits signed digits ends.noDigit
  | @point s digits =>
    obtain ⟨taken, left⟩ := afterDigits_of_digits digits.2 (noDigit_exponent power ends)
    have some : (Bytes.ofChars s).isEmpty = false := by
      cases s with
      | nil => exact absurd rfl digits.1
      | cons c s =>
        rw [Bytes.ofChars_cons_of_basic (toNat_of_isDigit (digits.2 c List.mem_cons_self))]
        rfl
    rw [List.cons_append, Bytes.ofChars_cons_of_basic (by decide), Bytes.ofChars_append,
      List.cons_append, List.append_assoc]
    simp only [skipAfterWhole, show Bytes.octet '.' = 0x2E by decide, if_true, taken, some, left]
    exact skipAfterFraction_of_exponent power ends

/-- What is taken behind the whole part is a fraction and an exponent. -/
theorem takes_skipAfterWhole {s : List Char} {u : Bytes}
    (h : skipAfterWhole (Bytes.ofChars s) = .ok u) :
    Takes (fun front => ∃ f e, front = f ++ e ∧ Fraction f ∧ Exponent e) s u := by
  unfold skipAfterWhole at h
  split at h
  · rename_i shape
    cases h
    rw [← shape]
    exact Takes.nil ⟨[], [], rfl, .none, .none⟩ s
  rename_i b rest shape
  split at h
  · rename_i point
    subst point
    obtain ⟨t, rfl, rfl⟩ := Bytes.exists_of_ofChars_eq_cons shape (by decide)
    split at h
    · contradiction
    rename_i some
    obtain ⟨digits, t, rfl, ⟨inside, taken⟩, left⟩ := takes_afterDigits t
    rw [left] at h
    rw [taken] at some
    have filled : digits ≠ [] := fun none => some (by rw [none]; rfl)
    refine (takes_skipAfterFraction h).append ('.' :: digits) fun e power => ?_
    exact ⟨'.' :: digits, e, rfl, .point ⟨filled, inside⟩, power⟩
  split at h
  · rename_i marks
    obtain ⟨basic, exponent⟩ := exponent_of_marks marks
    obtain ⟨t, rfl, rfl⟩ := Bytes.exists_of_ofChars_eq_cons shape basic
    exact (takes_skipExponent h).cons fun front parts => ⟨[], _, rfl, .none, exponent front parts⟩
  · cases h
    rw [← shape]
    exact Takes.nil ⟨[], [], rfl, .none, .none⟩ s

/-- A number is passed over if what follows does not go on with it. -/
theorem skipNumber_of_unsigned {s : List Char} (h : Unsigned s) {rest : Bytes}
    (ends : EndsNumber rest) : skipNumber (Bytes.ofChars s ++ rest) = .ok rest := by
  cases h with
  | @parts w f e before after power =>
    have behind := noDigit_fraction after power ends
    rw [Bytes.ofChars_append, List.append_assoc]
    cases before with
    | zero =>
      have none : (digitsOf (Bytes.ofChars (f ++ e) ++ rest)).isEmpty = true := by
        have run := (afterDigits_of_digits (s := []) nofun behind).1
        rw [Bytes.ofChars_nil, List.nil_append] at run
        rw [run]
        rfl
      rw [Bytes.ofChars_cons_of_basic (by decide), Bytes.ofChars_nil, List.cons_append,
        List.nil_append, skipNumber]
      simp only [show Bytes.octet '0' = 0x30 by decide, if_true, none]
      exact skipAfterWhole_of_parts after power ends
    | @digits c s first positive more =>
      have noZero : Bytes.octet c ≠ 0x30 := by
        intro zero
        apply positive
        rw [← Bytes.character_octet (toNat_of_isDigit first), zero]
        rfl
      rw [Bytes.ofChars_cons_of_basic (toNat_of_isDigit first), List.cons_append, skipNumber]
      simp only [isDigit_octet first, Bool.not_true, Bool.false_eq_true, if_false, noZero,
        (afterDigits_of_digits more behind).2]
      exact skipAfterWhole_of_parts after power ends

/-- What is taken as a number is one without its sign. -/
theorem takes_skipNumber {s : List Char} {u : Bytes} (h : skipNumber (Bytes.ofChars s) = .ok u) :
    Takes Unsigned s u := by
  unfold skipNumber at h
  split at h
  · contradiction
  rename_i b rest shape
  split at h
  · contradiction
  rename_i digit
  have digit : isDigit b = true := by simpa using digit
  obtain ⟨t, rfl, rfl⟩ := Bytes.exists_of_ofChars_eq_cons shape (basic_of_isDigit digit)
  split at h
  · rename_i zero
    subst zero
    split at h
    · refine (takes_skipAfterWhole h).append ['0'] fun front parts => ?_
      obtain ⟨f, e, rfl, fraction, power⟩ := parts
      exact .parts .zero fraction power
    · contradiction
  · rename_i noZero
    obtain ⟨digits, t, rfl, ⟨inside, _⟩, left⟩ := takes_afterDigits t
    rw [left] at h
    refine (takes_skipAfterWhole h).append (Bytes.character b :: digits) fun front parts => ?_
    obtain ⟨f, e, rfl, fraction, power⟩ := parts
    refine .parts (.digits ?_ ?_ inside) fraction power
    · rwa [isDigit_character]
    · intro zero
      apply noZero
      rw [← Bytes.octet_character b, zero]
      rfl

end ChatGateway.Json
