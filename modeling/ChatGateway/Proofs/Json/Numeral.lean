import ChatGateway.Json.Number
import ChatGateway.Proofs.Text.Numeral

/-!
# Numerals in documents

The digits of a numeral are gathered into a word as long as they fit, and nothing of its value is
lost: either they all fit, or the word and the digits left over still tell the number. So a numeral
in a document is read as its number, or refused if it is too large even for a real one.
-/

namespace ChatGateway.Json

/-- The digits that do not fit are those that make the same number of the word. -/
theorem extended_absorb (word : Nat) (digits : Bytes) :
    extended (absorb word digits).1 (absorb word digits).2 = extended word digits := by
  induction digits generalizing word with
  | nil => rfl
  | cons d digits ih =>
    unfold absorb
    split
    · rfl
    · exact ih (word * 10 + digitValue d)

/-- A word grows with the digits behind it. -/
theorem le_extended (word : Nat) (digits : Bytes) : word ≤ extended word digits := by
  induction digits generalizing word with
  | nil => exact Nat.le_refl word
  | cons d digits ih =>
    have := ih (word * 10 + digitValue d)
    change word ≤ extended (word * 10 + digitValue d) digits
    omega

/-- All digits fit exactly if the number does. -/
theorem absorb_eq_nil_iff {word : Nat} (h : word ≤ Text.wordLimit) (digits : Bytes) :
    (absorb word digits).2 = [] ↔ extended word digits ≤ Text.wordLimit := by
  induction digits generalizing word with
  | nil => simpa [absorb, extended] using h
  | cons d digits ih =>
    unfold absorb
    split
    · rename_i excess
      have := le_extended (word * 10 + digitValue d) digits
      have beyond : ¬ extended word (d :: digits) ≤ Text.wordLimit :=
        Nat.not_le_of_lt (Nat.lt_of_lt_of_le excess this)
      exact iff_of_false (List.cons_ne_nil d digits) beyond
    · rename_i within
      exact ih (Nat.le_of_not_lt within)

/-- What a number in a document is if the digits of a natural number stand there: this number. -/
inductive Number.Names : Number → Nat → Prop where
  | natural (n : Nat) : Names (.natural n) n
  | large (n : Nat) (x : Float) (excess : Text.wordLimit < n) : Names (.large n x) n

/-- An octet with which no number goes on. -/
def endsNumber (b : UInt8) : Bool := !isDigit b && b != 0x2E && !marksExponent b

/-- The octet of a digit is a digit. -/
theorem isDigit_octet {c : Char} (h : c.isDigit = true) : isDigit (Bytes.octet c) = true := by
  obtain ⟨low, high⟩ := Text.bounds_of_isDigit h
  simp only [isDigit, Bytes.octet, Bool.and_eq_true, decide_eq_true_eq, UInt8.le_iff_toNat_le]
  simp
  omega

/-- The octet of a digit is worth what the digit is. -/
theorem digitValue_octet {c : Char} (h : c.isDigit = true) :
    digitValue (Bytes.octet c) = c.toNat - '0'.toNat := by
  obtain ⟨low, high⟩ := Text.bounds_of_isDigit h
  simp [digitValue, Bytes.octet]
  omega

/-- A word is extended by the octets of digits as it is by the digits. -/
theorem extended_octets {chars : List Char} (h : ∀ c ∈ chars, c.isDigit = true) (word : Nat) :
    extended word (chars.map Bytes.octet) = Nat.ofDigitChars 10 chars word := by
  induction chars generalizing word with
  | nil => rfl
  | cons c chars ih =>
    rw [List.forall_mem_cons] at h
    rw [Nat.ofDigitChars_cons, ← ih h.2, Nat.mul_comm, ← digitValue_octet h.1]
    rfl

/-- The octets of a numeral make its number. -/
theorem extended_ofText_decimal (n : Nat) : extended 0 (Bytes.ofText (Text.decimal n)) = n := by
  rw [Text.ofText_decimal, extended_octets Text.isDigit_of_mem, Nat.ofDigitChars_ten_toDigits]

section

variable {n : Nat} {rest : Bytes} (ends : ∀ b ∈ rest.head?, endsNumber b = true)

include ends

/-- Where a number ends behind its whole part, it is the whole number. -/
theorem afterWhole_of_ends (word : Nat) (unread : Bytes) :
    afterWhole true word unread rest = wholeNumber true word unread rest := by
  cases rest with
  | nil => rfl
  | cons b rest =>
    have last := ends b rfl
    simp only [endsNumber, Bool.and_eq_true, Bool.not_eq_true', bne_iff_ne] at last
    simp [afterWhole, last]

/-- A numeral behind which no number goes on is a whole number. -/
theorem numberAfterSign_numeral :
    numberAfterSign true (Bytes.ofText (Text.decimal n) ++ rest) =
      wholeNumber true (absorb 0 (Bytes.ofText (Text.decimal n))).1
        (absorb 0 (Bytes.ofText (Text.decimal n))).2 rest := by
  have digits := Text.isDigit_of_mem (n := n)
  rw [Text.ofText_decimal]
  cases shape : Nat.toDigits 10 n with
  | nil => exact absurd shape Nat.toDigits_ne_nil
  | cons c more =>
    rw [shape, List.forall_mem_cons] at digits
    have octets : ∀ b ∈ more.map Bytes.octet, isDigit b = true := by
      intro b member
      obtain ⟨d, digit, rfl⟩ := List.mem_map.mp member
      exact isDigit_octet (digits.2 d digit)
    have stop : ∀ b ∈ rest.head?, isDigit b = false := by
      intro b first
      have last := ends b first
      simp only [endsNumber, Bool.and_eq_true, Bool.not_eq_true'] at last
      exact last.1.1
    obtain ⟨run, after⟩ := Text.span_of_boundary octets stop
    simp only [List.map_cons, List.cons_append, numberAfterSign, isDigit_octet digits.1, Bool.not_true,
      Bool.false_eq_true, if_false, digitsOf, afterDigits, run, after, afterWhole_of_ends ends]
    split
    · rename_i zero
      -- The zero stands alone, since no other numeral starts with one.
      have first : c = '0' := by
        obtain ⟨low, high⟩ := Text.bounds_of_isDigit digits.1
        have same : c.toNat % 256 = 48 := by simpa [Bytes.octet] using congrArg UInt8.toNat zero
        exact Char.toNat_inj.mp (show c.toNat = 48 by omega)
      rcases Nat.eq_zero_or_pos n with none | positive
      · subst none
        cases shape
        exact afterWhole_of_ends ends 0 []
      · exact absurd (by rw [shape, first]; rfl) (Text.head?_toDigits_ne positive)
    · rfl

/-- A numeral of sixty-four binary places is read as its number. -/
theorem numberAfterSign_of_le (small : n ≤ Text.wordLimit) :
    numberAfterSign true (Bytes.ofText (Text.decimal n) ++ rest) = .ok (.natural n, rest) := by
  have fits : (absorb 0 (Bytes.ofText (Text.decimal n))).2 = [] := by
    rwa [absorb_eq_nil_iff (Nat.zero_le _), extended_ofText_decimal]
  have all := extended_absorb 0 (Bytes.ofText (Text.decimal n))
  rw [fits, extended_ofText_decimal] at all
  rw [numberAfterSign_numeral ends, fits]
  exact congrArg (fun word => Except.ok (Number.natural word, rest)) all

/-- Whatever is read of a numeral tells its number. -/
theorem names_of_numberAfterSign {number : Number} {t : Bytes}
    (h : numberAfterSign true (Bytes.ofText (Text.decimal n) ++ rest) = .ok (number, t)) :
    number.Names n ∧ t = rest := by
  by_cases small : n ≤ Text.wordLimit
  · rw [numberAfterSign_of_le ends small] at h
    cases h
    exact ⟨.natural n, rfl⟩
  · have beyond : (absorb 0 (Bytes.ofText (Text.decimal n))).2.isEmpty = false := by
      rwa [List.isEmpty_eq_false_iff, ne_eq, absorb_eq_nil_iff (Nat.zero_le _), extended_ofText_decimal]
    rw [numberAfterSign_numeral ends, wholeNumber, beyond] at h
    simp only [Bool.not_false, if_true, largeNumber, extended_absorb, extended_ofText_decimal] at h
    split at h
    · cases h
    · cases h
      exact ⟨.large n _ (Nat.lt_of_not_le small), rfl⟩

end

end ChatGateway.Json
