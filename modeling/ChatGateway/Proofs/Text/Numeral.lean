import ChatGateway.Proofs.Text.Octets
import ChatGateway.Text.Natural
import Mathlib.Data.Nat.Digits.Defs

/-!
# Numerals

A numeral is at least one digit, and there may be a plus sign before. The numeral that is written for a
number is read as this number; no zero stands at its front unless it is the numeral of zero.

What is read is exactly what a numeral is worth by the places of its digits, of whatever length it is.
-/

namespace ChatGateway.Text

/-- What has a property and what follows it are told apart where the property ends. -/
theorem span_of_boundary {α : Type} {p : α → Bool} {front rest : List α}
    (inside : ∀ a ∈ front, p a = true) (boundary : ∀ a ∈ rest.head?, p a = false) :
    (front ++ rest).takeWhile p = front ∧ (front ++ rest).dropWhile p = rest := by
  have stops : rest.takeWhile p = [] ∧ rest.dropWhile p = rest := by
    cases rest with
    | nil => exact ⟨rfl, rfl⟩
    | cons a rest => simp [boundary a rfl]
  rw [List.takeWhile_append_of_pos inside, List.dropWhile_append_of_pos inside, stops.1, stops.2,
    List.append_nil]
  exact ⟨rfl, rfl⟩

/-- The digits are the characters between two code points. -/
theorem bounds_of_isDigit {c : Char} (h : c.isDigit = true) : 48 ≤ c.toNat ∧ c.toNat ≤ 57 := by
  simp only [Char.isDigit, Bool.and_eq_true, decide_eq_true_eq] at h
  exact ⟨UInt32.le_iff_toNat_le.mp h.1, UInt32.le_iff_toNat_le.mp h.2⟩

/-- What holds of the ten digits holds of every digit. -/
theorem forall_of_isDigit {p : Char → Prop} {chars : List Char} (basic : ∀ d < 10, p (Nat.digitChar d))
    (h : ∀ c ∈ chars, c.isDigit = true) : ∀ c ∈ chars, p c := by
  intro c member
  obtain ⟨low, high⟩ := bounds_of_isDigit (h c member)
  have listed : ∀ d < 10, Nat.digitChar d = Char.ofNat (48 + d) := by decide
  have among : c.toNat - 48 < 10 := by omega
  have found := basic _ among
  rwa [listed _ among, Nat.add_sub_cancel' low, Char.ofNat_toNat] at found

/-- No digit is a character that is none. -/
theorem ne_of_isDigit {c other : Char} (h : c.isDigit = true) (none : other.isDigit = false) :
    c ≠ other := by
  rintro rfl
  exact Bool.false_ne_true (none.symm.trans h)

/-- A digit is read as its distance from zero. -/
theorem digit?_of_isDigit {c : Char} (h : c.isDigit = true) :
    digit? c = some (c.toNat - '0'.toNat) := by
  have basic : ('0' ≤ c && c ≤ '9') = true := by
    simpa [Char.isDigit, Char.le_def, Bool.and_eq_true] using h
  rw [digit?, if_pos basic]

/-- What is read as a digit is one. -/
theorem isDigit_of_digit? {c : Char} {d : Nat} (h : digit? c = some d) : c.isDigit = true := by
  simp only [digit?, Option.ite_none_right_eq_some, Bool.and_eq_true, decide_eq_true_eq] at h
  simpa [Char.isDigit, Char.le_def] using h.1

/-- What is read as digits behind a value are digits. -/
theorem isDigit_of_appendDigits? {chars : List Char} {value n : Nat}
    (h : appendDigits? value chars = some n) : ∀ c ∈ chars, c.isDigit = true := by
  induction chars generalizing value with
  | nil => exact nofun
  | cons c chars ih =>
    obtain ⟨d, digit, rest⟩ := Option.bind_eq_some_iff.mp h
    exact List.forall_mem_cons.mpr ⟨isDigit_of_digit? digit, ih rest⟩

/-- What is read as digits are digits. -/
theorem isDigit_of_digits? {chars : List Char} {n : Nat} (h : digits? chars = some n) :
    ∀ c ∈ chars, c.isDigit = true := by
  cases chars with
  | nil => exact nofun
  | cons c rest => exact isDigit_of_appendDigits? h

/-- A numeral is digits, and there may be a plus sign before. -/
theorem form_of_natural? {chars : List Char} {n : Nat} (h : natural? chars = some n) :
    ∃ digits, (chars = digits ∨ chars = '+' :: digits) ∧ digits? digits = some n ∧
      ∀ c ∈ digits, c.isDigit = true := by
  unfold natural? at h
  split at h
  · rename_i rest
    exact ⟨rest, .inr rfl, h, isDigit_of_digits? h⟩
  · exact ⟨chars, .inl rfl, h, isDigit_of_digits? h⟩

/-- Digits are read one by one, the last one as the unit. -/
theorem appendDigits?_of_isDigit {chars : List Char} (h : ∀ c ∈ chars, c.isDigit = true) (value : Nat) :
    appendDigits? value chars = some (Nat.ofDigitChars 10 chars value) := by
  induction chars generalizing value with
  | nil => rfl
  | cons c chars ih =>
    rw [List.forall_mem_cons] at h
    rw [appendDigits?, digit?_of_isDigit h.1, Option.bind_some, ih h.2, Nat.ofDigitChars_cons,
      Nat.mul_comm]

/-- In base ten digits have the same value. -/
theorem inBase?_ten {chars : List Char} (h : ∀ c ∈ chars, c.isDigit = true) :
    inBase? 10 chars = digits? chars := by
  have same (value : Nat) : appendInBase? 10 value chars = appendDigits? value chars := by
    induction chars generalizing value with
    | nil => rfl
    | cons c chars ih =>
      rw [List.forall_mem_cons] at h
      have read := digit?_of_isDigit h.1
      have hex : hexValue? c = some (c.toNat - '0'.toNat) := by
        rw [digit?, Option.ite_none_right_eq_some] at read
        rw [hexValue?, if_pos read.1]
      have below : c.toNat - 48 < 10 := by
        have := (bounds_of_isDigit h.1).2
        omega
      rw [appendInBase?, appendDigits?, read, hex]
      simp [Option.filter, below, ih h.2]
  cases chars with
  | nil => rfl
  | cons c rest => exact same 0

/-- The digits of a number in base ten. -/
theorem isDigit_of_mem {n : Nat} : ∀ c ∈ Nat.toDigits 10 n, c.isDigit = true :=
  fun _ member => Nat.isDigit_of_mem_toDigits (by decide) (by decide) member

/-- A numeral starts with a digit. -/
theorem exists_digit (n : Nat) : ∃ c more, Nat.toDigits 10 n = c :: more ∧ c.isDigit = true := by
  cases shape : Nat.toDigits 10 n with
  | nil => exact absurd shape Nat.toDigits_ne_nil
  | cons c more => exact ⟨c, more, rfl, isDigit_of_mem c (shape ▸ List.mem_cons_self)⟩

/-- The digits of a number are read as the number. -/
theorem digits?_toDigits (n : Nat) : digits? (Nat.toDigits 10 n) = some n := by
  have whole := appendDigits?_of_isDigit (isDigit_of_mem (n := n)) 0
  rw [Nat.ofDigitChars_ten_toDigits] at whole
  cases shape : Nat.toDigits 10 n with
  | nil => exact absurd shape Nat.toDigits_ne_nil
  | cons c rest => rwa [shape] at whole

/-- The digits of a number are its numeral. -/
theorem natural?_toDigits (n : Nat) : natural? (Nat.toDigits 10 n) = some n := by
  unfold natural?
  split
  · rename_i rest shape
    have plus := isDigit_of_mem (n := n) '+' (shape ▸ List.mem_cons_self)
    exact absurd plus (by decide)
  · exact digits?_toDigits n

/-- The numeral of a number is read as this number. -/
theorem natural?_decimal (n : Nat) : natural? (decimal n).toList = some n := by
  rw [decimal, String.toList_ofList]
  exact natural?_toDigits n

/-- No zero stands at the front of the numeral of a positive number. -/
theorem head?_toDigits_ne {n : Nat} (h : 0 < n) : (Nat.toDigits 10 n).head? ≠ some '0' := by
  induction n using Nat.strongRecOn with
  | ind n ih =>
    by_cases small : n < 10
    · have single : ∀ d < 10, 0 < d → [d.digitChar].head? ≠ some '0' := by decide
      rw [Nat.toDigits_of_lt_base small]
      exact single n small h
    · have large : 10 ≤ n := Nat.le_of_not_lt small
      have front := ih (n / 10) (Nat.div_lt_self h (by decide)) (Nat.div_pos large (by decide))
      rw [Nat.toDigits_of_base_le (by decide) large]
      cases shape : Nat.toDigits 10 (n / 10) with
      | nil => exact absurd shape Nat.toDigits_ne_nil
      | cons c rest => rwa [shape] at front

/-- The number that digits write: the last one counts units, the one before it tens, and so on. -/
def worth (digits : List Char) : Nat :=
  Nat.ofDigits 10 (digits.reverse.map fun c => c.toNat - '0'.toNat)

/-- A sign and digits are a numeral of a number. -/
structure NumeralOf (n : Nat) (sign digits : List Char) : Prop where
  sign : sign = [] ∨ sign = ['+']
  nonempty : digits ≠ []
  basic : ∀ c ∈ digits, c.isDigit = true
  worth : worth digits = n

/-- Digits behind a value are worth what they are alone, and the value times a power of ten. -/
theorem ofDigitChars_eq (digits : List Char) (value : Nat) :
    Nat.ofDigitChars 10 digits value = worth digits + 10 ^ digits.length * value := by
  induction digits generalizing value with
  | nil => simp [worth, Nat.ofDigitChars]
  | cons c digits ih =>
    have front : worth (c :: digits) =
        worth digits + 10 ^ digits.length * (c.toNat - '0'.toNat) := by
      simp [worth, Nat.ofDigits_append]
    rw [Nat.ofDigitChars_cons, ih, front, List.length_cons, pow_succ, Nat.mul_add]
    ring

/-- Digits are read as the number that they write. -/
theorem digits?_eq_some_iff {chars : List Char} {n : Nat} :
    digits? chars = some n ↔ chars ≠ [] ∧ (∀ c ∈ chars, c.isDigit = true) ∧ worth chars = n := by
  cases chars with
  | nil => simp [digits?]
  | cons c rest =>
    have read (basic : ∀ d ∈ c :: rest, d.isDigit = true) :
        digits? (c :: rest) = some (worth (c :: rest)) := by
      rw [digits?, appendDigits?_of_isDigit basic, ofDigitChars_eq, Nat.mul_zero, Nat.add_zero]
    constructor
    · intro h
      have basic := isDigit_of_digits? h
      rw [read basic] at h
      exact ⟨List.cons_ne_nil c rest, basic, Option.some.inj h⟩
    · rintro ⟨-, basic, rfl⟩
      exact read basic

/-- Exactly the numerals are read, each as its number. -/
theorem natural?_eq_some_iff {chars : List Char} {n : Nat} :
    natural? chars = some n ↔ ∃ sign digits, chars = sign ++ digits ∧ NumeralOf n sign digits := by
  constructor
  · intro h
    obtain ⟨digits, form, read, _⟩ := form_of_natural? h
    obtain ⟨nonempty, basic, worth⟩ := digits?_eq_some_iff.mp read
    rcases form with rfl | rfl
    · exact ⟨[], chars, rfl, .inl rfl, nonempty, basic, worth⟩
    · exact ⟨['+'], digits, rfl, .inr rfl, nonempty, basic, worth⟩
  · rintro ⟨sign, digits, rfl, numeral⟩
    have read := digits?_eq_some_iff.mpr ⟨numeral.nonempty, numeral.basic, numeral.worth⟩
    rcases numeral.sign with rfl | rfl
    · rw [List.nil_append]
      unfold natural?
      split
      · exact absurd (numeral.basic '+' List.mem_cons_self) (by decide)
      · exact read
    · exact read

/-- The octets of a numeral are those of its digits. -/
theorem ofText_decimal (n : Nat) :
    Bytes.ofText (decimal n) = (Nat.toDigits 10 n).map Bytes.octet := by
  refine Bytes.ofText_ofList_of_basic fun c member => ?_
  have := (bounds_of_isDigit (isDigit_of_mem c member)).2
  omega

end ChatGateway.Text
