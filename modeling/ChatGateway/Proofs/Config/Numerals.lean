import ChatGateway.Config.File
import ChatGateway.Proofs.Config.Port
import ChatGateway.Proofs.Json.Numeral
import ChatGateway.Proofs.Json.Written

/-!
# What formats make of numerals

Each format of configuration files reads the numeral of a number as a setting that is this number, or
refuses it. None reads it as another number. In files of sections every value stays a text, and so a
numeral does.
-/

namespace ChatGateway

/-! ## JSON -/

namespace Json

/-- A numeral is a value at any depth. -/
theorem read_upTo_decimal (depth n : Nat) (rest : Bytes) :
    (Value.upTo depth).read (Bytes.ofText (Text.decimal n) ++ rest) =
      (numberAfterSign true (Bytes.ofText (Text.decimal n) ++ rest)).map fun (number, t) =>
        (.number number, t) := by
  obtain ⟨b, more, octets, digit, solid⟩ := exists_digit_decimal n
  have range : 0x30 ≤ b.toNat ∧ b.toNat ≤ 0x39 := by
    simpa [isDigit, UInt8.le_iff_toNat_le] using digit
  have different (c : UInt8) (h : c.toNat < 0x30 ∨ 0x39 < c.toNat) : b ≠ c := by
    rintro rfl
    omega
  have scalar : readScalar b (more ++ rest) =
      (numberAfterSign true (b :: (more ++ rest))).map fun (number, t) => (.number number, t) := by
    simp only [readScalar, different 0x6E (by decide), different 0x74 (by decide),
      different 0x66 (by decide), different 0x2D (by decide), digit, if_false, if_true]
  rw [octets, List.cons_append, ← scalar]
  cases depth with
  | zero =>
    change readFlat _ = _
    rw [readFlat, skipSpace_of_isSpace solid]
    simp only [different 0x5B (by decide), different 0x7B (by decide)]
    rfl
  | succ depth =>
    change readValue _ _ = _
    rw [readValue, skipSpace_of_isSpace solid]
    simp only [different 0x5B (by decide), different 0x7B (by decide)]
    rfl

/-- The document that gives a port is an object with this number, or its numeral cannot be read. -/
theorem read_portText (n : Nat) :
    (∃ number : Number, number.Names n ∧
      Value.reader.read (Bytes.ofText (ListenAddress.portText n)) =
        .ok (.object [("port", .number number)], [])) ∨
      (Text.wordLimit < n ∧
        ∃ fault, Value.reader.read (Bytes.ofText (ListenAddress.portText n)) = .error fault) := by
  let part := Value.upTo 126
  let numeral := Bytes.ofText (Text.decimal n) ++ [0x7D]
  have closing : ∀ b ∈ ([0x7D] : Bytes).head?, endsNumber b = true := by
    rintro _ ⟨⟩
    decide
  have first (t : Bytes) : nextName ([] : List (String × Value)).isEmpty (quoteMark :: t) = .ok (some t) :=
    nextName_quoteMark t
  have members : readPairs part [] (writeText "port" ++ 0x3A :: numeral) =
      ((part.read numeral).mapError (·.inside (.member "port"))).bind fun taken =>
        readPairs part [("port", taken.1)] taken.2 := by
    rw [writeText_append, readPairs_member (first _) (textAfterMark_written "port" _), readMember_colon]
    cases part.read numeral <;> rfl
  have object : Value.reader.read (Bytes.ofText (ListenAddress.portText n)) =
      closedBy .object closeObject (readPairs part [] (writeText "port" ++ 0x3A :: numeral)) := by
    rw [ListenAddress.ofText_portText]
    change readValue part (0x7B :: _) = _
    rw [readValue, skipSpace_of_isSpace (by decide)]
    rfl
  rw [members, read_upTo_decimal] at object
  cases scanned : numberAfterSign true numeral with
  | error fault =>
    refine .inr ⟨Nat.lt_of_not_le fun small => ?_, _, by rw [object, scanned]; rfl⟩
    cases scanned.symm.trans (numberAfterSign_of_le closing small)
  | ok taken =>
    obtain ⟨number, rest⟩ := taken
    obtain ⟨names, rfl⟩ := names_of_numberAfterSign closing scanned
    rw [scanned] at object
    change _ = closedBy _ _ (readPairs part [("port", .number number)] [0x7D]) at object
    rw [readPairs_closing] at object
    exact .inl ⟨number, names, object⟩

end Json

namespace Config

/-- The setting of a number is this number. -/
theorem names_ofNumber {number : Json.Number} {n : Nat} (h : number.Names n) :
    (ofNumber number).Names n := by
  cases h with
  | natural => exact .whole n
  | large _ kept => exact .large n kept

/-! ## Other formats -/

section

variable {chars : List Char} {n : Nat}

/-- Digits have no sign. -/
theorem splitSign_of_digits (all : ∀ c ∈ chars, c.isDigit = true) :
    Decimal.splitSign chars = (false, chars) := by
  rw [Decimal.splitSign]
  · rintro _ rfl
    exact absurd (all '-' List.mem_cons_self) (by decide)
  · rintro _ rfl
    exact absurd (all '+' List.mem_cons_self) (by decide)

/-- The sign of a numeral is not negative, and what follows it are the digits of the number. -/
theorem splitSign_of_natural? (h : Text.natural? chars = some n) :
    (Decimal.splitSign chars).1 = false ∧ Text.digits? (Decimal.splitSign chars).2 = some n := by
  obtain ⟨digits, form, read, all⟩ := Text.form_of_natural? h
  rcases form with rfl | rfl
  · rw [splitSign_of_digits all]
    exact ⟨rfl, read⟩
  · exact ⟨rfl, read⟩

/-- Behind the first character of a numeral there are digits. -/
theorem isDigit_second {first c : Char} {rest : List Char}
    (h : Text.natural? (first :: c :: rest) = some n) : c.isDigit = true := by
  obtain ⟨digits, form, -, all⟩ := Text.form_of_natural? h
  rcases form with rfl | plus
  · exact all c (List.mem_cons_of_mem _ List.mem_cons_self)
  · exact all c ((List.cons.inj plus).2 ▸ List.mem_cons_self)

/-- A scalar that is a numeral is its number. -/
theorem Yaml.names_plainNode {text : String} (h : Text.natural? text.toList = some n) :
    ∃ setting : Setting, setting.Names n ∧ Yaml.plainNode text = .leaf setting := by
  have different (word : String) (other : Text.natural? word.toList = none) : text ≠ word := by
    rintro rfl
    exact nomatch other.symm.trans h
  have whole : Yaml.plainWhole? text.toList = if Setting.isWhole n then some (n : Int) else none := by
    obtain ⟨sign, read⟩ := splitSign_of_natural? h
    have ten : Yaml.plainWhole? text.toList = Yaml.whole? 10 text.toList := by
      unfold Yaml.plainWhole?
      split
      · rename_i chars
        exact absurd (isDigit_second (chars ▸ h)) (by decide)
      · rename_i chars
        exact absurd (isDigit_second (chars ▸ h)) (by decide)
      · rfl
    rw [ten, Yaml.whole?]
    simp [sign, Text.inBase?_ten (Text.isDigit_of_digits? read), read, Option.filter]
  rw [Yaml.plainNode, if_neg, if_neg (different "true" (by decide)),
    if_neg (different "false" (by decide)), whole]
  · by_cases fits : Setting.isWhole n = true
    · rw [if_pos fits]
      exact ⟨_, .whole n, rfl⟩
    · rw [if_neg fits]
      cases Decimal.read? text.toList with
      | some x =>
        refine ⟨Yaml.realSetting text x, ?_, rfl⟩
        rw [Yaml.realSetting, h]
        exact .large n x
      | none =>
        have special : ∀ word ∈ Yaml.specialReals, Text.natural? word.toList = none := by decide
        have none : ¬ Yaml.specialReals.contains text = true := by
          intro listed
          exact different text (special text (List.contains_iff_mem.mp listed)) rfl
        exact ⟨.text text, .numeral h, if_neg none⟩
  · simp [different "~" (by decide), different "null" (by decide)]

/-- A number without point and exponent is its digits, or it is refused. -/
theorem Json5.numberNode_of_natural? (h : Text.natural? chars = some n) :
    Json5.numberNode chars =
      if Setting.isWhole n then .leaf (.whole n) else .unusable "error parsing integer" := by
  have inside : ∀ c ∈ chars, c = '+' ∨ c.isDigit = true := by
    obtain ⟨digits, form, -, all⟩ := Text.form_of_natural? h
    rcases form with rfl | rfl
    · exact fun c member => .inr (all c member)
    · exact List.forall_mem_cons.mpr ⟨.inl rfl, fun c member => .inr (all c member)⟩
  have different (word : String) (other : Text.natural? word.toList = none) :
      String.ofList chars ≠ word := by
    rintro rfl
    rw [String.toList_ofList, h] at other
    exact nomatch other
  have hex : Json5.hexDigits? chars = none := by
    unfold Json5.hexDigits?
    split
    · rename_i mark digits
      have digit := isDigit_second h
      rw [if_neg]
      simp [Text.ne_of_isDigit digit (show 'x'.isDigit = false by decide),
        Text.ne_of_isDigit digit (show 'X'.isDigit = false by decide)]
    · rfl
  have plain : chars.any (fun c => c = '.' || c = 'e' || c = 'E') = false := by
    rw [List.any_eq_false]
    intro c member mark
    have letter : c = '.' ∨ c = 'e' ∨ c = 'E' := by simpa [or_assoc] using mark
    have none : ¬ (c = '+' ∨ c.isDigit = true) := by
      rcases letter with rfl | rfl | rfl <;> decide
    exact none (inside c member)
  have whole : Json5.numberNode chars = Json5.wholeNode chars := by
    rw [Json5.numberNode, hex]
    simp only [different "Infinity" (by decide), different "-Infinity" (by decide),
      different "NaN" (by decide), different "-NaN" (by decide), plain, if_false, decide_false,
      Bool.or_false, Bool.false_eq_true]
  obtain ⟨sign, digits⟩ := splitSign_of_natural? h
  rw [whole]
  simp only [Json5.wholeNode, sign, digits, Bool.false_eq_true, if_false]

/-- Digits are read in base ten. -/
theorem Ron.inBase?_of_digits? (h : Text.digits? chars = some n) : Ron.inBase? chars = some n := by
  have all := Text.isDigit_of_digits? h
  unfold Ron.inBase?
  split
  · exact absurd (all 'x' (by simp)) (by decide)
  · exact absurd (all 'o' (by simp)) (by decide)
  · exact absurd (all 'b' (by simp)) (by decide)
  · exact h

/-- A number without point and exponent is its digits, or it is refused. -/
theorem Ron.number_of_natural? {cursor : Text.Cursor}
    (h : Text.natural? ((cursor.run Ron.isNumberChar).filter (· ≠ '_')) = some n) :
    let next := cursor.skip (cursor.run Ron.isNumberChar).length
    Ron.number cursor =
      if Setting.isWhole n then .ok (.leaf (.whole n), next)
      else Ron.refuse next "Integer is out of bounds" := by
  obtain ⟨sign, digits⟩ := splitSign_of_natural? h
  simp only [Ron.number, sign, inBase?_of_digits? digits, Bool.false_eq_true, if_false]

end

namespace Toml

/-- Two digits are read as such. -/
theorem digits_of_two? {limit n : Nat} {s more : List Char} (h : two? limit s = some (n, more)) :
    ∃ a b, s = a :: b :: more ∧ ∀ c ∈ [a, b], c.isDigit = true := by
  unfold two? at h
  split at h
  · rename_i a b rest
    obtain ⟨value, read, taken⟩ := Option.map_eq_some_iff.mp h
    cases taken
    exact ⟨a, b, rfl, Text.isDigit_of_digits? (Option.filter_eq_some_iff.mp read).1⟩
  · exact nomatch h

section

variable {digits rest : List Char} (all : ∀ c ∈ digits, c.isDigit = true)

include all

/-- A character that is no digit is not among digits. -/
theorem not_mem_of_digits {c : Char} (h : c.isDigit = false) : c ∉ digits :=
  fun member => by simp [all c member] at h

/-- Digits have no underscores that could stand badly. -/
theorem goodUnderscores_of_digits : goodUnderscores Char.isDigit digits = true := by
  induction digits with
  | nil => rfl
  | cons c digits ih =>
    have rest := ih (List.forall_mem_cons.mp all).2
    have none : '_' ∉ c :: digits := not_mem_of_digits all (by decide)
    unfold goodUnderscores
    split
    · rename_i shape
      exact absurd (by simp [shape]) none
    · rename_i shape
      exact absurd (by simp [shape]) none
    · rename_i shape
      exact absurd (by simp [shape]) none
    · rename_i shape
      cases shape
      exact rest
    · rfl

/-- Digits without point and exponent are no real number. -/
theorem real?_of_digits : real? digits = none := by
  have inf : digits ≠ "inf".toList := by
    rintro rfl
    exact not_mem_of_digits all (show 'i'.isDigit = false by decide) (by decide)
  have nan : digits ≠ "nan".toList := by
    rintro rfl
    exact not_mem_of_digits all (show 'n'.isDigit = false by decide) (by decide)
  have mantissa : digits.takeWhile (fun c => c ≠ 'e' && c ≠ 'E') = digits := by
    rw [List.takeWhile_eq_self_iff]
    exact Text.forall_of_isDigit (by decide) all
  have point : digits.contains '.' = false := by
    rw [Bool.eq_false_iff]
    exact fun member => not_mem_of_digits all (by decide) (List.contains_iff_mem.mp member)
  simp only [real?, splitSign_of_digits all, inf, nan, if_false, mantissa, point,
    List.drop_length, List.drop_nil, List.isEmpty_nil, Bool.false_eq_true, if_true]
  cases decimalRun? (digits.takeWhile (· ≠ '.')) <;> rfl

/-- What follows digits tells whether they are a date or a time. -/
theorem moment?_of_digits
    (ends : ∀ c ∈ rest.head?, c.isDigit = false ∧ c ≠ '-' ∧ c ≠ ':') :
    moment? (digits ++ rest) = none := by
  have after := (Text.span_of_boundary all fun c first => (ends c first).1).2
  have follows {front more : List Char} {c : Char} (whole : digits ++ rest = front ++ c :: more)
      (run : ∀ d ∈ front, d.isDigit = true) (stop : c.isDigit = false) : rest.head? = some c := by
    rw [whole, List.dropWhile_append_of_pos run, List.dropWhile_cons_of_neg (by simp [stop])] at after
    rw [← after]
    rfl
  have date : date? (digits ++ rest) = none := by
    unfold date?
    cases year : Text.digits? ((digits ++ rest).take 4) with
    | none => rfl
    | some n =>
      simp only [Option.bind_eq_bind, Option.bind_some]
      split
      · rename_i more shape
        have whole : digits ++ rest = (digits ++ rest).take 4 ++ '-' :: more := by
          rw [← shape, List.take_append_drop]
        have dash := follows whole (Text.isDigit_of_digits? year) (by decide)
        exact absurd rfl (ends '-' dash).2.1
      · rfl
  have time : time? (digits ++ rest) = none := by
    unfold time?
    cases hours : two? 23 (digits ++ rest) with
    | none => rfl
    | some taken =>
      obtain ⟨n, more⟩ := taken
      obtain ⟨a, b, whole, run⟩ := digits_of_two? hours
      simp only [Option.bind_eq_bind, Option.bind_some]
      split
      · rename_i later
        have colon := follows (show digits ++ rest = [a, b] ++ ':' :: later from whole) run (by decide)
        exact absurd rfl (ends ':' colon).2.2
      · rfl
  rw [moment?, date]
  exact time

end

/-- A numeral is a whole number of its value. -/
theorem whole?_toDigits (n : Nat) : whole? (Nat.toDigits 10 n) = some (n : Int) := by
  have all := Text.isDigit_of_mem (n := n)
  have digits : digitRun? Char.isDigit (Nat.toDigits 10 n) = some (Nat.toDigits 10 n) := by
    have known : (Nat.toDigits 10 n).all (fun c => c.isDigit || c = '_') = true :=
      List.all_eq_true.mpr fun c member => by simp [all c member]
    have kept : (Nat.toDigits 10 n).filter (· ≠ '_') = Nat.toDigits 10 n :=
      List.filter_eq_self.mpr (Text.forall_of_isDigit (by decide) all)
    rw [digitRun?, kept]
    simp [goodUnderscores_of_digits all, known, Nat.toDigits_ne_nil]
  have run : decimalRun? (Nat.toDigits 10 n) = some (Nat.toDigits 10 n) := by
    have lawful : (decide ((Nat.toDigits 10 n).length = 1) ||
        decide ((Nat.toDigits 10 n).head? ≠ some '0')) = true := by
      rcases Nat.eq_zero_or_pos n with rfl | positive
      · rfl
      · rw [decide_eq_true (Text.head?_toDigits_ne positive), Bool.or_true]
    rw [decimalRun?, digits]
    exact if_pos lawful
  have base : inOtherBase? (Nat.toDigits 10 n) = none := by
    unfold inOtherBase?
    split
    · rename_i shape
      exact absurd (by simp [shape]) (not_mem_of_digits all (show 'x'.isDigit = false by decide))
    · rename_i shape
      exact absurd (by simp [shape]) (not_mem_of_digits all (show 'o'.isDigit = false by decide))
    · rename_i shape
      exact absurd (by simp [shape]) (not_mem_of_digits all (show 'b'.isDigit = false by decide))
    · rfl
  simp only [whole?, splitSign_of_digits all, base, run, Option.bind_some, Text.digits?_toDigits]
  rfl

/-- What can be read as a whole is. -/
theorem longest?_of_some {α : Type} {read : List Char → Option α} {token : List Char} {a : α}
    (full : token ≠ []) (h : read token = some a) : longest? read token = some (a, token.length) := by
  obtain ⟨length, size⟩ := Nat.exists_eq_succ_of_ne_zero (List.length_pos_iff.mpr full).ne'
  rw [longest?, size, List.range_succ_eq_map, List.findSome?_cons, ← size]
  simp [h]

/-- A number without point and exponent is its digits, or it is refused. -/
theorem number_toDigits {n : Nat} {rest : List Char}
    (ends : ∀ c ∈ rest.head?, isNumberChar c = false ∧ c ≠ ':') :
    number (Nat.toDigits 10 n ++ rest) =
      if Setting.isWhole n then .ok (.whole n, rest)
      else refuse (Nat.toDigits 10 n ++ rest) "number too large to fit in target type" := by
  have all := Text.isDigit_of_mem (n := n)
  have behind (c : Char) (first : c ∈ rest.head?) : c.isDigit = false ∧ c ≠ '-' ∧ c ≠ ':' := by
    have other := (ends c first).1
    simp only [isNumberChar, Char.isAlphanum, Bool.or_eq_false_iff, decide_eq_false_iff_not] at other
    exact ⟨other.1.1.1.1.2, other.2, (ends c first).2⟩
  have token : (Nat.toDigits 10 n ++ rest).takeWhile isNumberChar = Nat.toDigits 10 n := by
    have run : ∀ c ∈ Nat.toDigits 10 n, isNumberChar c = true :=
      Text.forall_of_isDigit (by decide) all
    exact (Text.span_of_boundary run fun c first => (ends c first).1).1
  have real : longest? real? (Nat.toDigits 10 n) = none := by
    rw [longest?, List.findSome?_eq_none_iff]
    intro i _
    rw [real?_of_digits fun c member => all c (List.mem_of_mem_take member)]
    rfl
  have whole := longest?_of_some Nat.toDigits_ne_nil (whole?_toDigits n)
  have nonnegative : ¬ (n : Int) < 0 := Int.not_lt.mpr (Int.natCast_nonneg n)
  simp only [number, token, moment?_of_digits all behind, real, whole, number.finish, nonnegative,
    List.drop_left, if_false]

end Toml

end Config

end ChatGateway
