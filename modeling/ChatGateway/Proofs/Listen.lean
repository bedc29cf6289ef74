import ChatGateway.Listen
import ChatGateway.Proofs.Envelope
import ChatGateway.Proofs.Json.Numeral

/-!
# Ports in documents

A document that gives a port is read as an address with this port and the usual host, exactly if the
port is one of sixteen binary places. Any other number is refused.
-/

namespace ChatGateway

namespace Json

variable {n limit : Nat} {rest : Bytes} (ends : ∀ b ∈ rest.head?, endsNumber b = true)

/-- The digits of a numeral start a number, and no space stands before them. -/
theorem exists_digit_decimal (n : Nat) :
    ∃ b more, Bytes.ofText (Text.decimal n) = b :: more ∧ isDigit b = true ∧ isSpace b = false := by
  have digits := Text.isDigit_of_mem (n := n)
  rw [Text.ofText_decimal]
  cases shape : Nat.toDigits 10 n with
  | nil => exact absurd shape Nat.toDigits_ne_nil
  | cons c more =>
    have digit := digits c (shape ▸ List.mem_cons_self)
    have octet := isDigit_octet digit
    refine ⟨Bytes.octet c, more.map Bytes.octet, rfl, octet, ?_⟩
    simp only [isDigit, Bool.and_eq_true, decide_eq_true_eq, UInt8.le_iff_toNat_le] at octet
    simp only [isSpace, Bool.or_eq_false_iff, decide_eq_false_iff_not, ← UInt8.toNat_inj]
    simp at octet ⊢
    omega

include ends

/-- A numeral is read as its number if this is not above the limit, and refused otherwise. -/
theorem readBounded_decimal (within : limit ≤ Text.wordLimit) (expected : String) :
    (n ≤ limit → readBounded limit expected (Bytes.ofText (Text.decimal n) ++ rest) = .ok (n, rest)) ∧
      (limit < n →
        ∃ fault, readBounded limit expected (Bytes.ofText (Text.decimal n) ++ rest) = .error fault) := by
  have read : readBounded limit expected (Bytes.ofText (Text.decimal n) ++ rest) =
      (numberAfterSign true (Bytes.ofText (Text.decimal n) ++ rest)).bind
        (bounded limit expected) := by
    obtain ⟨b, more, octets, digit, solid⟩ := exists_digit_decimal n
    have unsigned : b ≠ 0x2D := by
      rintro rfl
      exact absurd digit (by decide)
    rw [octets, List.cons_append, readBounded, skipSpace_of_isSpace solid]
    refine (if_neg unsigned).trans ((if_pos digit).trans ?_)
    cases numberAfterSign true (b :: (more ++ rest)) <;> rfl
  rw [read]
  constructor
  · intro small
    rw [numberAfterSign_of_le ends (Nat.le_trans small within)]
    simp [Except.bind, bounded, small]
  · intro large
    cases number : numberAfterSign true (Bytes.ofText (Text.decimal n) ++ rest) with
    | error fault => exact ⟨fault, rfl⟩
    | ok taken =>
      obtain ⟨value, t⟩ := taken
      cases (names_of_numberAfterSign ends number).1 with
      | natural => simp [Except.bind, bounded, Nat.not_le_of_lt large]
      | large _ x => simp [Except.bind, bounded]

end Json

namespace ListenAddress

/-- The document that gives a port. -/
def portText (port : Nat) : String := "\x7b\"port\":" ++ Text.decimal port ++ "\x7d"

/-- The document of a port is written out. -/
theorem ofText_portText (port : Nat) :
    Bytes.ofText (portText port) =
      0x7B :: (Json.writeText "port" ++ 0x3A :: (Bytes.ofText (Text.decimal port) ++ [0x7D])) := by
  have before : Bytes.ofText "\x7b\"port\":" = 0x7B :: (Json.writeText "port" ++ [0x3A]) := by decide
  have after : Bytes.ofText "\x7d" = [0x7D] := by decide
  have parts : Bytes.ofText (portText port) =
      Bytes.ofText "\x7b\"port\":" ++ Bytes.ofText (Text.decimal port) ++ Bytes.ofText "\x7d" := by
    simp [portText, Bytes.ofText]
  rw [parts, before, after]
  simp

/-- The member of an address that is its port. -/
def portMember : Json.Member Given :=
  ⟨"port", (·.port.isSome),
    (Json.Reader.upTo portLimit "u16").map fun port given => { given with port := some port }⟩

/-- The member for the port is found under its name. -/
theorem find?_portMember : shape.members.find? (·.name = "port") = some portMember := by
  simp [shape, portMember]

/-- A document that gives a port is an address with this port, if there is such a port. -/
theorem decode_portText (port : Nat) (address : ListenAddress) :
    shape.reader.decode (Bytes.ofText (portText port)) = .ok address ↔
      port ≤ portLimit ∧ address = ⟨"0.0.0.0", port⟩ := by
  have closing : ∀ b ∈ ([0x7D] : Bytes).head?, Json.endsNumber b = true := by
    rintro _ ⟨⟩
    decide
  obtain ⟨kept, refused⟩ := Json.readBounded_decimal closing
    (show portLimit ≤ Text.wordLimit by decide) "u16"
  by_cases small : port ≤ portLimit
  · have read : portMember.value.read (Bytes.ofText (Text.decimal port) ++ [0x7D]) =
        .ok (fun given => { given with port := some port }, [0x7D]) := by
      change (Json.readBounded _ _ _).map _ = _
      rw [kept small]
      rfl
    have whole : shape.reader.read (Bytes.ofText (portText port)) = .ok (⟨"0.0.0.0", port⟩, []) := by
      rw [ofText_portText]
      exact Json.Shape.readRecord_named find?_portMember rfl read rfl
    rw [(Json.Reader.decode_of_read whole).mpr rfl]
    simp [small, eq_comm]
  · obtain ⟨fault, refusal⟩ := refused (Nat.lt_of_not_le small)
    have read : portMember.value.read (Bytes.ofText (Text.decimal port) ++ [0x7D]) = .error fault := by
      change (Json.readBounded _ _ _).map _ = _
      rw [refusal]
      rfl
    have whole : shape.reader.read (Bytes.ofText (portText port)) = .error (fault.inside (.member "port")) := by
      rw [ofText_portText]
      exact Json.Shape.readRecord_of_error find?_portMember rfl read
    refine iff_of_false (fun decoded => ?_) fun fits => small fits.1
    obtain ⟨t, read, -⟩ := Json.Reader.read_of_decode decoded
    exact nomatch whole.symm.trans read

end ListenAddress

end ChatGateway
