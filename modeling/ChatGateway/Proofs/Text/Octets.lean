import ChatGateway.Gateway.Uuid
import ChatGateway.Json.Lexeme

/-!
# Octets of texts

The octets of a text are those of its characters, one after the other, and a character of the
basic range has a single octet. So a field value that can be shown as a text is the octets of
that text, and the text of an identifier may stand in a field.
-/

namespace ChatGateway

namespace Bytes

/-- The octets of a text are those of its characters in order. -/
theorem ofText_ofList (chars : List Char) :
    ofText (String.ofList chars) = chars.flatMap String.utf8EncodeChar := by
  simp [ofText, List.utf8Encode]

/-- Different texts have different octets. -/
theorem ofText_inj {a b : String} : ofText a = ofText b ↔ a = b := by
  refine ⟨fun h => ?_, congrArg ofText⟩
  have read := toText?_ofText a
  rw [h, toText?_ofText b] at read
  exact (Option.some_inj.mp read).symm

/-- A character of the basic range has one octet. -/
theorem utf8EncodeChar_of_basic {c : Char} (h : c.toNat < 0x80) :
    String.utf8EncodeChar c = [octet c] := by
  have small : c.toNat ≤ 0x7F := by omega
  simp [String.utf8EncodeChar, small, octet]

/-- A text of the basic range has one octet for each character. -/
theorem ofText_ofList_of_basic {chars : List Char} (h : ∀ c ∈ chars, c.toNat < 0x80) :
    ofText (String.ofList chars) = chars.map octet := by
  rw [ofText_ofList]
  induction chars with
  | nil => rfl
  | cons c rest ih =>
    rw [List.forall_mem_cons] at h
    simp [utf8EncodeChar_of_basic h.1, ih h.2]

/-- The code point of the character of an octet. -/
theorem toNat_character (b : UInt8) : (character b).toNat = b.toNat := by
  have hb := b.toNat_lt
  have valid : b.toNat.isValidChar := Or.inl (by omega)
  have made : character b = Char.ofNatAux b.toNat valid := dif_pos valid
  rw [made]
  rfl

/-- The octet of the character of an octet is the octet. -/
theorem octet_character (b : UInt8) : octet (character b) = b := by
  simp [octet, toNat_character]

/-- Octets of the basic range are the octets of the text that they spell. -/
theorem ofText_ofList_character {bytes : Bytes} (h : ∀ b ∈ bytes, b < 0x80) :
    ofText (String.ofList (bytes.map character)) = bytes := by
  rw [ofText_ofList_of_basic]
  · rw [List.map_map]
    exact (List.map_congr_left fun b _ => octet_character b).trans bytes.map_id
  · intro c hc
    obtain ⟨b, hb, rfl⟩ := List.mem_map.mp hc
    simpa [toNat_character, UInt8.lt_iff_toNat_lt] using h b hb

end Bytes

namespace Http

/-- A visible octet is a basic one. -/
theorem isVisible_basic {b : UInt8} (h : isVisible b = true) : b < 0x80 := by
  simp only [isVisible, Bool.or_eq_true, Bool.and_eq_true, decide_eq_true_eq] at h
  simp only [UInt8.lt_iff_toNat_lt, UInt8.le_iff_toNat_le, ← UInt8.toNat_inj] at h ⊢
  simp at h ⊢
  omega

/-- A visible octet may stand in a field. -/
theorem isFieldOctet_of_isVisible {b : UInt8} (h : isVisible b = true) : isFieldOctet b = true := by
  simp only [isVisible, isFieldOctet, Bool.or_eq_true, Bool.and_eq_true, decide_eq_true_eq,
    ne_eq] at h ⊢
  simp only [UInt8.lt_iff_toNat_lt, UInt8.le_iff_toNat_le, ← UInt8.toNat_inj] at h ⊢
  simp at h ⊢
  omega

/-- Only visible values are shown. -/
theorem visible_of_visibleText {value : Bytes} {text : String}
    (h : visibleText? value = some text) : value.all isVisible = true := by
  unfold visibleText? at h
  split at h
  · assumption
  · contradiction

/-- What is shown of a visible value has the value as its octets. -/
theorem ofText_visibleText {value : Bytes} {text : String} (h : visibleText? value = some text) :
    Bytes.ofText text = value := by
  have visible := visible_of_visibleText h
  rw [visibleText?, if_pos visible, Option.some_inj] at h
  rw [← h]
  exact Bytes.ofText_ofList_character fun b hb =>
    isVisible_basic (List.all_eq_true.mp visible b hb)

/-- The octets of a text are shown as the text if they are visible. -/
theorem visibleText?_ofText {text : String} (h : (Bytes.ofText text).all isVisible = true) :
    visibleText? (Bytes.ofText text) = some text := by
  have shown : visibleText? (Bytes.ofText text) =
      some (String.ofList ((Bytes.ofText text).map Bytes.character)) := if_pos h
  rw [shown, Bytes.ofText_inj.mp (ofText_visibleText shown)]

/-- Visible octets may stand in a field. -/
theorem isFieldValue_of_visible {value : Bytes} (h : value.all isVisible = true) :
    isFieldValue value = true := by
  rw [isFieldValue, List.all_eq_true]
  exact fun b hb => isFieldOctet_of_isVisible (List.all_eq_true.mp h b hb)

end Http

namespace Text

/-- A hexadecimal digit is visible and basic. -/
theorem hexDigit_visible : ∀ n < 16, Http.isVisible (Bytes.octet (hexDigit n)) = true ∧
    (hexDigit n).toNat < 0x80 := by decide

/-- Hexadecimal digits are visible characters of the basic range. -/
theorem hexDigits_visible (width n : Nat) :
    ∀ c ∈ hexDigits width n, Http.isVisible (Bytes.octet c) = true ∧ c.toNat < 0x80 := by
  induction width generalizing n with
  | zero => simp [hexDigits]
  | succ width ih =>
    intro c hc
    rcases List.mem_append.mp hc with hbefore | hlast
    · exact ih (n / 16) c hbefore
    · rw [List.mem_singleton.mp hlast]
      exact hexDigit_visible (n % 16) (Nat.mod_lt n (by decide))

end Text

namespace Uuid

/-- The characters of an identifier are visible and basic. -/
theorem chars_visible (uuid : Uuid) :
    ∀ c ∈ uuid.chars, Http.isVisible (Bytes.octet c) = true ∧ c.toNat < 0x80 := by
  have dash : Http.isVisible (Bytes.octet '-') = true ∧ '-'.toNat < 0x80 := by decide
  have four : Http.isVisible (Bytes.octet '4') = true ∧ '4'.toNat < 0x80 := by decide
  have variantDigit := Text.hexDigit_visible (8 + (uuid.bits.toNat >>> 62) % 4) (by omega)
  intro c hc
  simp only [chars, List.mem_append, List.mem_cons] at hc
  rcases hc with ((((h | rfl | h) | rfl | rfl | h) | rfl | rfl | h) | rfl | h)
  · exact Text.hexDigits_visible _ _ c h
  · exact dash
  · exact Text.hexDigits_visible _ _ c h
  · exact dash
  · exact four
  · exact Text.hexDigits_visible _ _ c h
  · exact dash
  · exact variantDigit
  · exact Text.hexDigits_visible _ _ c h
  · exact dash
  · exact Text.hexDigits_visible _ _ c h

/-- The octets of an identifier's text are visible. -/
theorem text_visible (uuid : Uuid) : (Bytes.ofText uuid.text).all Http.isVisible = true := by
  rw [text, Bytes.ofText_ofList_of_basic fun c hc => (uuid.chars_visible c hc).2, List.all_map,
    List.all_eq_true]
  exact fun c hc => (uuid.chars_visible c hc).1

end Uuid

end ChatGateway
