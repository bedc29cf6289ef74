import ChatGateway.Envelope
import ChatGateway.Proofs.Json.Members

/-!
# Envelopes

What a document with one member that a record has is read as is decided by the member's value. An
envelope is a record of one text. It ends itself, and the envelope that is written around a text is
read as an envelope of that text.
-/

namespace ChatGateway

namespace Json

/-- A written text is read by the reader of texts, whatever follows it. -/
theorem Reader.read_text_written (written : String) (rest : Bytes) :
    text.read (writeText written ++ rest) = .ok (written, rest) := by
  change readText (writeText written ++ rest) = _
  rw [writeText_append, readText, skipSpace_quoteMark]
  exact textAfterMark_written written rest

namespace Shape

section

variable {σ α : Type} {shape : Shape σ α} {member : Member σ} {name : String} {value : Bytes}

/-- The members behind the written name of one that the record has. -/
theorem readMembers_named (known : shape.members.find? (·.name = name) = some member)
    (unset : member.isSet shape.empty = false) :
    readMembers shape.members true shape.empty (writeText name ++ 0x3A :: value) =
      match member.value.read value with
      | .error fault => .error (fault.inside (.member name))
      | .ok (change, rest) => readMembers shape.members false (change shape.empty) rest := by
  have first : nextName true (writeText name ++ 0x3A :: value) =
      .ok (some ((Bytes.ofText name).flatMap writtenOctet ++ quoteMark :: 0x3A :: value)) := by
    rw [writeText_append, nextName_quoteMark]
  rw [readMembers_member first (textAfterMark_written name _), known]
  cases read : member.value.read value <;> simp [unset, readMember_colon, read]

/-- An object is read member by member. -/
theorem readRecord_object (s : Bytes) :
    shape.readRecord (0x7B :: s) =
      match readMembers shape.members true shape.empty s with
      | .error fault => .error fault
      | .ok (draft, t) => closed (shape.fromObject draft) (closeObject t) := by
  rw [readRecord, skipSpace_of_isSpace (by decide)]
  rfl

/-- With one member the record is what the value of the member makes of an empty one. -/
theorem readRecord_named {change : σ → σ} {rest : Bytes} {a : α}
    (known : shape.members.find? (·.name = name) = some member)
    (unset : member.isSet shape.empty = false)
    (read : member.value.read value = .ok (change, 0x7D :: rest))
    (finish : shape.finish (change shape.empty) = .ok a) :
    shape.readRecord (0x7B :: (writeText name ++ 0x3A :: value)) = .ok (a, rest) := by
  have bracket : skipSpace (0x7D :: rest) = 0x7D :: rest := skipSpace_of_isSpace (by decide) rest
  rw [readRecord_object, readMembers_named known unset, read]
  simp only [readMembers_closing (nextName_eq_none_iff.mpr ⟨rest, bracket⟩)]
  exact closed_eq_ok_iff.mpr ⟨by rw [fromObject, finish]; rfl, closeObject_eq_iff.mpr bracket⟩

/-- No record has a member whose value is at fault. -/
theorem readRecord_of_error {fault : Fault}
    (known : shape.members.find? (·.name = name) = some member)
    (unset : member.isSet shape.empty = false) (read : member.value.read value = .error fault) :
    shape.readRecord (0x7B :: (writeText name ++ 0x3A :: value)) =
      .error (fault.inside (.member name)) := by
  rw [readRecord_object, readMembers_named known unset, read]

end

variable {α : Type} (title name : String) (make : String → α)

/-- An envelope for one text ends by its own closing, whatever follows it. -/
theorem endsItself_ofText : (ofText title name make).reader.EndsItself := by
  apply endsItself
  intro member hmember
  rw [List.mem_singleton.mp hmember]
  exact (Reader.endsItself_text.map fun text (_ : Option String) => some text).byNext

/-- A written envelope is read back, whatever follows it. -/
theorem read_ofText_written (text : String) (rest : Bytes) :
    (ofText title name make).reader.read (writeObject [(name, text)] ++ rest) =
      .ok (make text, rest) := by
  have document : writeObject [(name, text)] ++ rest =
      0x7B :: (writeText name ++ 0x3A :: (writeText text ++ 0x7D :: rest)) := by
    simp [writeObject, writeMember]
  have known : (ofText title name make).members.find? (·.name = name) =
      some ⟨name, Option.isSome, Reader.text.map fun text _ => some text⟩ := by
    simp [ofText]
  have read : (Reader.text.map fun text (_ : Option String) => some text).read
      (writeText text ++ 0x7D :: rest) = .ok (fun _ => some text, 0x7D :: rest) := by
    change (Reader.text.read _).map _ = _
    rw [Reader.read_text_written]
    rfl
  rw [document]
  exact readRecord_named known rfl read rfl

end Shape

end Json

namespace Question

/-- An envelope ends by its own closing, whatever follows it. -/
theorem endsItself_reader : reader.EndsItself := Json.Shape.endsItself_ofText _ _ _

/-- The document of a question is read as that question. -/
theorem decode_document (question : Question) : reader.decode question.document = .ok question := by
  have read := Json.Shape.read_ofText_written "struct ChatMessage" "message" mk question.message []
  rw [List.append_nil] at read
  exact (Json.Reader.decode_of_read read).mpr rfl

end Question

/-- The document of an answer is read as that answer. -/
theorem Answer.decode_document (answer : Answer) : reader.decode answer.document = .ok answer := by
  have read := Json.Shape.read_ofText_written "struct ChatResponse" "answer" mk answer.answer []
  rw [List.append_nil] at read
  exact (Json.Reader.decode_of_read read).mpr rfl

end ChatGateway
