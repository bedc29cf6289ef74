import ChatGateway.Proofs.Http.Fields
import ChatGateway.Proofs.Text.Encoding
import ChatGateway.Proofs.Text.Hexadecimal

/-!
# How a request is stamped

The identity of the current span and the id of the request are written into three fields, each of them
only if there is something to write that may stand there. All other fields are kept, and so is each of
the three that is not written. Whoever receives the request can read the identity back, and stamping it
once more changes nothing.
-/

namespace ChatGateway

/-- What may stand in a field: no control characters but tabs. -/
def IsLegal (text : String) : Prop :=
  ∀ b ∈ Bytes.ofText text, (0x20 ≤ b ∧ b ≠ 0x7F) ∨ b = 0x09

/-- A text may be the value of a field exactly if it is legal. -/
theorem isFieldValue_iff {text : String} :
    Http.isFieldValue (Bytes.ofText text) = true ↔ IsLegal text := by
  simp [Http.isFieldValue, Http.isFieldOctet, IsLegal]

namespace Http.Headers

/-- Setting the only value of a name again changes nothing. -/
theorem set_of_values {headers : Headers} {name : String} {value : Bytes}
    (h : headers.values name = [value]) : headers.set name value = headers := by
  induction headers with
  | nil => contradiction
  | cons field rest ih =>
    rw [values_cons] at h
    rw [set]
    split
    · rename_i same
      rw [if_pos same] at h
      have none : values rest name = [] := (List.cons.inj h).2
      have kept : erase rest name = rest := by
        refine List.filter_eq_self.mpr fun other member => ?_
        have absent := List.filter_eq_nil_iff.mp (List.map_eq_nil_iff.mp none) other member
        simpa using absent
      rw [kept, ← same, ← (List.cons.inj h).1]
    · rename_i differs
      rw [if_neg differs] at h
      rw [ih h]

end Http.Headers

namespace Trace

open Http

/-- A field that has the text already is not changed. -/
theorem setLegal_of_values {headers : Headers} {name text : String}
    (h : IsLegal text → headers.values name = [Bytes.ofText text]) :
    setLegal headers name text = headers := by
  unfold setLegal
  split
  · rename_i legal
    exact Headers.set_of_values (h (isFieldValue_iff.mp legal))
  · rfl

/-- Fields with other names are kept in their order. -/
theorem filter_setLegal (keep : String → Bool) (headers : Headers) {name text : String}
    (dropped : IsLegal text → keep name = false) :
    (setLegal headers name text).filter (keep ·.name) = headers.filter (keep ·.name) := by
  unfold setLegal
  split
  · rename_i legal
    exact headers.filter_setText keep text (dropped (isFieldValue_iff.mp legal))
  · rfl

/-! ## The identity as a text -/

/-- The identity in digits: of the trace, of the span and of the flags. -/
def parentDigits (trace span flags : List Char) : String :=
  String.ofList (['0', '0', '-'] ++ (trace ++ '-' :: (span ++ '-' :: flags)))

/-- Reads the identity back from the value of the field. -/
def identity? (value : Bytes) : Option (BitVec 128 × BitVec 64 × BitVec 8) :=
  (Bytes.toText? value).bind fun text =>
    (Text.inBase? 16 ((text.toList.drop 3).take 32)).bind fun trace =>
      (Text.inBase? 16 ((text.toList.drop 36).take 16)).bind fun span =>
        (Text.inBase? 16 ((text.toList.drop 53).take 2)).map fun flags =>
          (BitVec.ofNat 128 trace, BitVec.ofNat 64 span, BitVec.ofNat 8 flags)

/-- The value of the field is the identity in digits of fixed width, from which it is read back. -/
structure IsParent (context : SpanContext) (value : Bytes) : Prop where
  form : ∃ trace span flags, value = Bytes.ofText (parentDigits trace span flags) ∧
    Text.IsLowerHex 32 trace ∧ Text.IsLowerHex 16 span ∧ Text.IsLowerHex 2 flags
  readBack : identity? value = some (context.traceId, context.spanId, context.flags)

/-- The text of the parent is its numbers in hexadecimal digits. -/
theorem parentText_eq (context : SpanContext) :
    context.parentText = parentDigits (Text.hexDigits 32 context.traceId.toNat)
      (Text.hexDigits 16 context.spanId.toNat) (Text.hexDigits 2 context.flags.toNat) := by
  apply String.toList_inj.mp
  simp [SpanContext.parentText, parentDigits]

/-- The digits stand where they are looked for. -/
theorem digits_of_parentDigits {trace span flags : List Char} (htrace : trace.length = 32)
    (hspan : span.length = 16) (hflags : flags.length = 2) :
    ((parentDigits trace span flags).toList.drop 3).take 32 = trace ∧
      ((parentDigits trace span flags).toList.drop 36).take 16 = span ∧
      ((parentDigits trace span flags).toList.drop 53).take 2 = flags := by
  have whole : (parentDigits trace span flags).toList =
      ['0', '0', '-'] ++ (trace ++ '-' :: (span ++ '-' :: flags)) := String.toList_ofList
  have behindTrace : ['0', '0', '-'] ++ (trace ++ '-' :: (span ++ '-' :: flags)) =
      (['0', '0', '-'] ++ trace ++ ['-']) ++ (span ++ '-' :: flags) := by simp
  have behindSpan : ['0', '0', '-'] ++ (trace ++ '-' :: (span ++ '-' :: flags)) =
      (['0', '0', '-'] ++ trace ++ ['-'] ++ span ++ ['-']) ++ flags := by simp
  rw [whole]
  refine ⟨?_, ?_, ?_⟩
  · have front : ['0', '0', '-'].length = 3 := rfl
    rw [List.drop_left' front, List.take_left' htrace]
  · rw [behindTrace, List.drop_left' (by simp [htrace]), List.take_left' hspan]
  · rw [behindSpan, List.drop_left' (by simp [htrace, hspan]), ← hflags, List.take_length]

/-- The text of the parent can be read back. -/
theorem isParent_parentText (context : SpanContext) :
    IsParent context (Bytes.ofText context.parentText) := by
  have trace := Text.isLowerHex_hexDigits 32 context.traceId.toNat
  have span := Text.isLowerHex_hexDigits 16 context.spanId.toNat
  have flags := Text.isLowerHex_hexDigits 2 context.flags.toNat
  constructor
  case form => exact ⟨_, _, _, by rw [parentText_eq], trace, span, flags⟩
  case readBack =>
    obtain ⟨traceThere, spanThere, flagsThere⟩ :=
      digits_of_parentDigits trace.width span.width flags.width
    rw [identity?, parentText_eq, Bytes.toText?_ofText, Option.bind_some, traceThere, spanThere, flagsThere,
      Text.inBase?_hexDigits context.traceId.isLt, Text.inBase?_hexDigits context.spanId.isLt,
      Text.inBase?_hexDigits context.flags.isLt]
    simp

/-- The identity may stand in a field. -/
theorem isLegal_parentText (context : SpanContext) : IsLegal context.parentText := by
  have dash : isVisible (Bytes.octet '-') = true ∧ '-'.toNat < 0x80 := by decide
  have zero : isVisible (Bytes.octet '0') = true ∧ '0'.toNat < 0x80 := by decide
  have visible : ∀ c ∈ context.parentText.toList, isVisible (Bytes.octet c) = true ∧ c.toNat < 0x80 := by
    intro c member
    rw [parentText_eq, parentDigits, String.toList_ofList] at member
    simp only [List.mem_append, List.mem_cons, List.not_mem_nil, or_false] at member
    rcases member with (rfl | rfl | rfl) | trace | rfl | span | rfl | flags
    · exact zero
    · exact zero
    · exact dash
    · exact Text.hexDigits_visible _ _ c trace
    · exact dash
    · exact Text.hexDigits_visible _ _ c span
    · exact dash
    · exact Text.hexDigits_visible _ _ c flags
  apply isFieldValue_iff.mp
  apply isFieldValue_of_visible
  rw [← String.ofList_toList (s := context.parentText),
    Bytes.ofText_ofList_of_basic fun c member => (visible c member).2, List.all_map, List.all_eq_true]
  exact fun c member => (visible c member).1

/-! ## What is written -/

/-- Whether a field is given a new value: that of the identity if the span is identified, that of the
notes if there are any that may stand there, and that of the id if it may stand there. -/
def Replaces (current : Option SpanContext) (id : Option String) (name : String) : Prop :=
  (name = parentField ∧ ∃ context, current = some context ∧ context.isValid = true) ∨
  (name = stateField ∧ ∃ context, current = some context ∧ context.isValid = true ∧
    context.stateText ≠ "" ∧ IsLegal context.stateText) ∨
  (name = requestIdField ∧ ∃ text, id = some text ∧ IsLegal text)

/-- What writing the identity of the current span and an id makes of fields. -/
structure Stamps (before : Headers) (current : Option SpanContext) (id : Option String)
    (after : Headers) : Prop where
  /-- All fields that are not replaced are kept in their order. -/
  others (keep : String → Bool) : (∀ name, Replaces current id name → keep name = false) →
    after.filter (keep ·.name) = before.filter (keep ·.name)
  kept (name : String) : ¬ Replaces current id name → after.values name = before.values name
  parent (context : SpanContext) : current = some context → context.isValid = true →
    ∃ value, after.values parentField = [value] ∧ IsParent context value
  state (context : SpanContext) : current = some context → context.isValid = true →
    context.stateText ≠ "" → IsLegal context.stateText →
    after.values stateField = [Bytes.ofText context.stateText]
  request (text : String) : id = some text → IsLegal text →
    after.values requestIdField = [Bytes.ofText text]

section Write

variable {headers : Headers} {current : Option SpanContext} {context : SpanContext} {id : Option String}

/-- Nothing is written of a span that is not identified. -/
theorem writeContext_of_invalid (h : ∀ context, current = some context → context.isValid = false) :
    writeContext headers current = headers := by
  have none : current.filter (·.isValid) = none := by
    cases current with
    | none => rfl
    | some context => simp [h context rfl]
  simp only [writeContext, none]

/-- A valid context is written as its parent, and as its state if that is noted. -/
theorem writeContext_of_valid (valid : context.isValid = true) :
    writeContext headers (some context) =
      if context.stateText = "" then setLegal headers parentField context.parentText
      else setLegal (setLegal headers parentField context.parentText) stateField context.stateText := by
  have found : (some context).filter (·.isValid) = some context := by simp [valid]
  simp only [writeContext, found, String.isEmpty_iff]

/-- The id changes no other field. -/
theorem values_write_eq_writeContext {name : String} (h : name ≠ requestIdField) :
    (write headers current id).values name = (writeContext headers current).values name := by
  cases id with
  | none => rfl
  | some id => exact values_setLegal_of_ne _ id h

/-- The parent is written as the only value of its field. -/
theorem values_write_parent (valid : context.isValid = true) :
    (write headers (some context) id).values parentField = [Bytes.ofText context.parentText] := by
  have legal := isFieldValue_iff.mpr (isLegal_parentText context)
  rw [values_write_eq_writeContext (by decide), writeContext_of_valid valid]
  split
  · exact values_setLegal_self headers parentField legal
  · rw [values_setLegal_of_ne _ _ (by decide)]
    exact values_setLegal_self headers parentField legal

/-- The state that is noted is written as the only value of its field. -/
theorem values_write_state (valid : context.isValid = true) (noted : context.stateText ≠ "")
    (legal : IsLegal context.stateText) :
    (write headers (some context) id).values stateField = [Bytes.ofText context.stateText] := by
  rw [values_write_eq_writeContext (by decide), writeContext_of_valid valid, if_neg noted]
  exact values_setLegal_self _ stateField (isFieldValue_iff.mpr legal)

/-- Fields that are not replaced are kept in their order. -/
theorem filter_write (keep : String → Bool)
    (dropped : ∀ name, Replaces current id name → keep name = false) :
    (write headers current id).filter (keep ·.name) = headers.filter (keep ·.name) := by
  have identity : (writeContext headers current).filter (keep ·.name) = headers.filter (keep ·.name) := by
    cases current with
    | none => rfl
    | some context =>
      cases valid : context.isValid with
      | false => rw [writeContext_of_invalid (by simp [valid])]
      | true =>
        have parent : keep parentField = false := dropped parentField (.inl ⟨rfl, context, rfl, valid⟩)
        rw [writeContext_of_valid valid]
        split
        · exact filter_setLegal keep _ fun _ => parent
        · rename_i noted
          rw [filter_setLegal keep _ fun legal =>
              dropped stateField (.inr (.inl ⟨rfl, context, rfl, valid, noted, legal⟩)),
            filter_setLegal keep _ fun _ => parent]
  cases id with
  | none => exact identity
  | some text =>
    rw [← identity]
    exact filter_setLegal keep _ fun legal =>
      dropped requestIdField (.inr (.inr ⟨rfl, text, rfl, legal⟩))

/-- Every field that is not replaced keeps its values. -/
theorem values_write_of_kept {name : String} (h : ¬ Replaces current id name) :
    (write headers current id).values name = headers.values name := by
  have dropped (other : String) (replaced : Replaces current id other) : decide (other = name) = false :=
    decide_eq_false fun same => h (same ▸ replaced)
  have kept : (write headers current id).filter (·.name = name) = headers.filter (·.name = name) :=
    filter_write (· = name) dropped
  rw [Headers.values, kept]
  rfl

/-- Writing the same again changes nothing. -/
theorem write_write :
    write (write headers current id) current id = write headers current id := by
  have context : writeContext (write headers current id) current = write headers current id := by
    cases current with
    | none => exact writeContext_of_invalid (by simp)
    | some context =>
      cases valid : context.isValid with
      | false => exact writeContext_of_invalid (by simp [valid])
      | true =>
        have parent : setLegal (write headers (some context) id) parentField context.parentText =
            write headers (some context) id :=
          setLegal_of_values fun _ => values_write_parent valid
        rw [writeContext_of_valid valid, parent]
        split
        · rfl
        · rename_i noted
          exact setLegal_of_values fun legal => values_write_state valid noted legal
  cases id with
  | none => exact context
  | some text =>
    have request : setLegal (write headers current (some text)) requestIdField text =
        write headers current (some text) :=
      setLegal_of_values fun legal => values_write_requestId headers current (isFieldValue_iff.mpr legal)
    change setLegal (writeContext (write headers current (some text)) current) requestIdField text = _
    rw [context, request]

end Write

/-- Fields are stamped once, however often. -/
theorem stamps_write (headers : Headers) (current : Option SpanContext) (id : Option String) :
    Stamps headers current id (write headers current id) ∧
      write (write headers current id) current id = write headers current id := by
  refine ⟨?_, write_write⟩
  constructor
  case others => exact fun keep => filter_write keep
  case kept => exact fun name => values_write_of_kept
  case parent =>
    rintro context rfl valid
    exact ⟨_, values_write_parent valid, isParent_parentText context⟩
  case state =>
    rintro context rfl valid noted legal
    exact values_write_state valid noted legal
  case request =>
    rintro text rfl legal
    exact values_write_requestId headers current (isFieldValue_iff.mpr legal)

end Trace

end ChatGateway
