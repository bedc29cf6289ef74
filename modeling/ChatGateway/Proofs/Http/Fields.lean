import ChatGateway.Proofs.Text.Octets
import ChatGateway.Trace.Context

/-!
# Fields that keep apart

Every operation on header fields changes the values of the names that it is about and of no
other name. A legal text becomes the only value of its field.
-/

namespace ChatGateway

namespace Http.Headers

/-- Without fields no name has values. -/
theorem values_nil (name : String) : values [] name = [] := rfl

/-- The values of a name go along the fields. -/
theorem values_cons (field : Header) (rest : Headers) (name : String) :
    values (field :: rest) name =
      if field.name = name then field.value :: values rest name else values rest name := by
  by_cases h : field.name = name <;> simp [values, h]

/-- The values of a name in one list of fields behind another. -/
theorem values_append (first second : Headers) (name : String) :
    values (first ++ second) name = values first name ++ values second name := by
  simp [values]

/-- An erased name has no values. -/
theorem values_erase_self (headers : Headers) (name : String) :
    (headers.erase name).values name = [] := by
  simp [values, erase]

/-- Erasing a name keeps the values of all others. -/
theorem values_erase_of_ne (headers : Headers) {name other : String} (h : other ≠ name) :
    (headers.erase name).values other = headers.values other := by
  rw [values, erase, List.filter_filter, values]
  congr 1
  refine List.filter_congr fun field _ => ?_
  by_cases hf : field.name = other <;> simp [hf, h]

/-- Supplying a missing name keeps the values of all others. -/
theorem values_setMissing_of_ne (headers : Headers) {name other : String} (value : Bytes)
    (h : other ≠ name) : (headers.setMissing name value).values other = headers.values other := by
  unfold setMissing
  split
  · rfl
  · rw [values_append, values_cons, values_nil, if_neg (Ne.symm h), List.append_nil]

/-- The values of the name that was set are the one text. -/
theorem values_setText_self (headers : Headers) (name text : String) :
    (headers.setText name text).values name = [Bytes.ofText text] :=
  values_set_self headers name (Bytes.ofText text)

/-- Setting a name keeps the values of all others. -/
theorem values_setText_of_ne (headers : Headers) {name other : String} (text : String)
    (h : other ≠ name) : (headers.setText name text).values other = headers.values other :=
  values_set_of_ne headers (Bytes.ofText text) h

/-- Setting a name keeps all fields that are not of it, in their order. -/
theorem filter_set (keep : String → Bool) (headers : Headers) {name : String} (value : Bytes)
    (dropped : keep name = false) :
    (headers.set name value).filter (keep ·.name) = headers.filter (keep ·.name) := by
  induction headers with
  | nil => simp [set, dropped]
  | cons field rest ih =>
    rw [set]
    split
    · rename_i same
      have kept : (erase rest name).filter (keep ·.name) = rest.filter (keep ·.name) := by
        rw [erase, List.filter_filter]
        refine List.filter_congr fun other _ => ?_
        by_cases here : other.name = name <;> simp [here, dropped]
      simp [dropped, same, kept]
    · simp only [List.filter_cons, ih]

/-- Setting a name to a text keeps all fields that are not of it, in their order. -/
theorem filter_setText (keep : String → Bool) (headers : Headers) {name : String} (text : String)
    (dropped : keep name = false) :
    (headers.setText name text).filter (keep ·.name) = headers.filter (keep ·.name) :=
  headers.filter_set keep (Bytes.ofText text) dropped

/-- The first value of a name depends on the values of that name only. -/
theorem get?_congr {first second : Headers} {name : String}
    (h : first.values name = second.values name) : first.get? name = second.get? name := by
  rw [get?, get?, h]

end Http.Headers

namespace Trace

open Http

/-- A legal text becomes the only value of its field. -/
theorem values_setLegal_self (headers : Headers) (name : String) {text : String}
    (h : isFieldValue (Bytes.ofText text) = true) :
    (setLegal headers name text).values name = [Bytes.ofText text] := by
  rw [setLegal, if_pos h]
  exact headers.values_setText_self name text

/-- The values of other fields are kept. -/
theorem values_setLegal_of_ne (headers : Headers) {name other : String} (text : String)
    (h : other ≠ name) : (setLegal headers name text).values other = headers.values other := by
  unfold setLegal
  split
  · exact headers.values_setText_of_ne text h
  · rfl

/-- Writing a field changes that field only. -/
theorem erase_setLegal (headers : Headers) (name text : String) :
    (setLegal headers name text).erase name = headers.erase name := by
  rw [setLegal]
  split
  · exact headers.filter_setText (fun other => other ≠ name) text (by simp)
  · rfl

/-- Writing the identity of the current span keeps the values of all other fields. -/
theorem values_writeContext_of_ne (headers : Headers) (current : Option SpanContext) {name : String}
    (parent : name ≠ parentField) (state : name ≠ stateField) :
    (writeContext headers current).values name = headers.values name := by
  unfold writeContext
  split
  · rfl
  · simp only
    split
    · exact values_setLegal_of_ne _ _ parent
    · exact (values_setLegal_of_ne _ _ state).trans (values_setLegal_of_ne _ _ parent)

/-- Fields that are not about the span and the request are kept. -/
theorem values_write_of_ne (headers : Headers) (current : Option SpanContext) (id : Option String)
    {name : String} (parent : name ≠ parentField) (state : name ≠ stateField)
    (request : name ≠ requestIdField) : (write headers current id).values name = headers.values name := by
  have context := values_writeContext_of_ne headers current parent state
  cases id with
  | none => exact context
  | some id => exact (values_setLegal_of_ne _ id request).trans context

/-- Except for the field of ids, the same is written whatever the id is. -/
theorem erase_write (headers : Headers) (current : Option SpanContext) (id : Option String) :
    (write headers current id).erase requestIdField =
      (writeContext headers current).erase requestIdField := by
  cases id with
  | none => rfl
  | some id => exact erase_setLegal _ requestIdField id

/-- A legal id becomes the only one. -/
theorem values_write_requestId (headers : Headers) (current : Option SpanContext) {id : String}
    (h : isFieldValue (Bytes.ofText id) = true) :
    (write headers current (some id)).values requestIdField = [Bytes.ofText id] :=
  values_setLegal_self _ _ h

end Trace

end ChatGateway
