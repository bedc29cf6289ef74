import ChatGateway.Json.Reader

/-!
# Readers of records

A record is written as an object whose members come in any order, or as a list of the
members' values in the order of the record. Members that the record does not have are passed
over; one that it has may not come twice. What is missing at the end is for the record to
say: it may have a default, or the document is refused.
-/

namespace ChatGateway.Json

/-- A member of a record that is being read into a draft `σ`. -/
structure Member (σ : Type) where
  name : String
  /-- Whether the draft has the member already. -/
  isSet : σ → Bool
  /-- Reads the member's value into the draft. -/
  value : Reader (σ → σ)

/-- How a record is read: member by member into a draft, from which the record is made. -/
structure Shape (σ α : Type) where
  /-- What the record is called in messages. -/
  title : String
  members : List (Member σ)
  empty : σ
  /-- The record, or the name of the first member that the draft lacks. -/
  finish : σ → Except String α

namespace Shape

variable {σ α : Type}

/-- What a message expects when the list form has the wrong length. -/
def listTitle (shape : Shape σ α) : String :=
  let count := shape.members.length
  shape.title ++ " with " ++ Text.decimal count ++ (if count = 1 then " element" else " elements")

end Shape

/-- The octets behind the opening mark of the next member's name, or none before the closing
bracket. -/
def nextName (isFirst : Bool) (s : Bytes) : Except Fault (Option Bytes) :=
  match skipSpace s with
  | [] => .error (.upon [] .objectCutOff)
  | b :: rest =>
    if b = 0x7D then .ok none
    else if isFirst then
      if b = quoteMark then .ok (some rest) else .error (.upon (b :: rest) .memberNameExpected)
    else if b = 0x2C then
      match skipSpace rest with
      | [] => .error (.upon [] .valueCutOff)
      | c :: more =>
        if c = quoteMark then .ok (some more)
        else if c = 0x7D then .error (.upon (c :: more) .trailingComma)
        else .error (.upon (c :: more) .memberNameExpected)
    else .error (.upon (b :: rest) .objectContinuationExpected)

/-- The next name of an object starts behind its quote. -/
theorem nextName_length {isFirst : Bool} {s t : Bytes} (h : nextName isFirst s = .ok (some t)) :
    t.length < s.length := by
  unfold nextName at h
  split at h
  · simp at h
  · rename_i b rest hb
    have := length_of_skipSpace hb
    split at h
    · simp at h
    · split at h
      · split at h
        · cases h
          exact this
        · simp at h
      · split at h
        · split at h
          · simp at h
          · rename_i hc
            have := length_of_skipSpace hc
            split at h
            · cases h
              omega
            · split at h <;> simp at h
        · simp at h

/-- Closes an object: what is left, and the fault if the object does not end here. -/
def closeObject (s : Bytes) : Bytes × Option Fault :=
  match skipSpace s with
  | [] => ([], some (.upon [] .objectCutOff))
  | b :: rest =>
    if b = 0x7D then (rest, none)
    else (b :: rest, some (.upon (b :: rest) (if b = 0x2C then .trailingComma else .trailingCharacters)))

/-- A document is no longer behind the end of an object. -/
theorem closeObject_length (s : Bytes) : (closeObject s).1.length ≤ s.length := by
  unfold closeObject
  split
  · simp
  · rename_i b rest hb
    have := length_of_skipSpace hb
    split
    · exact Nat.le_of_lt this
    · simp only [List.length_cons]
      omega

/-- Reads the value of a member behind its name. -/
def readMember {α : Type} (r : Reader α) (s : Bytes) : Except Fault (α × Bytes) :=
  match skipColon s with
  | .error fault => .error fault
  | .ok rest => r.read rest

/-- A member uses up its colon at least. -/
theorem readMember_length {α : Type} {r : Reader α} {s t : Bytes} {a : α}
    (h : readMember r s = .ok (a, t)) : t.length < s.length := by
  unfold readMember at h
  split at h
  · simp at h
  · rename_i hc
    have := skipColon_length hc
    have := r.read_length h
    omega

/-- Passes over the value of a member behind its name. -/
def skipMember (s : Bytes) : Except Fault Bytes :=
  match skipColon s with
  | .error fault => .error fault
  | .ok rest => skipValue rest

/-- A member that is skipped uses up its colon at least. -/
theorem skipMember_length {s t : Bytes} (h : skipMember s = .ok t) : t.length < s.length := by
  unfold skipMember at h
  split at h
  · simp at h
  · rename_i hc
    have := skipColon_length hc
    have := skipFrom_length h
    omega

/-- Reads members into the draft up to the closing bracket, which is left. -/
def readMembers {σ : Type} (members : List (Member σ)) (isFirst : Bool) (draft : σ) (s : Bytes) :
    Except Fault (σ × Bytes) :=
  match _hn : nextName isFirst s with
  | .error fault => .error fault
  | .ok none => .ok (draft, s)
  | .ok (some t) =>
    match _hk : textAfterMark t with
    | .error fault => .error (fault.inside .unnamed)
    | .ok (name, u) =>
      match members.find? (·.name = name) with
      | some member =>
        if member.isSet draft then .error (.before (closeObject u).1 (.duplicate name))
        else match _hv : readMember member.value u with
          | .error fault => .error (fault.inside (.member name))
          | .ok (change, v) => readMembers members false (change draft) v
      | none =>
        match _hv : skipMember u with
        | .error fault => .error (fault.inside (.member name))
        | .ok v => readMembers members false draft v
termination_by s.length
decreasing_by
  all_goals
    have := nextName_length _hn
    have := textAfterMark_length _hk
  · have := readMember_length _hv
    omega
  · have := skipMember_length _hv
    omega

/-- A document is no longer behind the members of a record. -/
theorem readMembers_length {σ : Type} {members : List (Member σ)} {isFirst : Bool} {draft d : σ}
    {s t : Bytes} (h : readMembers members isFirst draft s = .ok (d, t)) :
    t.length ≤ s.length := by
  fun_induction readMembers members isFirst draft s with
  | case1 | case3 | case4 | case5 | case7 => simp at h
  | case2 =>
    simp only [Except.ok.injEq, Prod.mk.injEq] at h
    exact h.2 ▸ Nat.le_refl _
  | case6 isFirst draft s t hn name u hk member _ _ change v hv ih =>
    have := ih h
    have := nextName_length hn
    have := textAfterMark_length hk
    have := readMember_length hv
    omega
  | case8 isFirst draft s t hn name u hk _ v hv ih =>
    have := ih h
    have := nextName_length hn
    have := textAfterMark_length hk
    have := skipMember_length hv
    omega

/-- Reads the values of the members in order, as far as the list goes. -/
def readFields {σ : Type} (index : Nat) (draft : σ) (s : Bytes) :
    List (Member σ) → Except Fault (σ × Bytes)
  | [] => .ok (draft, s)
  | member :: members =>
    match nextElement (index = 0) s with
    | .error fault => .error fault
    | .ok none => .ok (draft, s)
    | .ok (some t) =>
      match member.value.read t with
      | .error fault => .error (fault.inside (.element index))
      | .ok (change, u) => readFields (index + 1) (change draft) u members

/-- A document is no longer behind the fields of a record that is given as a list. -/
theorem readFields_length {σ : Type} {index : Nat} {draft d : σ} {s t : Bytes}
    {members : List (Member σ)} (h : readFields index draft s members = .ok (d, t)) :
    t.length ≤ s.length := by
  induction members generalizing index draft s with
  | nil =>
    simp only [readFields, Except.ok.injEq, Prod.mk.injEq] at h
    exact h.2 ▸ Nat.le_refl _
  | cons member members ih =>
    simp only [readFields] at h
    split at h
    · simp at h
    · simp only [Except.ok.injEq, Prod.mk.injEq] at h
      exact h.2 ▸ Nat.le_refl _
    · rename_i hn
      split at h
      · simp at h
      · rename_i hv
        have := ih h
        have := (nextElement_length hn).1
        have := member.value.read_length hv
        omega

/-- The record of a draft behind which the document has been closed. -/
def closed {β : Type} (result : Except Reason β) (close : Bytes × Option Fault) :
    Except Fault (β × Bytes) :=
  match result, close with
  | .error reason, (rest, _) => .error (.before rest reason)
  | .ok _, (_, some fault) => .error fault
  | .ok record, (rest, none) => .ok (record, rest)

/-- What follows a record is what follows its closing. -/
theorem closed_rest {β : Type} {result : Except Reason β} {close : Bytes × Option Fault}
    {b : β} {t : Bytes} (h : closed result close = .ok (b, t)) : t = close.1 := by
  unfold closed at h
  split at h
  · simp at h
  · simp at h
  · simp only [Except.ok.injEq, Prod.mk.injEq] at h
    exact h.2.symm

namespace Shape

variable {σ α : Type}

/-- The record of a draft that was read from an object. -/
def fromObject (shape : Shape σ α) (draft : σ) : Except Reason α :=
  (shape.finish draft).mapError .missing

/-- The record of a draft that was read from a list. -/
def fromList (shape : Shape σ α) (draft : σ) : Except Reason α :=
  (shape.finish draft).mapError fun name =>
    .wrongLength (shape.members.findIdx (·.name = name)) shape.listTitle

/-- Reads a record in either form. -/
def readRecord (shape : Shape σ α) (s : Bytes) : Except Fault (α × Bytes) :=
  match skipSpace s with
  | [] => .error (.upon [] .valueCutOff)
  | b :: rest =>
    if b = 0x5B then
      match readFields 0 shape.empty rest shape.members with
      | .error fault => .error fault
      | .ok (draft, t) => closed (shape.fromList draft) (closeList t)
    else if b = 0x7B then
      match readMembers shape.members true shape.empty rest with
      | .error fault => .error fault
      | .ok (draft, t) => closed (shape.fromObject draft) (closeObject t)
    else .error (unexpected shape.title (b :: rest))

/-- A document is no longer behind a record. -/
theorem readRecord_length {shape : Shape σ α} {s t : Bytes} {a : α}
    (h : shape.readRecord s = .ok (a, t)) : t.length ≤ s.length := by
  unfold readRecord at h
  split at h
  · simp at h
  · rename_i hs
    have := length_of_skipSpace hs
    split at h
    · split at h
      · simp at h
      · rename_i u hf
        have := readFields_length hf
        have := closeList_length u
        have := closed_rest h
        subst this
        omega
    · split at h
      · split at h
        · simp at h
        · rename_i u hf
          have := readMembers_length hf
          have := closeObject_length u
          have := closed_rest h
          subst this
          omega
      · simp at h

/-- The reader of a record. -/
def reader (shape : Shape σ α) : Reader α := ⟨shape.readRecord, readRecord_length⟩

/-- The shape of a record with one member, a text. -/
def ofText (title name : String) (make : String → α) : Shape (Option String) α where
  title := title
  members := [⟨name, Option.isSome, Reader.text.map fun text _ => some text⟩]
  empty := none
  finish
    | some text => .ok (make text)
    | none => .error name

end Shape

end ChatGateway.Json
