import ChatGateway.Json.Record

/-!
# Values of any kind

Reads a value of which nothing is known beforehand. Lists and objects may nest, but only so
deep; every member is kept, in order.
-/

namespace ChatGateway.Json

/-- A value. -/
inductive Value where
  | null
  | truth (value : Bool)
  | number (value : Number)
  | text (value : String)
  | list (elements : List Value)
  | object (members : List (String × Value))

/-- Reads a value that is no list and no object, by its first octet. -/
def readScalar (b : UInt8) (rest : Bytes) : Except Fault (Value × Bytes) :=
  if b = 0x6E then (expectWord [0x75, 0x6C, 0x6C] rest).map fun t => (.null, t)
  else if b = 0x74 then (expectWord [0x72, 0x75, 0x65] rest).map fun t => (.truth true, t)
  else if b = 0x66 then (expectWord [0x61, 0x6C, 0x73, 0x65] rest).map fun t => (.truth false, t)
  else if b = 0x2D then (numberAfterSign false rest).map fun (n, t) => (.number n, t)
  else if isDigit b then (numberAfterSign true (b :: rest)).map fun (n, t) => (.number n, t)
  else if b = quoteMark then (textAfterMark rest).map fun (text, t) => (.text text, t)
  else .error (.upon (b :: rest) .valueExpected)

/-- What a mapped result came from. -/
theorem map_eq_ok {α β : Type} {f : α → β} {x : Except Fault α} {b : β} (h : x.map f = .ok b) :
    ∃ a, x = .ok a ∧ f a = b := by
  cases x with
  | error fault => simp [Except.map] at h
  | ok a => exact ⟨a, rfl, by simpa [Except.map] using h⟩

/-- A document is no longer behind a scalar; its first octet was taken off before. -/
theorem readScalar_length {b : UInt8} {rest t : Bytes} {v : Value}
    (h : readScalar b rest = .ok (v, t)) : t.length ≤ rest.length + 1 := by
  unfold readScalar at h
  split at h
  · obtain ⟨_, hx, he⟩ := map_eq_ok h
    cases he
    have := expectWord_length hx
    omega
  split at h
  · obtain ⟨_, hx, he⟩ := map_eq_ok h
    cases he
    have := expectWord_length hx
    omega
  split at h
  · obtain ⟨_, hx, he⟩ := map_eq_ok h
    cases he
    have := expectWord_length hx
    omega
  split at h
  · obtain ⟨⟨_, _⟩, hx, he⟩ := map_eq_ok h
    cases he
    have := numberAfterSign_length hx
    omega
  split at h
  · obtain ⟨⟨_, _⟩, hx, he⟩ := map_eq_ok h
    cases he
    have := numberAfterSign_length hx
    simpa using this
  split at h
  · obtain ⟨⟨_, _⟩, hx, he⟩ := map_eq_ok h
    cases he
    have := textAfterMark_length hx
    omega
  · simp at h

/-- Reads members with values of one type up to the closing bracket, which is left; `taken`
holds those before, last first. -/
def readPairs {α : Type} (r : Reader α) (taken : List (String × α)) (s : Bytes) :
    Except Fault (List (String × α) × Bytes) :=
  match _hn : nextName taken.isEmpty s with
  | .error fault => .error fault
  | .ok none => .ok (taken.reverse, s)
  | .ok (some t) =>
    match _hk : textAfterMark t with
    | .error fault => .error (fault.inside .unnamed)
    | .ok (name, u) =>
      match _hv : readMember r u with
      | .error fault => .error (fault.inside (.member name))
      | .ok (value, v) => readPairs r ((name, value) :: taken) v
termination_by s.length
decreasing_by
  have := nextName_length _hn
  have := textAfterMark_length _hk
  have := readMember_length _hv
  omega

/-- A document is no longer behind the members of an object. -/
theorem readPairs_length {α : Type} {r : Reader α} {taken all : List (String × α)} {s t : Bytes}
    (h : readPairs r taken s = .ok (all, t)) : t.length ≤ s.length := by
  fun_induction readPairs r taken s with
  | case1 | case3 | case4 => simp at h
  | case2 =>
    simp only [Except.ok.injEq, Prod.mk.injEq] at h
    exact h.2 ▸ Nat.le_refl _
  | case5 taken s t hn name u hk value v hv ih =>
    have := ih h
    have := nextName_length hn
    have := textAfterMark_length hk
    have := readMember_length hv
    omega

/-- Ends a value with what closes it. -/
def closedBy {α β : Type} (make : α → β) (close : Bytes → Bytes × Option Fault) :
    Except Fault (α × Bytes) → Except Fault (β × Bytes)
  | .error fault => .error fault
  | .ok (a, s) =>
    match close s with
    | (_, some fault) => .error fault
    | (t, none) => .ok (make a, t)

/-- A document is no longer behind a closing if it is no longer behind what is closed. -/
theorem closedBy_length {α β : Type} {make : α → β} {close : Bytes → Bytes × Option Fault}
    (hclose : ∀ s, (close s).1.length ≤ s.length) {x : Except Fault (α × Bytes)} {b : β}
    {s t : Bytes} (hx : ∀ {a u}, x = .ok (a, u) → u.length ≤ s.length)
    (h : closedBy make close x = .ok (b, t)) : t.length ≤ s.length := by
  unfold closedBy at h
  split at h
  · simp at h
  · rename_i u
    have closing := hclose u
    split at h
    · simp at h
    · rename_i v hv
      rw [hv] at closing
      simp only [Except.ok.injEq, Prod.mk.injEq] at h
      obtain ⟨_, rfl⟩ := h
      exact Nat.le_trans closing (hx rfl)

/-- Reads a value, given the reader of its parts. -/
def readValue (part : Reader Value) (s : Bytes) : Except Fault (Value × Bytes) :=
  match skipSpace s with
  | [] => .error (.upon [] .valueCutOff)
  | b :: rest =>
    if b = 0x5B then closedBy .list closeList (readElements part [] rest)
    else if b = 0x7B then closedBy .object closeObject (readPairs part [] rest)
    else readScalar b rest

/-- A document is no longer behind a value. -/
theorem readValue_length {part : Reader Value} {s t : Bytes} {v : Value}
    (h : readValue part s = .ok (v, t)) : t.length ≤ s.length := by
  unfold readValue at h
  split at h
  · simp at h
  · rename_i hs
    have := length_of_skipSpace hs
    split at h
    · have := closedBy_length closeList_length (fun hx => readElements_length hx) h
      omega
    · split at h
      · have := closedBy_length closeObject_length (fun hx => readPairs_length hx) h
        omega
      · have := readScalar_length h
        omega

/-- Refuses a list or an object because of its depth. -/
def readFlat (s : Bytes) : Except Fault (Value × Bytes) :=
  match skipSpace s with
  | [] => .error (.upon [] .valueCutOff)
  | b :: rest =>
    if b = 0x5B || b = 0x7B then .error (.upon (b :: rest) .nestedTooDeep) else readScalar b rest

/-- A document is no longer behind a value at the greatest depth. -/
theorem readFlat_length {s t : Bytes} {v : Value} (h : readFlat s = .ok (v, t)) :
    t.length ≤ s.length := by
  unfold readFlat at h
  split at h
  · simp at h
  · rename_i hs
    have := length_of_skipSpace hs
    split at h
    · simp at h
    · have := readScalar_length h
      omega

/-- The reader of values that nest at most so deep. -/
def Value.upTo : Nat → Reader Value
  | 0 => ⟨readFlat, readFlat_length⟩
  | depth + 1 => ⟨readValue (Value.upTo depth), readValue_length⟩

/-- How deep values may nest. -/
def depthLimit : Nat := 127

/-- The reader of values. -/
def Value.reader : Reader Value := Value.upTo depthLimit

end ChatGateway.Json
