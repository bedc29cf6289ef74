import ChatGateway.Json.Skip
import ChatGateway.Text.Quoted

/-!
# Readers of typed values

A `Reader` takes a value of a known type from the front of a document. What it leaves is
never longer than what it was given, and this travels with the reader, so that readers
built from others end.

Texts and bounded numbers are read here, and the elements of lists behind the opening bracket. `Reader.decode` wants the document to hold
nothing but the value; `Reader.decodeFront` leaves alone what follows.
-/

namespace ChatGateway.Json

/-- Takes a value from the front of a document and leaves the rest. -/
structure Reader (α : Type) where
  read : Bytes → Except Fault (α × Bytes)
  read_length : ∀ {s : Bytes} {a : α} {t : Bytes}, read s = .ok (a, t) → t.length ≤ s.length

/-- Reads the word of a constant after its first octet. -/
def constant (shown : String) (word rest : Bytes) : Except Fault (String × Bytes) :=
  match expectWord word rest with
  | .error fault => .error fault
  | .ok rest => .ok (shown, rest)

/-- A number as it is shown in a message. -/
def Number.shown : Number → String
  | natural n => "integer \x60" ++ Text.decimal n ++ "\x60"
  | negative n => "integer \x60-" ++ Text.decimal n ++ "\x60"
  | float x | large _ x => "floating point \x60" ++ Decimal.scientific.write x ++ "\x60"

/-- Reads a number and shows it. -/
def shownNumber (positive : Bool) (s : Bytes) : Except Fault (String × Bytes) :=
  match numberAfterSign positive s with
  | .error fault => .error fault
  | .ok (n, rest) => .ok (n.shown, rest)

/-- What stands at the front of the document: a scalar is read and shown, of a list or an
object only the kind is named and nothing is read. -/
def describe : Bytes → Except Fault (String × Bytes)
  | [] => .error (.upon [] .valueExpected)
  | b :: rest =>
    if b = 0x6E then constant "null" [0x75, 0x6C, 0x6C] rest
    else if b = 0x74 then constant "boolean \x60true\x60" [0x72, 0x75, 0x65] rest
    else if b = 0x66 then constant "boolean \x60false\x60" [0x61, 0x6C, 0x73, 0x65] rest
    else if b = 0x2D then shownNumber false rest
    else if isDigit b then shownNumber true (b :: rest)
    else if b = quoteMark then
      match textAfterMark rest with
      | .error fault => .error fault
      | .ok (text, rest) => .ok ("string " ++ Text.quoted text, rest)
    else if b = 0x5B then .ok ("sequence", b :: rest)
    else if b = 0x7B then .ok ("map", b :: rest)
    else .error (.upon (b :: rest) .valueExpected)

/-- The fault of a document that starts with something else than what is expected. -/
def unexpected (expected : String) (s : Bytes) : Fault :=
  match describe s with
  | .error fault => fault
  | .ok (found, rest) => .before rest (.wrongKind found expected)

/-- Reads a text. -/
def readText (s : Bytes) : Except Fault (String × Bytes) :=
  match skipSpace s with
  | [] => .error (.upon [] .valueCutOff)
  | b :: rest =>
    if b = quoteMark then textAfterMark rest else .error (unexpected "a string" (b :: rest))

/-- Takes a number that is at most `limit`, called `expected` in messages. -/
def bounded (limit : Nat) (expected : String) : Number × Bytes → Except Fault (Nat × Bytes)
  | (.natural n, rest) =>
    if n ≤ limit then .ok (n, rest)
    else .error (.before rest (.wrongValue (Number.natural n).shown expected))
  | (.negative n, rest) => .error (.before rest (.wrongValue (Number.negative n).shown expected))
  | (.float x, rest) => .error (.before rest (.wrongKind (Number.float x).shown expected))
  | (.large n x, rest) => .error (.before rest (.wrongKind (Number.large n x).shown expected))

/-- Reads a natural number that is at most `limit`. -/
def readBounded (limit : Nat) (expected : String) (s : Bytes) : Except Fault (Nat × Bytes) :=
  match skipSpace s with
  | [] => .error (.upon [] .valueCutOff)
  | b :: rest =>
    if b = 0x2D then
      match numberAfterSign false rest with
      | .error fault => .error fault
      | .ok taken => bounded limit expected taken
    else if isDigit b then
      match numberAfterSign true (b :: rest) with
      | .error fault => .error fault
      | .ok taken => bounded limit expected taken
    else .error (unexpected expected (b :: rest))

/-- A document is no longer behind a text. -/
theorem readText_length {s t : Bytes} {text : String} (h : readText s = .ok (text, t)) :
    t.length ≤ s.length := by
  unfold readText at h
  split at h
  · simp at h
  · rename_i hs
    have := length_of_skipSpace hs
    split at h
    · have := textAfterMark_length h
      omega
    · simp at h

/-- Checking a limit takes nothing from the document. -/
theorem bounded_rest {limit : Nat} {expected : String} {n : Number} {s t : Bytes} {m : Nat}
    (h : bounded limit expected (n, s) = .ok (m, t)) : t = s := by
  unfold bounded at h
  split at h
  · split at h <;> simp_all
  · simp at h
  · simp at h
  · simp at h

/-- A document is no longer behind a number with a limit. -/
theorem readBounded_length {limit : Nat} {expected : String} {s t : Bytes} {m : Nat}
    (h : readBounded limit expected s = .ok (m, t)) : t.length ≤ s.length := by
  unfold readBounded at h
  split at h
  · simp at h
  · rename_i hs
    have := length_of_skipSpace hs
    split at h
    · split at h
      · simp at h
      · rename_i hn
        have := numberAfterSign_length hn
        have := bounded_rest h
        subst this
        omega
    · split at h
      · split at h
        · simp at h
        · rename_i hn
          have := numberAfterSign_length hn
          have := bounded_rest h
          subst this
          simp only [List.length_cons] at *
          omega
      · simp at h

namespace Reader

variable {α β : Type}

/-- The reader of texts. -/
def text : Reader String := ⟨readText, readText_length⟩

/-- The reader of natural numbers up to `limit`, called `expected` in messages. -/
def upTo (limit : Nat) (expected : String) : Reader Nat :=
  ⟨readBounded limit expected, readBounded_length⟩

/-- Applies a function to what a reader reads. -/
def map (f : α → β) (r : Reader α) : Reader β where
  read s := (r.read s).map fun (a, t) => (f a, t)
  read_length {s b t} h := by
    cases hr : r.read s with
    | error fault => simp [hr, Except.map] at h
    | ok taken =>
      obtain ⟨a, u⟩ := taken
      simp only [hr, Except.map, Except.ok.injEq, Prod.mk.injEq] at h
      exact h.2 ▸ r.read_length hr

/-- Reads the value at the front of a document. -/
def decodeFront (r : Reader α) (document : Bytes) : Except Fault α :=
  (r.read document).map (·.1)

/-- Reads the value that a document consists of. -/
def decode (r : Reader α) (document : Bytes) : Except Fault α :=
  match r.read document with
  | .error fault => .error fault
  | .ok (a, rest) =>
    match skipSpace rest with
    | [] => .ok a
    | b :: rest => .error (.upon (b :: rest) .trailingCharacters)

end Reader

/-- The start of the next element of a list, or none before the closing bracket. -/
def nextElement (isFirst : Bool) (s : Bytes) : Except Fault (Option Bytes) :=
  match skipSpace s with
  | [] => .error (.upon [] .listCutOff)
  | b :: rest =>
    if b = 0x5D then .ok none
    else if isFirst then .ok (some (b :: rest))
    else if b = 0x2C then
      match skipSpace rest with
      | [] => .error (.upon [] .valueCutOff)
      | c :: more =>
        if c = 0x5D then .error (.upon (c :: more) .trailingComma) else .ok (some (c :: more))
    else .error (.upon (b :: rest) .listContinuationExpected)

/-- The next element of a list starts no earlier, and later if a comma stands before it. -/
theorem nextElement_length {isFirst : Bool} {s t : Bytes}
    (h : nextElement isFirst s = .ok (some t)) :
    t.length ≤ s.length ∧ (isFirst = false → t.length < s.length) := by
  have hs := skipSpace_length s
  unfold nextElement at h
  split at h
  · simp at h
  · rename_i b rest hb
    rw [hb] at hs
    simp only [List.length_cons] at hs
    split at h
    · simp at h
    · split at h
      · cases h
        exact ⟨hs, by simp_all⟩
      · split at h
        · have hr := skipSpace_length rest
          split at h
          · simp at h
          · rename_i hc
            rw [hc] at hr
            split at h
            · simp at h
            · cases h
              simp only [List.length_cons] at hr ⊢
              omega
        · simp at h

/-- Closes a list: what is left, and the fault if the list does not end here. -/
def closeList (s : Bytes) : Bytes × Option Fault :=
  match skipSpace s with
  | [] => ([], some (.upon [] .listCutOff))
  | b :: rest =>
    if b = 0x5D then (rest, none)
    else if b = 0x2C then
      let more := skipSpace rest
      (more, some (.upon more (if more.head? = some 0x5D then .trailingComma else .trailingCharacters)))
    else (b :: rest, some (.upon (b :: rest) .trailingCharacters))

/-- A document is no longer behind the end of a list. -/
theorem closeList_length (s : Bytes) : (closeList s).1.length ≤ s.length := by
  unfold closeList
  split
  · simp
  · rename_i b rest hb
    have := length_of_skipSpace hb
    split
    · exact Nat.le_of_lt this
    · split
      · exact Nat.le_trans (skipSpace_length rest) (Nat.le_of_lt this)
      · simp only [List.length_cons]
        omega

/-- Reads the elements of a list behind its opening bracket; `taken` holds those before,
last first. -/
def readElements {α : Type} (r : Reader α) (taken : List α) (s : Bytes) :
    Except Fault (List α × Bytes) :=
  match _hn : nextElement taken.isEmpty s with
  | .error fault => .error fault
  | .ok none => .ok (taken.reverse, s)
  | .ok (some t) =>
    match _hr : r.read t with
    | .error fault => .error (fault.inside (.element taken.length))
    | .ok (a, u) => readElements r (a :: taken) u
termination_by 2 * s.length + (if taken.isEmpty then 1 else 0)
decreasing_by
  have := nextElement_length _hn
  have := r.read_length _hr
  cases taken <;> simp_all <;> omega

/-- A document is no longer behind the elements of a list. -/
theorem readElements_length {α : Type} {r : Reader α} {taken all : List α} {s t : Bytes}
    (h : readElements r taken s = .ok (all, t)) : t.length ≤ s.length := by
  fun_induction readElements r taken s with
  | case1 | case3 => simp at h
  | case2 =>
    simp only [Except.ok.injEq, Prod.mk.injEq] at h
    exact h.2 ▸ Nat.le_refl _
  | case4 taken s u hn a v hr ih =>
    have := ih h
    have := (nextElement_length hn).1
    have := r.read_length hr
    omega

end ChatGateway.Json
