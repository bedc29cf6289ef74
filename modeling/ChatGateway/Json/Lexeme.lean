import ChatGateway.Decimal.Notation
import ChatGateway.Json.Fault

/-!
# Words, texts and numbers of a document

The smallest parts of a document. Each function takes the octets from which it reads and
returns what it read and the octets that follow, or the fault. The length lemmas state
that what follows is never longer than what was given; the readers of whole values end
because of them.
-/

namespace ChatGateway.Json

/-- Whether an octet may stand between two parts of a document. -/
def isSpace (b : UInt8) : Bool := b = 0x20 || b = 0x0A || b = 0x09 || b = 0x0D

/-- The octets from the first that is no space. -/
def skipSpace : Bytes → Bytes
  | [] => []
  | b :: rest => if isSpace b then skipSpace rest else b :: rest

/-- Skipping space does not make a document longer. -/
theorem skipSpace_length (s : Bytes) : (skipSpace s).length ≤ s.length := by
  induction s with
  | nil => simp [skipSpace]
  | cons b rest ih =>
    simp only [skipSpace]
    split
    · simp only [List.length_cons]
      omega
    · simp

/-- What follows the first octet behind space is shorter than the document. -/
theorem length_of_skipSpace {s : Bytes} {b : UInt8} {rest : Bytes} (h : skipSpace s = b :: rest) :
    rest.length < s.length := by
  have := skipSpace_length s
  rw [h] at this
  exact this

/-- The mark at both ends of a text. -/
def quoteMark : UInt8 := 0x22

/-- The mark before an escaped character. -/
def escapeMark : UInt8 := 0x5C

/-- Whether an octet is a decimal digit. -/
def isDigit (b : UInt8) : Bool := 0x30 ≤ b && b ≤ 0x39

/-- The value of a decimal digit. -/
def digitValue (b : UInt8) : Nat := b.toNat - 0x30

/-- Reads the octets of `word`, each of which must come next. -/
def expectWord : (word : Bytes) → Bytes → Except Fault Bytes
  | [], s => .ok s
  | _ :: _, [] => .error (.before [] .valueCutOff)
  | w :: word, b :: rest =>
    if b = w then expectWord word rest else .error (.before rest .wordExpected)

/-- A document is no longer behind a word. -/
theorem expectWord_length {word s t : Bytes} (h : expectWord word s = .ok t) :
    t.length ≤ s.length := by
  induction word generalizing s with
  | nil => simp_all [expectWord]
  | cons w word ih =>
    cases s with
    | nil => simp [expectWord] at h
    | cons b rest =>
      simp only [expectWord] at h
      split at h
      · have := ih h
        simp only [List.length_cons]
        omega
      · simp at h

/-- The octet that a one-letter escape stands for. -/
def letterEscape? (b : UInt8) : Option UInt8 :=
  if b = 0x22 then some 0x22
  else if b = 0x5C then some 0x5C
  else if b = 0x2F then some 0x2F
  else if b = 0x62 then some 0x08
  else if b = 0x66 then some 0x0C
  else if b = 0x6E then some 0x0A
  else if b = 0x72 then some 0x0D
  else if b = 0x74 then some 0x09
  else none

/-- The value of a hexadecimal digit. -/
def hexOctet? (b : UInt8) : Option Nat := Text.hexValue? (Bytes.character b)

/-- Reads four hexadecimal digits. -/
def hexQuad : Bytes → Except Fault (Nat × Bytes)
  | a :: b :: c :: d :: rest =>
    match hexOctet? a, hexOctet? b, hexOctet? c, hexOctet? d with
    | some a, some b, some c, some d => .ok (((a * 16 + b) * 16 + c) * 16 + d, rest)
    | _, _, _, _ => .error (.before rest .invalidEscape)
  | _ => .error (.before [] .textCutOff)

/-- A document is no longer behind four hexadecimal digits. -/
theorem hexQuad_length {s t : Bytes} {n : Nat} (h : hexQuad s = .ok (n, t)) :
    t.length ≤ s.length := by
  unfold hexQuad at h
  split at h
  · split at h
    · cases h
      simp only [List.length_cons]
      omega
    · simp at h
  · simp at h

/-- The octets of a code point. -/
def codePoint (n : Nat) : Bytes := Bytes.ofText (String.singleton (Char.ofNat n))

/-- Reads the second half of a pair of escapes, after the value `high` of the first. -/
def secondEscape (high : Nat) : Bytes → Except Fault (Bytes × Bytes)
  | [] => .error (.before [] .textCutOff)
  | b :: rest =>
    if b ≠ escapeMark then .error (.before rest .unpairedEscape)
    else match rest with
      | [] => .error (.before [] .textCutOff)
      | c :: rest =>
        if c ≠ 0x75 then .error (.before rest .unpairedEscape)
        else match hexQuad rest with
          | .error fault => .error fault
          | .ok (low, rest) =>
            if low < 0xDC00 || 0xDFFF < low then .error (.before rest .loneSurrogate)
            else .ok (codePoint (0x10000 + (high - 0xD800) * 0x400 + (low - 0xDC00)), rest)

/-- A document is no longer behind the second half of a pair of escapes. -/
theorem secondEscape_length {high : Nat} {s o t : Bytes} (h : secondEscape high s = .ok (o, t)) :
    t.length ≤ s.length := by
  unfold secondEscape at h
  split at h
  · simp at h
  · split at h
    · simp at h
    · split at h
      · simp at h
      · split at h
        · simp at h
        · split at h
          · simp at h
          · rename_i hq
            split at h
            · simp at h
            · simp only [Except.ok.injEq, Prod.mk.injEq] at h
              obtain ⟨_, rfl⟩ := h
              have := hexQuad_length hq
              simp only [List.length_cons]
              omega

/-- Reads what follows an escape mark inside a text. -/
def escaped : Bytes → Except Fault (Bytes × Bytes)
  | [] => .error (.before [] .textCutOff)
  | b :: rest =>
    match letterEscape? b with
    | some octet => .ok ([octet], rest)
    | none =>
      if b ≠ 0x75 then .error (.before rest .invalidEscape)
      else match hexQuad rest with
        | .error fault => .error fault
        | .ok (n, rest) =>
          if 0xDC00 ≤ n && n ≤ 0xDFFF then .error (.before rest .loneSurrogate)
          else if n < 0xD800 || 0xDBFF < n then .ok (codePoint n, rest)
          else secondEscape n rest

/-- A document is no longer behind an escape. -/
theorem escaped_length {s o t : Bytes} (h : escaped s = .ok (o, t)) : t.length ≤ s.length := by
  unfold escaped at h
  split at h
  · simp at h
  · split at h
    · cases h
      simp
    · split at h
      · simp at h
      · split at h
        · simp at h
        · rename_i hq
          have := hexQuad_length hq
          split at h
          · simp at h
          · split at h
            · cases h
              simp only [List.length_cons]
              omega
            · have := secondEscape_length h
              simp only [List.length_cons]
              omega

/-- Reads the octets of a text after its opening mark, through its closing mark; `seen`
holds the octets so far, last first. -/
def textOctets (s seen : Bytes) : Except Fault (Bytes × Bytes) :=
  match s with
  | [] => .error (.before [] .textCutOff)
  | b :: rest =>
    if b = quoteMark then .ok (seen.reverse, rest)
    else if b = escapeMark then
      match _h : escaped rest with
      | .error fault => .error fault
      | .ok (octets, rest') => textOctets rest' (octets.reverse ++ seen)
    else if b < 0x20 then .error (.before rest .controlCharacter)
    else textOctets rest (b :: seen)
termination_by s.length
decreasing_by
  · have := escaped_length _h
    simp only [List.length_cons]
    omega
  · simp

/-- The closing quote at least is used up when the octets of a text are read. -/
theorem textOctets_length {s seen o t : Bytes} (h : textOctets s seen = .ok (o, t)) :
    t.length < s.length := by
  fun_induction textOctets s seen with
  | case1 => simp at h
  | case2 => simp_all
  | case3 => simp at h
  | case4 seen rest octets rest' he _ ih =>
    have := ih h
    have := escaped_length he
    simp only [List.length_cons]
    omega
  | case5 => simp at h
  | case6 seen b rest _ _ _ ih =>
    have := ih h
    simp only [List.length_cons]
    omega

/-- Reads a text after its opening mark. -/
def textAfterMark (s : Bytes) : Except Fault (String × Bytes) :=
  match textOctets s [] with
  | .error fault => .error fault
  | .ok (octets, rest) =>
    match Bytes.toText? octets with
    | some text => .ok (text, rest)
    | none =>
      let raw := s.take (s.length - rest.length - 1)
      .error (.upon (s.drop (Bytes.wellFormedLength raw)) .illFormedText)

/-- A text uses up its closing quote at least. -/
theorem textAfterMark_length {s t : Bytes} {text : String} (h : textAfterMark s = .ok (text, t)) :
    t.length < s.length := by
  unfold textAfterMark at h
  split at h
  · simp at h
  · rename_i ho
    split at h
    · cases h
      exact textOctets_length ho
    · simp at h

/-- Passes over what follows an escape mark; four digits are taken as they are. -/
def skipEscaped : Bytes → Except Fault Bytes
  | [] => .error (.before [] .textCutOff)
  | b :: rest =>
    if (letterEscape? b).isSome then .ok rest
    else if b ≠ 0x75 then .error (.before rest .invalidEscape)
    else match hexQuad rest with
      | .error fault => .error fault
      | .ok (_, rest) => .ok rest

/-- A document is no longer behind an escape that is skipped. -/
theorem skipEscaped_length {s t : Bytes} (h : skipEscaped s = .ok t) : t.length ≤ s.length := by
  unfold skipEscaped at h
  split at h
  · simp at h
  · split at h
    · cases h
      simp
    · split at h
      · simp at h
      · split at h
        · simp at h
        · rename_i hq
          cases h
          have := hexQuad_length hq
          simp only [List.length_cons]
          omega

/-- Passes over a text after its opening mark, through its closing mark. -/
def skipText (s : Bytes) : Except Fault Bytes :=
  match s with
  | [] => .error (.before [] .textCutOff)
  | b :: rest =>
    if b = quoteMark then .ok rest
    else if b = escapeMark then
      match _h : skipEscaped rest with
      | .error fault => .error fault
      | .ok rest' => skipText rest'
    else if b < 0x20 then .error (.before (b :: rest) .controlCharacter)
    else skipText rest
termination_by s.length
decreasing_by
  · have := skipEscaped_length _h
    simp only [List.length_cons]
    omega
  · simp

/-- A text that is skipped uses up its closing quote at least. -/
theorem skipText_length {s t : Bytes} (h : skipText s = .ok t) : t.length < s.length := by
  fun_induction skipText s with
  | case1 => simp at h
  | case2 => simp_all
  | case3 => simp at h
  | case4 rest rest' he _ ih =>
    have := ih h
    have := skipEscaped_length he
    simp only [List.length_cons]
    omega
  | case5 => simp at h
  | case6 b rest _ _ _ ih =>
    have := ih h
    simp only [List.length_cons]
    omega

end ChatGateway.Json
