import ChatGateway.Json.Lexeme

/-!
# Numbers of a document

A number without point and exponent that fits into sixty-four binary places is whole; all
others are binary floating-point numbers. Their digits are gathered into a word as long as
they fit, and the word is then scaled by a power of ten, so that a long numeral may lose
its last digits but never its size. A whole number that does not fit remembers its value.
-/

namespace ChatGateway.Json

/-- A number of a document. -/
inductive Number where
  | natural (n : Nat)
  /-- The number below zero with this absolute value. -/
  | negative (n : Nat)
  | float (x : Float)
  /-- A whole number of more than sixty-four binary places, and what stands for it. -/
  | large (n : Nat) (x : Float)

/-- The digits at the front of a document. -/
def digitsOf (s : Bytes) : Bytes := s.takeWhile isDigit

/-- The document after the digits at its front. -/
def afterDigits (s : Bytes) : Bytes := s.dropWhile isDigit

/-- A document is no longer behind digits. -/
theorem afterDigits_length (s : Bytes) : (afterDigits s).length ≤ s.length :=
  (List.dropWhile_suffix isDigit).length_le

/-- Appends digits to a word as long as they fit; returns the digits that do not. -/
def absorb (word : Nat) : Bytes → Nat × Bytes
  | [] => (word, [])
  | d :: rest =>
    if Text.wordLimit < word * 10 + digitValue d then (word, d :: rest)
    else absorb (word * 10 + digitValue d) rest

/-- The number that digits make behind a word. -/
def extended (word : Nat) (digits : Bytes) : Nat :=
  digits.foldl (fun n d => n * 10 + digitValue d) word

/-- The greatest power of ten that a floating-point number holds. -/
def greatestPower : Nat := 308

/-- A power of ten. -/
def powerOfTen (n : Nat) : Float := Float.ofScientific 1 false n

/-- A word times a power of ten; the rest of the document places the fault of an overflow. -/
def scale (x : Float) (exponent : Int) (rest : Bytes) : Except Fault Float :=
  if exponent.natAbs ≤ greatestPower then
    if 0 ≤ exponent then
      let y := x * powerOfTen exponent.toNat
      if y.isInf then .error (.before rest .numberOutOfRange) else .ok y
    else .ok (x / powerOfTen exponent.natAbs)
  else if x == 0.0 then .ok x
  else if _h : 0 ≤ exponent then .error (.before rest .numberOutOfRange)
  else scale (x / powerOfTen greatestPower) (exponent + greatestPower) rest
termination_by (-exponent).toNat
decreasing_by simp only [greatestPower]; omega

/-- The number with the sign. -/
def signed (positive : Bool) (x : Float) : Number := .float (if positive then x else -x)

/-- The word as a floating-point number, scaled and signed. -/
def scaled (positive : Bool) (word : Nat) (exponent : Int) (rest : Bytes) :
    Except Fault (Number × Bytes) :=
  match scale word.toUInt64.toFloat exponent rest with
  | .error fault => .error fault
  | .ok x => .ok (signed positive x, rest)

/-- The greatest exponent that is computed with. -/
def exponentLimit : Nat := 2147483647

/-- Appends digits to an exponent; returns what follows the digit that makes it too large. -/
def exponentValue (value : Nat) : Bytes → Except Bytes Nat
  | [] => .ok value
  | d :: rest =>
    if exponentLimit < value * 10 + digitValue d then .error rest
    else exponentValue (value * 10 + digitValue d) rest

/-- The sign of an exponent and what follows it. -/
def exponentSign : Bytes → Bool × Bytes
  | [] => (true, [])
  | b :: rest => if b = 0x2B then (true, rest) else if b = 0x2D then (false, rest) else (true, b :: rest)

/-- A document is no longer behind the sign of an exponent. -/
theorem exponentSign_length (s : Bytes) : (exponentSign s).2.length ≤ s.length := by
  unfold exponentSign
  split
  · simp
  · split
    · simp
    · split <;> simp

/-- Reads an exponent after its mark and scales the word by it. -/
def withExponent (positive : Bool) (word : Nat) (exponent : Int) (s : Bytes) :
    Except Fault (Number × Bytes) :=
  let (upward, s) := exponentSign s
  match s with
  | [] => .error (.before [] .valueCutOff)
  | d :: rest =>
    if !isDigit d then .error (.before rest .invalidNumber)
    else
      let after := afterDigits rest
      match exponentValue (digitValue d) (digitsOf rest) with
      | .ok value =>
        scaled positive word (if upward then exponent + value else exponent - value) after
      | .error unread =>
        if word ≠ 0 && upward then .error (.before (unread ++ after) .numberOutOfRange)
        else .ok (signed positive 0.0, after)

/-- Whether an octet marks an exponent. -/
def marksExponent (b : UInt8) : Bool := b = 0x65 || b = 0x45

/-- Reads the digits after a point, and the exponent if there is one. -/
def withFraction (positive : Bool) (word : Nat) (exponent : Int) (s : Bytes) :
    Except Fault (Number × Bytes) :=
  match digitsOf s with
  | [] => .error (if s.isEmpty then .before [] .valueCutOff else .upon s .invalidNumber)
  | d :: digits =>
    let (word, unread) := absorb word (d :: digits)
    let exponent := exponent - ((d :: digits).length - unread.length : Nat)
    match afterDigits s with
    | [] => scaled positive word exponent []
    | b :: rest =>
      if marksExponent b then withExponent positive word exponent rest
      else scaled positive word exponent (b :: rest)

/-- A positive whole number whose digits did not all fit into the word. -/
def largeNumber (word : Nat) (unread : Bytes) (s : Bytes) : Except Fault (Number × Bytes) :=
  match scale word.toUInt64.toFloat unread.length s with
  | .error fault => .error fault
  | .ok x => .ok (.large (extended word unread) x, s)

/-- The number whose digits end here; the unread ones did not fit into the word. -/
def wholeNumber (positive : Bool) (word : Nat) (unread s : Bytes) : Except Fault (Number × Bytes) :=
  if !unread.isEmpty then
    if positive then largeNumber word unread s else scaled positive word unread.length s
  else if positive then .ok (.natural word, s)
  else if word = 0 || 9223372036854775808 < word then .ok (signed false word.toUInt64.toFloat, s)
  else .ok (.negative word, s)

/-- Reads what may follow the digits before the point. -/
def afterWhole (positive : Bool) (word : Nat) (unread : Bytes) : Bytes → Except Fault (Number × Bytes)
  | [] => wholeNumber positive word unread []
  | b :: rest =>
    if b = 0x2E then withFraction positive word unread.length rest
    else if marksExponent b then withExponent positive word unread.length rest
    else wholeNumber positive word unread (b :: rest)

/-- Reads a number after its sign. -/
def numberAfterSign (positive : Bool) : Bytes → Except Fault (Number × Bytes)
  | [] => .error (.before [] .valueCutOff)
  | b :: rest =>
    if !isDigit b then .error (.before rest .invalidNumber)
    else if b = 0x30 then
      if (digitsOf rest).isEmpty then afterWhole positive 0 [] rest
      else .error (.upon rest .invalidNumber)
    else
      let (word, unread) := absorb 0 (b :: digitsOf rest)
      afterWhole positive word unread (afterDigits rest)

/-- Scaling a number takes nothing from the document that follows it. -/
theorem scaled_length {positive : Bool} {word : Nat} {exponent : Int} {s t : Bytes} {n : Number}
    (h : scaled positive word exponent s = .ok (n, t)) : t.length ≤ s.length := by
  unfold scaled at h
  split at h
  · simp at h
  · simp only [Except.ok.injEq, Prod.mk.injEq] at h
    obtain ⟨_, rfl⟩ := h
    exact Nat.le_refl _

/-- A document is no longer behind an exponent. -/
theorem withExponent_length {positive : Bool} {word : Nat} {exponent : Int} {s t : Bytes}
    {n : Number} (h : withExponent positive word exponent s = .ok (n, t)) :
    t.length ≤ s.length := by
  have hs := exponentSign_length s
  unfold withExponent at h
  split at h
  rename_i upward u hu
  rw [hu] at hs
  split at h
  · simp at h
  · rename_i d rest
    have := afterDigits_length rest
    simp only [List.length_cons] at hs
    split at h
    · simp at h
    · split at h
      · have := scaled_length h
        omega
      · split at h
        · simp at h
        · simp only [Except.ok.injEq, Prod.mk.injEq] at h
          obtain ⟨_, rfl⟩ := h
          omega

/-- A document is no longer behind a fraction. -/
theorem withFraction_length {positive : Bool} {word : Nat} {exponent : Int} {s t : Bytes}
    {n : Number} (h : withFraction positive word exponent s = .ok (n, t)) :
    t.length ≤ s.length := by
  have hs := afterDigits_length s
  unfold withFraction at h
  split at h
  · simp at h
  · simp only at h
    split at h
    · have := scaled_length h
      exact Nat.le_trans this (Nat.zero_le _)
    · rename_i b rest hrest
      rw [hrest] at hs
      simp only [List.length_cons] at hs
      split at h
      · have := withExponent_length h
        omega
      · have := scaled_length h
        simp only [List.length_cons] at this
        omega

/-- A document is no longer behind a number too large for a word. -/
theorem largeNumber_length {word : Nat} {unread s t : Bytes} {n : Number}
    (h : largeNumber word unread s = .ok (n, t)) : t.length ≤ s.length := by
  unfold largeNumber at h
  split at h
  · simp at h
  · simp only [Except.ok.injEq, Prod.mk.injEq] at h
    obtain ⟨_, rfl⟩ := h
    exact Nat.le_refl _

/-- A document is no longer behind a whole number. -/
theorem wholeNumber_length {positive : Bool} {word : Nat} {unread s t : Bytes} {n : Number}
    (h : wholeNumber positive word unread s = .ok (n, t)) : t.length ≤ s.length := by
  unfold wholeNumber at h
  split at h
  · split at h
    · exact largeNumber_length h
    · exact scaled_length h
  · have : s = t := by
      repeat' split at h
      all_goals
        simp only [Except.ok.injEq, Prod.mk.injEq] at h
        exact h.2
    exact this ▸ Nat.le_refl _

/-- A document is no longer behind what may follow the whole part of a number. -/
theorem afterWhole_length {positive : Bool} {word : Nat} {unread s t : Bytes} {n : Number}
    (h : afterWhole positive word unread s = .ok (n, t)) : t.length ≤ s.length := by
  unfold afterWhole at h
  split at h
  · exact wholeNumber_length h
  · split at h
    · have := withFraction_length h
      simp only [List.length_cons]
      omega
    · split at h
      · have := withExponent_length h
        simp only [List.length_cons]
        omega
      · exact wholeNumber_length h

/-- A document is no longer behind a number without its sign. -/
theorem numberAfterSign_length {positive : Bool} {s t : Bytes} {n : Number}
    (h : numberAfterSign positive s = .ok (n, t)) : t.length ≤ s.length := by
  unfold numberAfterSign at h
  split at h
  · simp at h
  · rename_i b rest
    have := afterDigits_length rest
    simp only [List.length_cons]
    split at h
    · simp at h
    · split at h
      · split at h
        · have := afterWhole_length h
          omega
        · simp at h
      · have := afterWhole_length h
        omega

/-- Passes over an exponent after its mark. -/
def skipExponent (s : Bytes) : Except Fault Bytes :=
  match (exponentSign s).2 with
  | [] => .error (.before [] .invalidNumber)
  | d :: rest => if isDigit d then .ok (afterDigits rest) else .error (.before rest .invalidNumber)

/-- Passes over what may follow the digits after the point. -/
def skipAfterFraction : Bytes → Except Fault Bytes
  | [] => .ok []
  | b :: rest => if marksExponent b then skipExponent rest else .ok (b :: rest)

/-- Passes over what may follow the digits before the point. -/
def skipAfterWhole : Bytes → Except Fault Bytes
  | [] => .ok []
  | b :: rest =>
    if b = 0x2E then
      if (digitsOf rest).isEmpty then .error (.upon rest .invalidNumber)
      else skipAfterFraction (afterDigits rest)
    else if marksExponent b then skipExponent rest
    else .ok (b :: rest)

/-- Passes over a number after its sign. -/
def skipNumber : Bytes → Except Fault Bytes
  | [] => .error (.before [] .invalidNumber)
  | b :: rest =>
    if !isDigit b then .error (.before rest .invalidNumber)
    else if b = 0x30 then
      if (digitsOf rest).isEmpty then skipAfterWhole rest else .error (.upon rest .invalidNumber)
    else skipAfterWhole (afterDigits rest)

/-- A document is no longer behind an exponent that is skipped. -/
theorem skipExponent_length {s t : Bytes} (h : skipExponent s = .ok t) : t.length ≤ s.length := by
  have hs := exponentSign_length s
  unfold skipExponent at h
  split at h
  · simp at h
  · rename_i d rest hd
    rw [hd] at hs
    have := afterDigits_length rest
    simp only [List.length_cons] at hs
    split at h
    · cases h
      omega
    · simp at h

/-- A document is no longer behind what is skipped after a fraction. -/
theorem skipAfterFraction_length {s t : Bytes} (h : skipAfterFraction s = .ok t) :
    t.length ≤ s.length := by
  unfold skipAfterFraction at h
  split at h
  · cases h
    simp
  · split at h
    · have := skipExponent_length h
      simp only [List.length_cons]
      omega
    · cases h
      exact Nat.le_refl _

/-- A document is no longer behind what is skipped after the whole part of a number. -/
theorem skipAfterWhole_length {s t : Bytes} (h : skipAfterWhole s = .ok t) :
    t.length ≤ s.length := by
  unfold skipAfterWhole at h
  split at h
  · cases h
    simp
  · rename_i b rest
    have := afterDigits_length rest
    simp only [List.length_cons]
    split at h
    · split at h
      · simp at h
      · have := skipAfterFraction_length h
        omega
    · split at h
      · have := skipExponent_length h
        omega
      · cases h
        simp

/-- A document is no longer behind a number that is skipped. -/
theorem skipNumber_length {s t : Bytes} (h : skipNumber s = .ok t) : t.length ≤ s.length := by
  unfold skipNumber at h
  split at h
  · simp at h
  · rename_i b rest
    have := afterDigits_length rest
    simp only [List.length_cons]
    split at h
    · simp at h
    · split at h
      · split at h
        · have := skipAfterWhole_length h
          omega
        · simp at h
      · have := skipAfterWhole_length h
        omega

end ChatGateway.Json
