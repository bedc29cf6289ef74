import ChatGateway.Json.Number

/-!
# Passing over values

A member that nobody asked for is passed over without being kept, however deep it nests:
the brackets that are open form a list, innermost first, so depth costs no recursion.
-/

namespace ChatGateway.Json

/-- An open bracket. -/
inductive Bracket where
  | list
  | object
  deriving DecidableEq, Repr

namespace Bracket

/-- The octet that closes the bracket. -/
def closing : Bracket → UInt8
  | list => 0x5D
  | object => 0x7D

/-- The reason when the document ends inside the bracket. -/
def cutOff : Bracket → Reason
  | list => .listCutOff
  | object => .objectCutOff

/-- The reason when neither a comma nor the closing bracket follows a part. -/
def continuationExpected : Bracket → Reason
  | list => .listContinuationExpected
  | object => .objectContinuationExpected

end Bracket

/-- Passes over a value that is no list and no object, by its first octet. -/
def skipScalar (b : UInt8) (rest : Bytes) : Except Fault Bytes :=
  if b = 0x6E then expectWord [0x75, 0x6C, 0x6C] rest
  else if b = 0x74 then expectWord [0x72, 0x75, 0x65] rest
  else if b = 0x66 then expectWord [0x61, 0x6C, 0x73, 0x65] rest
  else if b = 0x2D then skipNumber rest
  else if isDigit b then skipNumber (b :: rest)
  else if b = quoteMark then skipText rest
  else .error (.upon (b :: rest) .valueExpected)

/-- Passes over spaces and a colon. -/
def skipColon (s : Bytes) : Except Fault Bytes :=
  match skipSpace s with
  | [] => .error (.upon [] .objectCutOff)
  | b :: rest => if b = 0x3A then .ok rest else .error (.upon (b :: rest) .colonExpected)

/-- Passes over what precedes a part inside the bracket: the name and colon of a member. -/
def skipName (bracket : Bracket) (s : Bytes) : Except Fault Bytes :=
  match bracket with
  | .list => .ok s
  | .object =>
    match skipSpace s with
    | [] => .error (.upon [] .objectCutOff)
    | b :: rest =>
      if b = quoteMark then
        match skipText rest with
        | .error fault => .error fault
        | .ok rest => skipColon rest
      else .error (.upon (b :: rest) .memberNameExpected)

/-- A document is no longer behind a scalar that is skipped. -/
theorem skipScalar_length {b : UInt8} {rest t : Bytes} (h : skipScalar b rest = .ok t) :
    t.length ≤ rest.length := by
  unfold skipScalar at h
  split at h
  · exact expectWord_length h
  split at h
  · exact expectWord_length h
  split at h
  · exact expectWord_length h
  split at h
  · exact skipNumber_length h
  split at h
  · unfold skipNumber at h
    simp_all only [Bool.not_true, Bool.false_eq_true, if_false]
    split at h
    · split at h
      · exact skipAfterWhole_length h
      · simp at h
    · exact Nat.le_trans (skipAfterWhole_length h) (afterDigits_length rest)
  split at h
  · exact Nat.le_of_lt (skipText_length h)
  · simp at h

/-- Skipping a colon uses it up. -/
theorem skipColon_length {s t : Bytes} (h : skipColon s = .ok t) : t.length < s.length := by
  unfold skipColon at h
  split at h
  · simp at h
  · rename_i b rest hb
    split at h
    · cases h
      exact length_of_skipSpace hb
    · simp at h

/-- A document is no longer behind a name that is skipped. -/
theorem skipName_length {bracket : Bracket} {s t : Bytes} (h : skipName bracket s = .ok t) :
    t.length ≤ s.length := by
  unfold skipName at h
  split at h
  · cases h
    exact Nat.le_refl _
  · split at h
    · simp at h
    · rename_i b rest hb
      have := length_of_skipSpace hb
      split at h
      · split at h
        · simp at h
        · rename_i u hu
          have := skipText_length hu
          have := skipColon_length h
          omega
      · simp at h

/-- Where the passing over stands: before a value, behind an opening bracket, or behind a value. -/
inductive Stage where
  | value
  | opened
  | closed
  deriving DecidableEq, Repr

/-- An opening bracket is followed by a value or a closing bracket without any octet between. -/
def Stage.weight : Stage → Nat
  | opened => 1
  | _ => 0

/-- Passes over the rest of a value inside the given open brackets, innermost first. -/
def skipFrom (stage : Stage) (outer : List Bracket) (s : Bytes) : Except Fault Bytes :=
  match stage, outer with
  | .value, outer =>
    match _hs : skipSpace s with
    | [] => .error (.upon [] .valueCutOff)
    | b :: rest =>
      if b = 0x5B then skipFrom .opened (.list :: outer) rest
      else if b = 0x7B then skipFrom .opened (.object :: outer) rest
      else match _ht : skipScalar b rest with
        | .error fault => .error fault
        | .ok t => skipFrom .closed outer t
  | _, [] => .ok s
  | .opened, bracket :: outer =>
    match _hs : skipSpace s with
    | [] => .error (.upon [] bracket.cutOff)
    | b :: rest =>
      if b = bracket.closing then skipFrom .closed outer rest
      else match _ht : skipName bracket (b :: rest) with
        | .error fault => .error fault
        | .ok t => skipFrom .value (bracket :: outer) t
  | .closed, bracket :: outer =>
    match _hs : skipSpace s with
    | [] => .error (.upon [] bracket.cutOff)
    | b :: rest =>
      if b = bracket.closing then skipFrom .closed outer rest
      else if b = 0x2C then
        match _ht : skipName bracket rest with
        | .error fault => .error fault
        | .ok t => skipFrom .value (bracket :: outer) t
      else .error (.upon (b :: rest) bracket.continuationExpected)
termination_by 2 * s.length + stage.weight
decreasing_by
  all_goals
    have := length_of_skipSpace _hs
    try have := skipScalar_length _ht
    try have := skipName_length _ht
    simp only [Stage.weight, List.length_cons] at *
    omega

/-- Passes over one value. -/
def skipValue (s : Bytes) : Except Fault Bytes := skipFrom .value [] s

/-- A document is no longer behind whatever is skipped, however deep it is nested. -/
theorem skipFrom_length {stage : Stage} {outer : List Bracket} {s t : Bytes}
    (h : skipFrom stage outer s = .ok t) : t.length ≤ s.length := by
  fun_induction skipFrom stage outer s with
  | case1 | case4 | case7 | case9 | case11 | case13 | case15 => simp at h
  | case2 s outer rest hs ih | case3 s outer rest hs _ ih | case8 s bracket outer rest hs ih
  | case12 s bracket outer rest hs ih =>
    have := ih h
    have := length_of_skipSpace hs
    omega
  | case5 s outer b rest hs _ _ u hu ih =>
    have := ih h
    have := length_of_skipSpace hs
    have := skipScalar_length hu
    omega
  | case6 =>
    cases h
    exact Nat.le_refl _
  | case10 s bracket outer b rest hs _ u hu ih =>
    have := ih h
    have := length_of_skipSpace hs
    have := skipName_length hu
    simp only [List.length_cons] at this
    omega
  | case14 s bracket outer rest u hu hs _ ih =>
    have := ih h
    have := length_of_skipSpace hs
    have := skipName_length hu
    omega

end ChatGateway.Json
