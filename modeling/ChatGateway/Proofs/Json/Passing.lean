import ChatGateway.Json.Skip
import ChatGateway.Proofs.Json.Extent

/-!
# How far a value is passed over

A value that nobody asked for is passed over up to its last octet, and where that is depends on
the value and on the next octet only. For a numeral the next octet matters; for a value inside
brackets the argument follows the stages of passing over.
-/

namespace ChatGateway.Json

/-! ## Numerals -/

/-- Whether digits come next is seen from the next octet. -/
theorem digitsOf_isEmpty (s : Bytes) : (digitsOf s).isEmpty = !s.head?.any isDigit := by
  cases s with
  | nil => rfl
  | cons b s => cases hb : isDigit b <;> simp [digitsOf, hb]

/-- Passing over digits is settled by the next octet. -/
theorem settledByNext_afterDigits (s : Bytes) :
    SettledByNext (fun s t => afterDigits s = t) s (afterDigits s) := by
  induction s with
  | nil =>
    refine SettledByNext.refl fun rest hrest => ?_
    rw [List.head?_eq_none_iff.mp hrest]
    rfl
  | cons b s ih =>
    cases hb : isDigit b with
    | true =>
      have passed (t : Bytes) : afterDigits (b :: t) = afterDigits t := by simp [afterDigits, hb]
      rw [passed]
      exact SettledByNext.cons (ih.imp fun u v h => (passed u).trans h)
    | false =>
      have kept (t : Bytes) : afterDigits (b :: t) = b :: t := by simp [afterDigits, hb]
      rw [kept]
      refine SettledByNext.refl fun rest hrest => ?_
      obtain ⟨more, rfl⟩ := List.head?_eq_some_iff.mp hrest
      exact kept more

/-- Digits are settled together with what says that there are some, or none. -/
theorem SettledByNext.and_digitsOf {step : Bytes → Bytes → Prop} {s t : Bytes}
    (h : SettledByNext step s t) :
    SettledByNext (fun u v => step u v ∧ (digitsOf u).isEmpty = (digitsOf s).isEmpty) s t := by
  obtain ⟨front, rfl, hfront⟩ := h
  refine ⟨front, rfl, fun rest hrest => ⟨hfront rest hrest, ?_⟩⟩
  rw [digitsOf_isEmpty, digitsOf_isEmpty, head?_append_congr front hrest]

/-- Passing over the sign of an exponent is settled by the octet behind it. -/
theorem settled_exponentSign {d : UInt8} {s t : Bytes} (h : (exponentSign s).2 = d :: t) :
    Settled (fun s t => (exponentSign s).2 = d :: t) s t := by
  unfold exponentSign at h
  split at h
  · contradiction
  rename_i b rest
  split at h
  · rename_i plus
    cases h
    refine Settled.cons (Settled.cons (Settled.refl fun rest => ?_))
    simp only [exponentSign, plus, if_true]
  rename_i noPlus
  split at h
  · rename_i minus
    cases h
    refine Settled.cons (Settled.cons (Settled.refl fun rest => ?_))
    simp only [exponentSign, minus, if_true]
    rfl
  · rename_i noMinus
    cases h
    refine Settled.cons (Settled.refl fun rest => ?_)
    simp only [exponentSign, noPlus, noMinus, if_false]

/-- Passing over an exponent is settled by the next octet. -/
theorem settledByNext_skipExponent {s t : Bytes} (h : skipExponent s = .ok t) :
    SettledByNext (fun s t => skipExponent s = .ok t) s t := by
  unfold skipExponent at h
  split at h
  · contradiction
  rename_i d rest signed
  split at h
  · rename_i hd
    cases h
    refine ((settled_exponentSign signed).byNext.trans (settledByNext_afterDigits rest)).imp ?_
    intro a v taken
    obtain ⟨b, again, rfl⟩ := taken
    simp only [skipExponent, again, hd, if_true]
  · contradiction

/-- Passing over what follows a fraction is settled by the next octet. -/
theorem settledByNext_skipAfterFraction {s t : Bytes} (h : skipAfterFraction s = .ok t) :
    SettledByNext (fun s t => skipAfterFraction s = .ok t) s t := by
  unfold skipAfterFraction at h
  split at h
  · cases h
    refine SettledByNext.refl fun rest hrest => ?_
    rw [List.head?_eq_none_iff.mp hrest]
    rfl
  rename_i b rest
  split at h
  · rename_i mark
    apply SettledByNext.cons
    simp only [skipAfterFraction, mark, if_true]
    exact settledByNext_skipExponent h
  · rename_i noMark
    cases h
    refine SettledByNext.refl fun rest hrest => ?_
    obtain ⟨more, rfl⟩ := List.head?_eq_some_iff.mp hrest
    simp only [skipAfterFraction, noMark]
    rfl

/-- Passing over what follows the whole part is settled by the next octet. -/
theorem settledByNext_skipAfterWhole {s t : Bytes} (h : skipAfterWhole s = .ok t) :
    SettledByNext (fun s t => skipAfterWhole s = .ok t) s t := by
  unfold skipAfterWhole at h
  split at h
  · cases h
    refine SettledByNext.refl fun rest hrest => ?_
    rw [List.head?_eq_none_iff.mp hrest]
    rfl
  rename_i b rest
  split at h
  · rename_i point
    split at h
    · contradiction
    rename_i digits
    apply SettledByNext.cons
    refine ((settledByNext_afterDigits rest).trans
      (settledByNext_skipAfterFraction h)).and_digitsOf.imp ?_
    intro a v taken
    obtain ⟨⟨_, rfl, fraction⟩, same⟩ := taken
    simp only [skipAfterWhole, point, same, digits, if_true]
    exact fraction
  rename_i noPoint
  split at h
  · rename_i mark
    apply SettledByNext.cons
    simp only [skipAfterWhole, noPoint, mark, if_true, if_false]
    exact settledByNext_skipExponent h
  · rename_i noMark
    cases h
    refine SettledByNext.refl fun rest hrest => ?_
    obtain ⟨more, rfl⟩ := List.head?_eq_some_iff.mp hrest
    simp only [skipAfterWhole, noPoint, noMark, if_false]
    rfl

/-- A numeral that starts with a given octet is settled behind it. -/
theorem settledByNext_skipNumber_cons {b : UInt8} {s t : Bytes} (h : skipNumber (b :: s) = .ok t) :
    SettledByNext (fun s t => skipNumber (b :: s) = .ok t) s t := by
  simp only [skipNumber] at h ⊢
  split at h
  · contradiction
  rename_i digit
  simp only [digit]
  split at h
  · rename_i zero
    split at h
    · rename_i alone
      refine (settledByNext_skipAfterWhole h).and_digitsOf.imp ?_
      intro a v taken
      obtain ⟨whole, same⟩ := taken
      simp only [zero, same, alone, if_true]
      exact whole
    · contradiction
  · rename_i notZero
    refine ((settledByNext_afterDigits s).trans (settledByNext_skipAfterWhole h)).imp ?_
    intro a v taken
    obtain ⟨_, rfl, whole⟩ := taken
    simp only [notZero, if_false]
    exact whole

/-- Passing over a number is settled by the next octet. -/
theorem settledByNext_skipNumber {s t : Bytes} (h : skipNumber s = .ok t) :
    SettledByNext (fun s t => skipNumber s = .ok t) s t := by
  cases s with
  | nil => contradiction
  | cons b s => exact SettledByNext.cons (settledByNext_skipNumber_cons h)

/-! ## Values -/

/-- Passing over a value without parts is settled by the next octet. -/
theorem settledByNext_skipScalar {b : UInt8} {s t : Bytes} (h : skipScalar b s = .ok t) :
    SettledByNext (fun s t => skipScalar b s = .ok t) s t := by
  unfold skipScalar at h ⊢
  split at h
  · rename_i hb
    simp only [hb, if_true]
    exact (settled_expectWord h).byNext
  rename_i noNull
  simp only [noNull, if_false]
  split at h
  · rename_i hb
    simp only [hb, if_true]
    exact (settled_expectWord h).byNext
  rename_i noTrue
  simp only [noTrue, if_false]
  split at h
  · rename_i hb
    simp only [hb, if_true]
    exact (settled_expectWord h).byNext
  rename_i noFalse
  simp only [noFalse, if_false]
  split at h
  · rename_i hb
    simp only [hb, if_true]
    exact settledByNext_skipNumber h
  rename_i noMinus
  simp only [noMinus, if_false]
  split at h
  · rename_i hb
    simp only [hb, if_true]
    exact settledByNext_skipNumber_cons h
  rename_i noDigit
  simp only [noDigit]
  split at h
  · rename_i hb
    simp only [hb, if_true]
    exact (settled_skipText h).byNext
  · contradiction

/-- Passing over a colon is settled. -/
theorem settled_skipColon {s t : Bytes} (h : skipColon s = .ok t) :
    Settled (fun s t => skipColon s = .ok t) s t := by
  unfold skipColon at h
  split at h
  · contradiction
  rename_i b rest found
  split at h
  · rename_i colon
    cases h
    refine (settled_skipSpace found).imp fun a v again => ?_
    simp only [skipColon, again, colon, if_true]
  · contradiction

/-- Passing over the name before a value is settled by the next octet. -/
theorem settledByNext_skipName {bracket : Bracket} {s t : Bytes} (h : skipName bracket s = .ok t) :
    SettledByNext (fun s t => skipName bracket s = .ok t) s t := by
  cases bracket with
  | list =>
    cases h
    exact SettledByNext.refl fun rest _ => rfl
  | object =>
    simp only [skipName] at h
    split at h
    · contradiction
    rename_i b rest found
    split at h
    · rename_i quote
      split at h
      · contradiction
      rename_i u name
      refine Settled.byNext (((settled_skipSpace found).trans
        ((settled_skipText name).trans (settled_skipColon h))).imp ?_)
      intro a v taken
      obtain ⟨w, again, x, hname, colon⟩ := taken
      simp only [skipName, again, quote, hname, if_true]
      exact colon
    · contradiction

/-! ## Stages

One equation for each stage of passing over, from what stands behind the spaces. -/

section Stages

variable {outer : List Bracket} {bracket : Bracket} {b : UInt8} {s t : Bytes}

/-- Where a value is due, the next octet opens it or begins one without parts. -/
theorem skipFrom_value (h : skipSpace s = b :: t) :
    skipFrom .value outer s =
      if b = 0x5B then skipFrom .opened (.list :: outer) t
      else if b = 0x7B then skipFrom .opened (.object :: outer) t
      else match skipScalar b t with
        | .error fault => .error fault
        | .ok u => skipFrom .closed outer u := by
  conv => lhs; rw [skipFrom]
  split
  · simp_all
  · rename_i again
    rw [h] at again
    cases again
    cases skipScalar b t <;> rfl

/-- Behind an opening, the part is closed or a value is due. -/
theorem skipFrom_opened (h : skipSpace s = b :: t) :
    skipFrom .opened (bracket :: outer) s =
      if b = bracket.closing then skipFrom .closed outer t
      else match skipName bracket (b :: t) with
        | .error fault => .error fault
        | .ok u => skipFrom .value (bracket :: outer) u := by
  conv => lhs; rw [skipFrom]
  split
  · simp_all
  · rename_i again
    rw [h] at again
    cases again
    cases skipName bracket (b :: t) <;> rfl

/-- Behind a value, the part is closed or goes on with a comma. -/
theorem skipFrom_closed (h : skipSpace s = b :: t) :
    skipFrom .closed (bracket :: outer) s =
      if b = bracket.closing then skipFrom .closed outer t
      else if b = 0x2C then
        match skipName bracket t with
        | .error fault => .error fault
        | .ok u => skipFrom .value (bracket :: outer) u
      else .error (.upon (b :: t) bracket.continuationExpected) := by
  conv => lhs; rw [skipFrom]
  split
  · simp_all
  · rename_i again
    rw [h] at again
    cases again
    cases skipName bracket t <;> rfl

end Stages

/-- Passing over the rest of a value is settled by the octets passed and the next one. -/
theorem settledByNext_skipFrom {stage : Stage} {outer : List Bracket} {s t : Bytes}
    (h : skipFrom stage outer s = .ok t) :
    SettledByNext (fun s t => skipFrom stage outer s = .ok t) s t := by
  fun_induction skipFrom stage outer s with
  | case1 | case4 | case7 | case9 | case11 | case13 | case15 => contradiction
  | case2 s outer rest found ih =>
    refine ((settled_skipSpace found).byNext.trans (ih h)).imp ?_
    intro a v taken
    obtain ⟨b, opening, later⟩ := taken
    rw [skipFrom_value opening, if_pos rfl]
    exact later
  | case3 s outer rest found noList ih =>
    refine ((settled_skipSpace found).byNext.trans (ih h)).imp ?_
    intro a v taken
    obtain ⟨b, opening, later⟩ := taken
    rw [skipFrom_value opening, if_neg noList, if_pos rfl]
    exact later
  | case5 s outer b rest found noList noObject u hscalar ih =>
    refine ((settled_skipSpace found).byNext.trans
      ((settledByNext_skipScalar hscalar).trans (ih h))).imp ?_
    intro a v taken
    obtain ⟨c, first, d, scalar, later⟩ := taken
    rw [skipFrom_value first, if_neg noList, if_neg noObject, scalar]
    exact later
  | case6 stage s notValue =>
    cases h
    refine SettledByNext.refl fun rest _ => ?_
    cases stage with
    | value => exact absurd rfl notValue
    | _ => rw [skipFrom]; simp
  | case8 s bracket outer rest found ih =>
    refine ((settled_skipSpace found).byNext.trans (ih h)).imp ?_
    intro a v taken
    obtain ⟨b, closing, later⟩ := taken
    rw [skipFrom_opened closing, if_pos rfl]
    exact later
  | case10 s bracket outer b rest found noClosing u hname ih =>
    -- The first octet of the part is not taken by the name, so it stays in the chain.
    refine ((settledByNext_skipSpace found).trans
      ((settledByNext_skipName hname).trans (ih h))).imp ?_
    intro a v taken
    obtain ⟨c, ⟨first, hc⟩, d, name, later⟩ := taken
    obtain ⟨more, rfl⟩ := List.head?_eq_some_iff.mp hc
    rw [skipFrom_opened first, if_neg noClosing, name]
    exact later
  | case12 s bracket outer rest found ih =>
    refine ((settled_skipSpace found).byNext.trans (ih h)).imp ?_
    intro a v taken
    obtain ⟨b, closing, later⟩ := taken
    rw [skipFrom_closed closing, if_pos rfl]
    exact later
  | case14 s bracket outer rest u hname found noClosing ih =>
    refine ((settled_skipSpace found).byNext.trans
      ((settledByNext_skipName hname).trans (ih h))).imp ?_
    intro a v taken
    obtain ⟨b, comma, c, name, later⟩ := taken
    rw [skipFrom_closed comma, if_neg noClosing, if_pos rfl, name]
    exact later

end ChatGateway.Json
