import ChatGateway.Proofs.Json.Written
import Mathlib.Logic.Relation

/-!
# How far a reader looks

A reader takes some octets from the front of a document and leaves the rest. What it takes does
not depend on the rest: put behind the same octets, any other rest is left as well. A numeral
ends at the first octet that cannot belong to it, so for a reader that may end with one the
other rest has to start with the same octet.
-/

namespace ChatGateway.Json

/-- The step from `s` to `t` depends on the octets before `t` only. -/
def Settled (step : Bytes → Bytes → Prop) (s t : Bytes) : Prop :=
  ∃ front, s = front ++ t ∧ ∀ rest, step (front ++ rest) rest

/-- The step from `s` to `t` depends on the octets before `t` and on the first one of `t` only. -/
def SettledByNext (step : Bytes → Bytes → Prop) (s t : Bytes) : Prop :=
  ∃ front, s = front ++ t ∧ ∀ rest, rest.head? = t.head? → step (front ++ rest) rest

/-- Lists with the same first element have the same first element behind other ones. -/
theorem head?_append_congr (front : Bytes) {s t : Bytes} (h : s.head? = t.head?) :
    (front ++ s).head? = (front ++ t).head? := by
  cases front with
  | nil => exact h
  | cons b front => rfl

section Chains

variable {step next : Bytes → Bytes → Prop} {s t u : Bytes}

/-- A settled step is a settled one of any weaker kind. -/
theorem Settled.imp {other : Bytes → Bytes → Prop} (h : Settled step s t)
    (himp : ∀ a b, step a b → other a b) : Settled other s t := by
  obtain ⟨front, hs, hfront⟩ := h
  exact ⟨front, hs, fun rest => himp _ _ (hfront rest)⟩

/-- A step that is settled by the next octet is so for any weaker kind. -/
theorem SettledByNext.imp {other : Bytes → Bytes → Prop} (h : SettledByNext step s t)
    (himp : ∀ a b, step a b → other a b) : SettledByNext other s t := by
  obtain ⟨front, hs, hfront⟩ := h
  exact ⟨front, hs, fun rest hrest => himp _ _ (hfront rest hrest)⟩

/-- A settled step is settled by the next octet all the more. -/
theorem Settled.byNext (h : Settled step s t) : SettledByNext step s t := by
  obtain ⟨front, hs, hfront⟩ := h
  exact ⟨front, hs, fun rest _ => hfront rest⟩

/-- A step that takes an octet and is settled behind it is settled. -/
theorem Settled.cons {b : UInt8} (h : Settled (fun s t => step (b :: s) t) s t) :
    Settled step (b :: s) t := by
  obtain ⟨front, rfl, hfront⟩ := h
  exact ⟨b :: front, rfl, hfront⟩

/-- A step that takes an octet and is settled by the next octet behind it is settled by the next octet.
-/
theorem SettledByNext.cons {b : UInt8} (h : SettledByNext (fun s t => step (b :: s) t) s t) :
    SettledByNext step (b :: s) t := by
  obtain ⟨front, rfl, hfront⟩ := h
  exact ⟨b :: front, rfl, hfront⟩

/-- A step that takes nothing is settled if it takes nothing from any other rest. -/
theorem Settled.refl (h : ∀ rest, step rest rest) : Settled step s s := ⟨[], rfl, h⟩

/-- A step that takes nothing is settled by the next octet if it takes nothing from any rest with that
octet. -/
theorem SettledByNext.refl (h : ∀ rest, rest.head? = s.head? → step rest rest) :
    SettledByNext step s s := ⟨[], rfl, h⟩

/-- Two settled steps make one. -/
theorem Settled.trans (h : Settled step s t) (hnext : Settled next t u) :
    Settled (Relation.Comp step next) s u := by
  obtain ⟨front, rfl, hfront⟩ := h
  obtain ⟨later, rfl, hlater⟩ := hnext
  refine ⟨front ++ later, (List.append_assoc front later u).symm, fun rest => ?_⟩
  rw [List.append_assoc]
  exact ⟨later ++ rest, hfront _, hlater rest⟩

/-- Two steps that are settled by the next octet make one. -/
theorem SettledByNext.trans (h : SettledByNext step s t) (hnext : SettledByNext next t u) :
    SettledByNext (Relation.Comp step next) s u := by
  obtain ⟨front, rfl, hfront⟩ := h
  obtain ⟨later, rfl, hlater⟩ := hnext
  refine ⟨front ++ later, (List.append_assoc front later u).symm, fun rest hrest => ?_⟩
  rw [List.append_assoc]
  exact ⟨later ++ rest, hfront _ (head?_append_congr later hrest), hlater rest hrest⟩

/-- A settled step that takes an octet settles what goes before it. -/
theorem SettledByNext.trans_settled (h : SettledByNext step s t) (hnext : Settled next t u)
    (shorter : u.length < t.length) : Settled (Relation.Comp step next) s u := by
  obtain ⟨front, rfl, hfront⟩ := h
  obtain ⟨later, rfl, hlater⟩ := hnext
  refine ⟨front ++ later, (List.append_assoc front later u).symm, fun rest => ?_⟩
  rw [List.append_assoc]
  refine ⟨later ++ rest, hfront _ ?_, hlater rest⟩
  cases later with
  | nil => exact absurd shorter (Nat.lt_irrefl _)
  | cons b later => rfl

end Chains

/-! ## Spaces and words -/

/-- Passing over spaces is settled by the first octet that is none, which is left. -/
theorem settledByNext_skipSpace {b : UInt8} {s t : Bytes} (h : skipSpace s = b :: t) :
    SettledByNext (fun s t => skipSpace s = t ∧ t.head? = some b) s (b :: t) := by
  induction s with
  | nil => contradiction
  | cons c s ih =>
    cases hc : isSpace c with
    | true =>
      apply SettledByNext.cons
      simp only [skipSpace, hc, if_true] at h ⊢
      exact ih h
    | false =>
      rw [skipSpace_of_isSpace hc] at h
      cases h
      refine SettledByNext.refl fun rest hrest => ?_
      obtain ⟨more, rfl⟩ := List.head?_eq_some_iff.mp hrest
      exact ⟨skipSpace_of_isSpace hc more, rfl⟩

/-- Passing over blanks is settled by the octet behind them. -/
theorem settled_skipSpace {b : UInt8} {s t : Bytes} (h : skipSpace s = b :: t) :
    Settled (fun s t => skipSpace s = b :: t) s t := by
  obtain ⟨front, rfl, hfront⟩ := settledByNext_skipSpace h
  refine ⟨front ++ [b], by simp, fun rest => ?_⟩
  rw [List.append_assoc]
  exact (hfront (b :: rest) rfl).1

/-- Expecting a word is settled. -/
theorem settled_expectWord {word s t : Bytes} (h : expectWord word s = .ok t) :
    Settled (fun s t => expectWord word s = .ok t) s t := by
  induction word generalizing s with
  | nil =>
    cases h
    exact Settled.refl fun rest => rfl
  | cons w word ih =>
    cases s with
    | nil => contradiction
    | cons b s =>
      simp only [expectWord] at h
      split at h
      · rename_i hb
        apply Settled.cons
        simp only [expectWord, hb, if_true]
        exact ih h
      · contradiction

/-! ## Texts -/

/-- Reading four hexadecimal digits is settled. -/
theorem settled_hexQuad {s t : Bytes} {n : Nat} (h : hexQuad s = .ok (n, t)) :
    Settled (fun s t => hexQuad s = .ok (n, t)) s t := by
  unfold hexQuad at h
  split at h
  · rename_i a b c d rest
    split at h
    · rename_i ha hb hc hd
      cases h
      exact ⟨[a, b, c, d], rfl, fun rest => by simp [hexQuad, ha, hb, hc, hd]⟩
    · contradiction
  · contradiction

/-- Reading the second half of a pair is settled. -/
theorem settled_secondEscape {high : Nat} {s o t : Bytes} (h : secondEscape high s = .ok (o, t)) :
    Settled (fun s t => secondEscape high s = .ok (o, t)) s t := by
  unfold secondEscape at h
  split at h
  · contradiction
  rename_i b rest
  split at h
  · contradiction
  rename_i hb
  split at h
  · contradiction
  rename_i c rest
  split at h
  · contradiction
  rename_i hc
  split at h
  · contradiction
  rename_i low u hquad
  split at h
  · contradiction
  rename_i range
  simp only [Except.ok.injEq, Prod.mk.injEq] at h
  obtain ⟨rfl, rfl⟩ := h
  refine Settled.cons (Settled.cons ((settled_hexQuad hquad).imp fun a v quad => ?_))
  simp only [secondEscape, hb, hc, quad, range, if_false]
  rfl

/-- Reading an escape is settled. -/
theorem settled_escaped {s o t : Bytes} (h : escaped s = .ok (o, t)) :
    Settled (fun s t => escaped s = .ok (o, t)) s t := by
  unfold escaped at h
  split at h
  · contradiction
  rename_i b rest
  split at h
  · rename_i octet hb
    cases h
    refine Settled.cons (Settled.refl fun rest => ?_)
    simp only [escaped, hb]
  rename_i hb
  split at h
  · contradiction
  rename_i hu
  split at h
  · contradiction
  rename_i n u hquad
  split at h
  · contradiction
  rename_i single
  split at h
  · rename_i whole
    cases h
    refine Settled.cons ((settled_hexQuad hquad).imp fun a v quad => ?_)
    simp only [escaped, hb, hu, quad, single, whole, if_true, if_false]
    rfl
  · rename_i half
    refine Settled.cons (((settled_hexQuad hquad).trans (settled_secondEscape h)).imp ?_)
    intro a v taken
    obtain ⟨w, quad, second⟩ := taken
    simp only [escaped, hb, hu, quad, single, half, if_false]
    exact second

/-- Reading the octets of a text up to its mark is settled. -/
theorem settled_textOctets {s seen o t : Bytes} (h : textOctets s seen = .ok (o, t)) :
    Settled (fun s t => textOctets s seen = .ok (o, t)) s t := by
  fun_induction textOctets s seen with
  | case1 | case3 | case5 => contradiction
  | case2 seen rest =>
    cases h
    refine Settled.cons (Settled.refl fun rest => ?_)
    rw [textOctets]
    exact if_pos rfl
  | case4 seen rest octets rest' he _ ih =>
    refine Settled.cons (((settled_escaped he).trans (ih h)).imp ?_)
    intro a v taken
    obtain ⟨w, first, later⟩ := taken
    exact (textOctets_escaped first).trans later
  | case6 seen b rest hq he hc ih =>
    exact Settled.cons ((ih h).imp fun a v later => (textOctets_plain hq he hc a seen).trans later)

/-- Reading a text behind its mark is settled. -/
theorem settled_textAfterMark {s t : Bytes} {text : String} (h : textAfterMark s = .ok (text, t)) :
    Settled (fun s t => textAfterMark s = .ok (text, t)) s t := by
  unfold textAfterMark at h
  split at h
  · contradiction
  · rename_i octets rest read
    split at h
    · rename_i text formed
      cases h
      exact (settled_textOctets read).imp fun a b again => by
        simp only [textAfterMark, again, formed]
    · contradiction

/-- Passing over an escape is settled. -/
theorem settled_skipEscaped {s t : Bytes} (h : skipEscaped s = .ok t) :
    Settled (fun s t => skipEscaped s = .ok t) s t := by
  unfold skipEscaped at h
  split at h
  · contradiction
  rename_i b rest
  split at h
  · rename_i hb
    cases h
    refine Settled.cons (Settled.refl fun rest => ?_)
    simp only [skipEscaped, hb, if_true]
  rename_i hb
  split at h
  · contradiction
  rename_i hu
  split at h
  · contradiction
  rename_i hquad
  cases h
  refine Settled.cons ((settled_hexQuad hquad).imp fun a v quad => ?_)
  simp only [skipEscaped, hb, hu, quad, if_false]
  rfl

/-- An escaped octet is passed over with its mark. -/
theorem skipText_escaped {tail rest : Bytes} (h : skipEscaped tail = .ok rest) :
    skipText (escapeMark :: tail) = skipText rest := by
  rw [skipText]
  simp only [show escapeMark ≠ quoteMark by decide, if_false, if_true]
  split
  · simp_all
  · rename_i again
    rw [h] at again
    cases again
    rfl

/-- An octet that is no mark and no control character is passed over alone. -/
theorem skipText_plain {b : UInt8} (hq : b ≠ quoteMark) (he : b ≠ escapeMark) (hc : ¬ b < 0x20)
    (rest : Bytes) : skipText (b :: rest) = skipText rest := by
  rw [skipText]
  simp only [hq, he, hc, if_false]

/-- Passing over a text is settled. -/
theorem settled_skipText {s t : Bytes} (h : skipText s = .ok t) :
    Settled (fun s t => skipText s = .ok t) s t := by
  fun_induction skipText s with
  | case1 | case3 | case5 => contradiction
  | case2 rest =>
    cases h
    refine Settled.cons (Settled.refl fun rest => ?_)
    rw [skipText]
    exact if_pos rfl
  | case4 rest rest' he _ ih =>
    refine Settled.cons (((settled_skipEscaped he).trans (ih h)).imp ?_)
    intro a v taken
    obtain ⟨w, first, later⟩ := taken
    exact (skipText_escaped first).trans later
  | case6 b rest hq he hc ih =>
    exact Settled.cons ((ih h).imp fun a v later => (skipText_plain hq he hc a).trans later)

end ChatGateway.Json
