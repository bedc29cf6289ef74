import ChatGateway.Text.Blank
import Mathlib.Data.List.TakeWhile

/-!
# Trimming

What trimming leaves of a text is the one part of it that has no blank end and only blanks around.
Letters are no blanks in either case, so trimming and lowering do not meet.
-/

namespace ChatGateway.Text

/-- Blanks in front are dropped with those that follow. -/
theorem dropWhile_append_of_blank {before rest : List Char} (h : ∀ c ∈ before, isBlank c) :
    (before ++ rest).dropWhile isBlank = rest.dropWhile isBlank := by
  induction before with
  | nil => rfl
  | cons c before ih =>
    rw [List.forall_mem_cons] at h
    rw [List.cons_append, List.dropWhile_cons_of_pos h.1]
    exact ih h.2

/-- Nothing is dropped from a text that does not start with a blank. -/
theorem dropWhile_of_head {chars : List Char} (h : ∀ c ∈ chars.head?, isBlank c = false) :
    chars.dropWhile isBlank = chars := by
  cases chars with
  | nil => rfl
  | cons c rest => exact List.dropWhile_cons_of_neg (by simpa using h c rfl)

/-- Trimming leaves the part without blank ends that has only blanks around it. -/
theorem trimChars_eq_iff {chars core : List Char} :
    trimChars chars = core ↔ Trimmed core ∧ ∃ before after : List Char,
      (∀ c ∈ before, isBlank c) ∧ (∀ c ∈ after, isBlank c) ∧ chars = before ++ core ++ after := by
  constructor
  · rintro rfl
    exact ⟨trimmed_of_trim chars, exists_blanks_trim chars⟩
  · rintro ⟨⟨front, back⟩, before, after, hbefore, hafter, rfl⟩
    have reversed : ∀ c ∈ after.reverse, isBlank c := fun c hc => hafter c (List.mem_reverse.mp hc)
    cases core with
    | nil =>
      have blank : (before ++ [] ++ after).dropWhile isBlank = [] := by
        rw [List.append_nil, dropWhile_append_of_blank hbefore, List.dropWhile_eq_nil_iff]
        exact hafter
      rw [trimChars, blank]
      rfl
    | cons c rest =>
      have kept : (before ++ (c :: rest) ++ after).dropWhile isBlank = (c :: rest) ++ after := by
        rw [List.append_assoc, dropWhile_append_of_blank hbefore]
        exact dropWhile_of_head front
      have last : ∀ d ∈ (c :: rest).reverse.head?, isBlank d = false := by
        rwa [List.head?_reverse]
      rw [trimChars, kept, List.reverse_append, dropWhile_append_of_blank reversed,
        dropWhile_of_head last, List.reverse_reverse]

/-- Trimming does not see the blanks around a text. -/
theorem trimChars_between {before core after : List Char} (blank : ∀ c ∈ before ++ after, isBlank c) :
    trimChars (before ++ core ++ after) = trimChars core := by
  rw [List.forall_mem_append] at blank
  obtain ⟨inner, outer, hinner, houter, parts⟩ := exists_blanks_trim core
  refine trimChars_eq_iff.mpr ⟨trimmed_of_trim core, before ++ inner, outer ++ after, ?_, ?_, ?_⟩
  · exact List.forall_mem_append.mpr ⟨blank.1, hinner⟩
  · exact List.forall_mem_append.mpr ⟨houter, blank.2⟩
  · calc before ++ core ++ after
      _ = before ++ (inner ++ trimChars core ++ outer) ++ after :=
        congrArg (before ++ · ++ after) parts
      _ = before ++ inner ++ trimChars core ++ (outer ++ after) := by simp only [List.append_assoc]

/-- The code points with the `White_Space` property: the first and the last of each run of them. -/
def whiteSpace : List (Nat × Nat) :=
  [(0x0009, 0x000D), (0x0020, 0x0020), (0x0085, 0x0085), (0x00A0, 0x00A0), (0x1680, 0x1680),
    (0x2000, 0x200A), (0x2028, 0x2029), (0x202F, 0x202F), (0x205F, 0x205F), (0x3000, 0x3000)]

/-- The blanks are the characters with these code points. -/
theorem isBlank_iff {c : Char} :
    isBlank c = true ↔ ∃ run ∈ whiteSpace, run.1 ≤ c.toNat ∧ c.toNat ≤ run.2 := by
  have same (d : Char) : c = d ↔ c.toNat = d.toNat := Char.toNat_inj.symm
  have least (d : Char) : d ≤ c ↔ d.toNat ≤ c.toNat := UInt32.le_iff_toNat_le
  have most (d : Char) : c ≤ d ↔ c.toNat ≤ d.toNat := UInt32.le_iff_toNat_le
  simp only [isBlank, Bool.or_eq_true, Bool.and_eq_true, decide_eq_true_eq, beq_iff_eq, same, least,
    most, whiteSpace, List.mem_cons, List.not_mem_nil, or_false, exists_eq_or_imp,
    exists_eq_left,
    Char.reduceToNat]
  omega

/-- No blank stands among the visible characters of the basic range, up to its last letter. -/
theorem toNat_of_isBlank {c : Char} (h : isBlank c = true) : c.toNat ≤ 32 ∨ 122 < c.toNat := by
  obtain ⟨run, listed, least, most⟩ := isBlank_iff.mp h
  simp only [whiteSpace, List.mem_cons, List.not_mem_nil, or_false] at listed
  rcases listed with rfl | rfl | rfl | rfl | rfl | rfl | rfl | rfl | rfl | rfl
  all_goals omega

/-- A letter is no blank, in neither case. -/
theorem isBlank_toLower (c : Char) : isBlank c.toLower = isBlank c := by
  by_cases upper : 'A'.val ≤ c.val ∧ c.val ≤ 'Z'.val
  · have lower : c.toLower = ⟨c.val + ('a'.val - 'A'.val), _⟩ := dif_pos upper
    rw [lower]
    have low : 65 ≤ c.toNat := UInt32.le_iff_toNat_le.mp upper.1
    have high : c.toNat ≤ 90 := UInt32.le_iff_toNat_le.mp upper.2
    have solid : ∀ d : Char, 65 ≤ d.toNat → d.toNat ≤ 122 → isBlank d = false := by
      intro d _ _
      rw [Bool.eq_false_iff]
      intro blank
      have := toNat_of_isBlank blank
      omega
    have lowered : (c.val + ('a'.val - 'A'.val)).toNat = c.toNat + 32 := by
      rw [UInt32.toNat_add]
      show (c.toNat + 32) % 4294967296 = c.toNat + 32
      omega
    rw [solid c low (by omega), solid]
    · show 65 ≤ (c.val + ('a'.val - 'A'.val)).toNat
      omega
    · show (c.val + ('a'.val - 'A'.val)).toNat ≤ 122
      omega
  · have same : c.toLower = c := dif_neg upper
    rw [same]

/-- Trimming comes to the same before and after lowering. -/
theorem trimmed_map_toLower {chars : List Char} : Trimmed (chars.map Char.toLower) ↔ Trimmed chars := by
  simp only [Trimmed, List.head?_map, List.getLast?_map, Option.mem_def, Option.map_eq_some_iff,
    forall_exists_index, and_imp, forall_apply_eq_imp_iff₂, isBlank_toLower]

end ChatGateway.Text
