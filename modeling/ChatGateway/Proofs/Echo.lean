import ChatGateway.Echo
import ChatGateway.Proofs.Text.Trimming

/-!
# What an echo tells of its question

A reply depends on what is left of the question without the blanks at its ends, and nothing of that is
lost: it can be read from the reply. So two questions have the same reply exactly if the same is left of
them. The fallback is the reply to blank questions, of which nothing is left, and no question is echoed
as the fallback.
-/

namespace ChatGateway

namespace Text

/-- This is left of a text without the blanks at its ends. -/
structure IsCore (text core : String) : Prop where
  trimmed : Trimmed core.toList
  between : ∃ before after : List Char, (∀ c ∈ before, isBlank c) ∧ (∀ c ∈ after, isBlank c) ∧
    text.toList = before ++ core.toList ++ after

variable {text core : String}

/-- A text has exactly one core, which is what trimming leaves of it. -/
theorem isCore_iff : IsCore text core ↔ trim text = core := by
  rw [← String.toList_inj, trim, String.toList_ofList, trimChars_eq_iff]
  exact ⟨fun h => ⟨h.trimmed, h.between⟩, fun h => ⟨h.1, h.2⟩⟩

/-- What trimming leaves of a text is its core. -/
theorem isCore_trim (text : String) : IsCore text (trim text) := isCore_iff.mpr rfl

/-- Nothing is left of blank texts, and of no others. -/
theorem trim_eq_empty_iff : trim text = "" ↔ ∀ c ∈ text.toList, isBlank c := by
  rw [← isCore_iff]
  constructor
  · intro h
    obtain ⟨before, after, hbefore, hafter, parts⟩ := h.between
    rw [parts, String.toList_empty, List.append_nil, List.forall_mem_append]
    exact ⟨hbefore, hafter⟩
  · intro blank
    exact ⟨by simp [Trimmed], text.toList, [], blank, by simp, by simp⟩

/-- The blanks that are put around a text do not matter. -/
theorem trim_between {before after : String} (hbefore : ∀ c ∈ before.toList, isBlank c)
    (hafter : ∀ c ∈ after.toList, isBlank c) : trim (before ++ text ++ after) = trim text := by
  have blank : ∀ c ∈ before.toList ++ after.toList, isBlank c :=
    List.forall_mem_append.mpr ⟨hbefore, hafter⟩
  rw [trim, trim, String.toList_append, String.toList_append, trimChars_between blank]

/-- The text begins and ends with a character that is not blank. -/
def HasSolidEnds (text : String) : Prop :=
  ∃ first last, text.toList.head? = some first ∧ text.toList.getLast? = some last ∧
    isBlank first = false ∧ isBlank last = false

/-- A core that is not empty has no blanks at its ends. -/
theorem IsCore.hasSolidEnds (h : IsCore text core) (left : core ≠ "") : HasSolidEnds core := by
  have chars : core.toList ≠ [] := by simpa using left
  have first := List.head?_eq_some_head chars
  have last := List.getLast?_eq_some_getLast chars
  exact ⟨_, _, first, last, h.trimmed.1 _ first, h.trimmed.2 _ last⟩

end Text

namespace Echo

/-- What a reply repeats, if it repeats anything. -/
def echoed? (reply : String) : Option String :=
  if preamble.toList.isPrefixOf reply.toList then
    some (String.ofList (reply.toList.drop preamble.toList.length))
  else none

/-- The question is read back from the reply to it. -/
theorem echoed?_preamble_append (text : String) : echoed? (preamble ++ text) = some text := by
  have ahead : preamble.toList.isPrefixOf (preamble.toList ++ text.toList) = true :=
    List.isPrefixOf_iff_prefix.mpr (List.prefix_append _ _)
  rw [echoed?, String.toList_append, if_pos ahead, List.drop_left, String.ofList_toList]

/-- The fallback repeats nothing. -/
theorem echoed?_fallback : echoed? fallback = none := by decide

/-- No reply to a question is the fallback. -/
theorem preamble_append_ne_fallback (text : String) : preamble ++ text ≠ fallback := by
  intro same
  have repeated := echoed?_preamble_append text
  rw [same, echoed?_fallback] at repeated
  contradiction

variable {question core : String}

/-- A blank question gets the fallback. -/
theorem reply_of_blank (h : Text.trim question = "") : reply question = fallback := by
  rw [reply, h]
  rfl

/-- What is left of a question stands in its reply. -/
theorem reply_of_core (h : Text.trim question = core) (left : core ≠ "") :
    reply question = preamble ++ core := by
  have some : core.isEmpty = false := by simpa using left
  simp only [reply, h, some, Bool.false_eq_true, if_false]

/-- What is left of a question is read from its reply. -/
theorem echoed?_reply (question : String) :
    (echoed? (reply question)).getD "" = Text.trim question := by
  by_cases left : Text.trim question = ""
  · rw [reply_of_blank left, echoed?_fallback, left]
    rfl
  · rw [reply_of_core rfl left, echoed?_preamble_append]
    rfl

/-- Questions get the same reply exactly if they are the same but for blanks around them. -/
theorem reply_eq_reply_iff {a b : String} : reply a = reply b ↔ Text.trim a = Text.trim b := by
  constructor
  · intro same
    rw [← echoed?_reply a, same, echoed?_reply b]
  · intro same
    rw [reply, reply, same]

/-- The fallback is the reply exactly to blank questions. -/
theorem reply_eq_fallback_iff : reply question = fallback ↔ ∀ c ∈ question.toList, Text.isBlank c := by
  rw [← Text.trim_eq_empty_iff]
  refine ⟨fun same => ?_, reply_of_blank⟩
  rw [← echoed?_reply question, same, echoed?_fallback]
  rfl

/-- Replies tell questions apart up to the blanks at their ends. -/
structure TellsQuestions : Prop where
  same (a b : String) : reply a = reply b ↔ ∃ core, Text.IsCore a core ∧ Text.IsCore b core
  padded (before question after : String) : (∀ c ∈ before.toList, Text.isBlank c) →
    (∀ c ∈ after.toList, Text.isBlank c) → reply (before ++ question ++ after) = reply question
  fallback (question : String) : reply question = fallback ↔ ∀ c ∈ question.toList, Text.isBlank c
  /-- Nothing is echoed as the fallback, -/
  echo (text : String) : preamble ++ text ≠ Echo.fallback
  /-- and any other reply repeats what is left of its question. -/
  recovered (question : String) : reply question ≠ Echo.fallback →
    ∃ core, echoed? (reply question) = some core ∧ Text.IsCore question core ∧ Text.HasSolidEnds core
  /-- The blanks are the characters with the `White_Space` property. -/
  blank (c : Char) : Text.isBlank c = true ↔
    ∃ run ∈ Text.whiteSpace, run.1 ≤ c.toNat ∧ c.toNat ≤ run.2

/-- Replies tell questions apart exactly up to the blanks at their ends. -/
theorem replies_tell_questions : TellsQuestions := by
  constructor
  case same =>
    intro a b
    rw [reply_eq_reply_iff]
    constructor
    · intro same
      exact ⟨Text.trim a, Text.isCore_trim a, Text.isCore_iff.mpr same.symm⟩
    · rintro ⟨core, hfirst, hsecond⟩
      rw [Text.isCore_iff.mp hfirst, Text.isCore_iff.mp hsecond]
  case padded =>
    intro before question after hbefore hafter
    exact reply_eq_reply_iff.mpr (Text.trim_between hbefore hafter)
  case fallback => exact fun question => reply_eq_fallback_iff
  case echo => exact preamble_append_ne_fallback
  case recovered =>
    intro question other
    have core := Text.isCore_trim question
    have left : Text.trim question ≠ "" := fun none => other (reply_of_blank none)
    rw [reply_of_core rfl left, echoed?_preamble_append]
    exact ⟨_, rfl, core, core.hasSolidEnds left⟩
  case blank => exact fun c => Text.isBlank_iff

end Echo

end ChatGateway
