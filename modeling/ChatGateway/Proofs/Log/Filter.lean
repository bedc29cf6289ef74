import ChatGateway.Log.Filter
import Mathlib.Data.List.Pairwise
import Mathlib.Data.Prod.Lex

/-!
# Which directive decides

The directives of a filter are kept in order, the most specific one first, whatever order they are
written in. So the first directive that is about an event is at least as specific as every other one
about it, and its level decides. An event is logged as well as any less important one beside it.

A filter that is read strictly is also read leniently, as the same filter and without a remark.
-/

namespace ChatGateway.LogFilter

namespace Directive

variable {first second third : Directive}

/-- A directive is at least as specific as another one. -/
def Outranks (first second : Directive) : Prop := toLex second.weight ≤ toLex first.weight

/-- What is at least as specific as another is so as all that the other is. -/
theorem Outranks.trans (h : first.Outranks second) (h' : second.Outranks third) :
    first.Outranks third :=
  le_trans h' h

/-- One of two directives is at least as specific as the other one. -/
theorem outranks_of_not (h : ¬ first.Outranks second) : second.Outranks first :=
  le_of_lt (lt_of_not_ge h)

/-- The comparison by which a directive gets its place asks whether the other one is less specific. -/
theorem lighter_iff : (first.weight.1 < second.weight.1 ||
      (first.weight.1 = second.weight.1 && first.weight.2 < second.weight.2)) = true ↔
    ¬ first.Outranks second := by
  simp only [Outranks, Prod.Lex.toLex_le_toLex, Bool.or_eq_true, Bool.and_eq_true, decide_eq_true_eq]
  omega

end Directive

variable {directive : Directive} {directives : List Directive}

/-- Putting a directive in its place adds it and nothing else. -/
theorem mem_place {other : Directive} :
    other ∈ place directive directives ↔ other = directive ∨ other ∈ directives := by
  induction directives with
  | nil => simp [place]
  | cons first rest ih =>
    simp only [place]
    split
    · simp
    · simp only [List.mem_cons, ih]
      exact or_left_comm

/-- The directives stay in order when another one gets its place. -/
theorem pairwise_place (ordered : directives.Pairwise Directive.Outranks) :
    (place directive directives).Pairwise Directive.Outranks := by
  induction directives with
  | nil => exact List.pairwise_singleton _ _
  | cons first rest ih =>
    obtain ⟨below, later⟩ := List.pairwise_cons.mp ordered
    simp only [place]
    split
    · rename_i lighter
      have outranked := Directive.outranks_of_not (Directive.lighter_iff.mp lighter)
      refine List.pairwise_cons.mpr ⟨fun other member => ?_, ordered⟩
      rcases List.mem_cons.mp member with rfl | behind
      · exact outranked
      · exact outranked.trans (below other behind)
    · rename_i notLighter
      have outranked := Classical.not_not.mp (mt Directive.lighter_iff.mpr notLighter)
      refine List.pairwise_cons.mpr ⟨fun other member => ?_, ih later⟩
      rcases mem_place.mp member with rfl | behind
      · exact outranked
      · exact below other behind

/-- They stay in order when one takes the place of those about the same events. -/
theorem pairwise_add (ordered : directives.Pairwise Directive.Outranks) :
    (add directives directive).Pairwise Directive.Outranks :=
  pairwise_place (ordered.filter _)

/-- The directives of a filter are in order, however they are written. -/
theorem pairwise_ofDirectives (directives : List Directive) :
    (ofDirectives directives).directives.Pairwise Directive.Outranks := by
  have folded (rest : List Directive) : ∀ before : List Directive, before.Pairwise Directive.Outranks →
      (rest.foldl add before).Pairwise Directive.Outranks := by
    induction rest with
    | nil => exact fun _ ordered => ordered
    | cons first rest ih => exact fun before ordered => ih _ (pairwise_add ordered)
  simp only [ofDirectives]
  split
  · exact List.pairwise_singleton _ _
  · exact folded _ [] .nil

/-- A directive decides about an event: it is about it, and no less specific than any other one that
is. -/
structure Decides (filter : LogFilter) (event : LogEvent) (directive : Directive) : Prop where
  listed : directive ∈ filter.directives
  about : directive.isAbout event = true
  foremost : ∀ other ∈ filter.directives, other.isAbout event = true → directive.Outranks other

/-- An event is logged exactly if a directive is about it and the one that decides allows its level. -/
theorem allows_cases (directives : List Directive) (event : LogEvent) :
    ((∀ other ∈ (ofDirectives directives).directives, other.isAbout event = false) ∧
        (ofDirectives directives).allows event = false) ∨
      ∃ directive, Decides (ofDirectives directives) event directive ∧
        ((ofDirectives directives).allows event = true ↔
          event.level.verbosity ≤ directive.verbosity) := by
  have ordered := pairwise_ofDirectives directives
  cases found : (ofDirectives directives).directives.find? (·.isAbout event) with
  | none =>
    refine .inl ⟨fun other listed => ?_, by rw [allows, found]⟩
    exact Bool.eq_false_iff.mpr (List.find?_eq_none.mp found other listed)
  | some directive =>
    refine .inr ⟨directive, ?_, by rw [allows, found, decide_eq_true_eq]⟩
    obtain ⟨about, before, after, parts, others⟩ := List.find?_eq_some_iff_append.mp found
    refine ⟨by simp [parts], about, fun other listed otherAbout => ?_⟩
    rw [parts] at ordered listed
    rcases List.mem_append.mp listed with earlier | later
    · have silent := others other earlier
      rw [otherAbout] at silent
      contradiction
    · rcases List.mem_cons.mp later with rfl | behind
      · exact le_refl _
      · exact (List.pairwise_cons.mp (List.pairwise_append.mp ordered).2.1).1 other behind

/-- Beside an event that is logged every more important one is logged that says the same. -/
theorem allows_of_verbosity_le {filter : LogFilter} {event : LogEvent} (level : LogLevel)
    (important : level.verbosity ≤ event.level.verbosity) (h : filter.allows event = true) :
    filter.allows { event with level } = true := by
  have same : (fun directive : Directive => directive.isAbout { event with level }) =
      fun directive => directive.isAbout event := rfl
  unfold allows at h ⊢
  rw [same]
  cases found : filter.directives.find? (·.isAbout event) with
  | none => simp [found] at h
  | some directive =>
    rw [found] at h
    exact decide_eq_true (important.trans (of_decide_eq_true h))

/-! ## Strict and lenient reading -/

/-- Nothing is said of a part exactly if it is a directive. -/
theorem ignored_eq_none_iff {part : String} :
    ignored part = none ↔ ∃ directive, Directive.parse part = .ok directive := by
  unfold ignored
  cases Directive.parse part <;> simp

/-- What is said of a part is never empty. -/
theorem ignored_ne_empty (part : String) : ignored part ≠ some "" := by
  unfold ignored
  cases Directive.parse part <;> simp

/-- The directives of parts that all are right are those that are left when wrong ones are left out. -/
theorem mapM_parse_eq_some_iff {parts : List String} {directives : List Directive} :
    (parts.mapM fun part => (Directive.parse part).toOption) = some directives ↔
      (parts.filterMap fun part => (Directive.parse part).toOption) = directives ∧
        parts.filterMap ignored = [] := by
  induction parts generalizing directives with
  | nil => simp [eq_comm]
  | cons part rest ih =>
    rw [List.mapM_cons]
    cases read : Directive.parse part with
    | error fault => simp [Except.toOption, read, ignored]
    | ok directive =>
      have said : ignored part = none := ignored_eq_none_iff.mpr ⟨directive, read⟩
      simp only [read, Except.toOption, List.filterMap_cons, said, Option.bind_eq_bind, Option.bind_some,
        Option.bind_eq_some_iff, Option.pure_def, Option.some.injEq]
      constructor
      · rintro ⟨others, all, rfl⟩
        obtain ⟨rfl, silent⟩ := ih.mp all
        exact ⟨rfl, silent⟩
      · rintro ⟨rfl, silent⟩
        exact ⟨_, ih.mpr ⟨rfl, silent⟩, rfl⟩

/-- A filter is read strictly exactly if lenient reading has nothing to remark, and then it is the same
filter. -/
theorem parse?_eq_some_iff {text : String} {filter : LogFilter} :
    parse? text = some filter ↔ parseLenient text = (filter, "") := by
  have silent : String.join ((parts text).filterMap ignored) = "" ↔
      (parts text).filterMap ignored = [] := by
    rw [← String.toList_eq_nil_iff, String.toList_join, List.flatMap_eq_nil_iff,
      List.eq_nil_iff_forall_not_mem]
    refine forall_congr' fun remark => imp_congr_right fun member => ?_
    obtain ⟨part, -, said⟩ := List.mem_filterMap.mp member
    rw [String.toList_eq_nil_iff, iff_false]
    rintro rfl
    exact ignored_ne_empty part said
  rw [parse?, parseLenient, Prod.mk.injEq, silent, Option.map_eq_some_iff]
  simp only [mapM_parse_eq_some_iff]
  constructor
  · rintro ⟨_, ⟨rfl, none⟩, rfl⟩
    exact ⟨rfl, none⟩
  · rintro ⟨rfl, none⟩
    exact ⟨_, ⟨rfl, none⟩, rfl⟩

/-- A word for a level lets through what is not more verbose. -/
theorem allows_word {word : String} {verbosity : Nat} (known : (word, verbosity) ∈ words)
    (named : word ≠ "") (event : LogEvent) :
    (parseLenient word).1.allows event = decide (event.level.verbosity ≤ verbosity) := by
  have read : ∀ known ∈ words, known.1 ≠ "" →
      (parseLenient known.1).1 = ⟨[{ verbosity := known.2 }]⟩ := by decide
  rw [read _ known named, allows, List.find?_cons_of_pos]
  simp [Directive.isAbout]

end ChatGateway.LogFilter
