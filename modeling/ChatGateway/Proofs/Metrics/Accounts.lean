import ChatGateway.Metrics.Registry
import ChatGateway.Responder
import Mathlib.Algebra.GroupWithZero.Nat
import Mathlib.Data.List.Nodup

/-!
# Accounts of a responder

Each call of a responder is recorded twice: its duration under the name of the responder, and its
outcome under the name and a label. A registry accounts for the calls of one responder if both
agree with them. Recording one more call keeps the account, so it holds after any number of calls.
-/

namespace ChatGateway.Metrics

namespace Tally

variable {κ : Type} [DecidableEq κ]

/-- How often keys were seen that a test admits. -/
def total (test : κ → Bool) (tally : Tally κ) : Nat :=
  ((tally.entries.filter fun entry => test entry.1).map Prod.snd).sum

/-- No key has two counts, and no count is zero. -/
structure Proper (tally : Tally κ) : Prop where
  distinct : (tally.entries.map Prod.fst).Nodup
  seen : ∀ entry ∈ tally.entries, 0 < entry.2

/-- Raising a count keeps the keys, and adds the key if it is new. -/
theorem map_fst_bump (key : κ) (entries : List (κ × Nat)) :
    (bump key entries).map Prod.fst =
      if key ∈ entries.map Prod.fst then entries.map Prod.fst else entries.map Prod.fst ++ [key] := by
  induction entries with
  | nil => rfl
  | cons entry rest ih =>
    obtain ⟨k, n⟩ := entry
    by_cases hk : k = key
    · simp [bump, hk]
    · rw [bump, if_neg hk, List.map_cons, ih]
      by_cases among : key ∈ rest.map Prod.fst
      · simp [among]
      · simp [among, Ne.symm hk]

/-- Raising a count leaves no count at zero. -/
theorem pos_of_mem_bump {key : κ} {entries : List (κ × Nat)} (h : ∀ entry ∈ entries, 0 < entry.2) :
    ∀ entry ∈ bump key entries, 0 < entry.2 := by
  induction entries with
  | nil => simp [bump]
  | cons entry rest ih =>
    obtain ⟨k, n⟩ := entry
    rw [List.forall_mem_cons] at h
    by_cases hk : k = key
    · rw [bump, if_pos hk, List.forall_mem_cons]
      exact ⟨Nat.succ_pos n, h.2⟩
    · rw [bump, if_neg hk, List.forall_mem_cons]
      exact ⟨h.1, ih h.2⟩

/-- Seeing a key keeps a tally proper. -/
theorem Proper.add {tally : Tally κ} (h : tally.Proper) (key : κ) : (tally.add key).Proper := by
  refine ⟨?_, pos_of_mem_bump h.seen⟩
  rw [Tally.add, map_fst_bump]
  split
  · exact h.distinct
  · rename_i new
    apply h.distinct.append (List.nodup_singleton key)
    simpa using new

/-- Raising a count raises the total of those that pass the test if its key passes. -/
theorem total_bump (test : κ → Bool) (key : κ) (entries : List (κ × Nat)) :
    total test ⟨bump key entries⟩ = total test ⟨entries⟩ + if test key then 1 else 0 := by
  induction entries with
  | nil => cases h : test key <;> simp [total, bump, h]
  | cons entry rest ih =>
    obtain ⟨k, n⟩ := entry
    by_cases hk : k = key
    · subst hk
      cases h : test k
      · simp [total, bump, h]
      · simp only [total, bump, if_true, List.filter_cons_of_pos, h, List.map_cons, List.sum_cons]
        omega
    · simp only [total] at ih
      cases h : test k <;> simp [total, bump, hk, h, ih]
      omega

/-- Seeing a key raises the totals of the tests that admit it. -/
theorem total_add (test : κ → Bool) (tally : Tally κ) (key : κ) :
    (tally.add key).total test = tally.total test + if test key then 1 else 0 :=
  total_bump test key tally.entries

/-- The count of a key is the one it is entered with. -/
theorem lookup_eq_of_mem {key : κ} {n : Nat} {entries : List (κ × Nat)}
    (distinct : (entries.map Prod.fst).Nodup) (h : (key, n) ∈ entries) : lookup key entries = n := by
  induction entries with
  | nil => contradiction
  | cons entry rest ih =>
    obtain ⟨k, m⟩ := entry
    rw [List.map_cons, List.nodup_cons] at distinct
    rcases List.mem_cons.mp h with same | later
    · cases same
      simp [lookup]
    · have other : k ≠ key := by
        rintro rfl
        exact distinct.1 (List.mem_map.mpr ⟨_, later, rfl⟩)
      rw [lookup, if_neg other]
      exact ih distinct.2 later

/-- A key with a count is entered with it. -/
theorem mem_of_lookup_pos {key : κ} {entries : List (κ × Nat)} (h : 0 < lookup key entries) :
    (key, lookup key entries) ∈ entries := by
  induction entries with
  | nil => contradiction
  | cons entry rest ih =>
    obtain ⟨k, n⟩ := entry
    rw [lookup] at h ⊢
    split at h
    · rename_i same
      simp [same]
    · rename_i other
      rw [if_neg other]
      exact List.mem_cons_of_mem _ (ih h)

/-- A proper tally lists each key that was seen with its count. -/
theorem Proper.mem_entries_iff {tally : Tally κ} (h : tally.Proper) (key : κ) (n : Nat) :
    (key, n) ∈ tally.entries ↔ tally.count key = n ∧ 0 < n := by
  constructor
  · exact fun listed => ⟨lookup_eq_of_mem h.distinct listed, h.seen _ listed⟩
  · rintro ⟨rfl, seen⟩
    exact mem_of_lookup_pos seen

/-- Seeing keys one after the other raises each count by the number of times its key is seen. -/
theorem count_foldl_add (keys : List κ) (tally : Tally κ) (key : κ) :
    (keys.foldl add tally).count key = tally.count key + keys.count key := by
  induction keys generalizing tally with
  | nil => rfl
  | cons first rest ih =>
    rw [List.foldl_cons, ih, count_add, List.count_cons, Nat.add_assoc]
    simp only [beq_iff_eq]
    omega

/-- The keys of a tally. -/
def keys (tally : Tally κ) : List κ := tally.entries.map Prod.fst

/-- Seeing keys adds them and keeps those that were seen before. -/
theorem mem_keys_foldl_add (seen : List κ) (tally : Tally κ) (key : κ) :
    key ∈ (seen.foldl add tally).keys ↔ key ∈ tally.keys ∨ key ∈ seen := by
  induction seen generalizing tally with
  | nil => simp
  | cons first rest ih =>
    have one : key ∈ (tally.add first).keys ↔ key ∈ tally.keys ∨ key = first := by
      simp only [keys, add, map_fst_bump]
      split
      · rename_i old
        refine ⟨.inl, Or.rec id ?_⟩
        rintro rfl
        exact old
      · simp
    rw [List.foldl_cons, ih, one, List.mem_cons, or_assoc]

end Tally

/-- The label of what a call of a responder gave. -/
def outcomeLabel : Except ResponderFault String → String
  | .ok _ => "ok"
  | .error fault => fault.kind

/-- All labels. -/
def outcomeLabels : List String :=
  ["ok", "network", "upstream", "invalid_response", "not_configured"]

/-- The label of a result is one of the two. -/
theorem outcomeLabel_mem (result : Except ResponderFault String) :
    outcomeLabel result ∈ outcomeLabels := by
  rcases result with fault | answer
  · cases fault <;> simp [outcomeLabel, outcomeLabels, ResponderFault.kind]
  · simp [outcomeLabel, outcomeLabels]

namespace Registry

/-- One more call of a responder. -/
def record (registry : Registry) (name : String) (result : Except ResponderFault String)
    (seconds : Float) : Registry where
  predictions := registry.predictions.add ⟨name, outcomeLabel result⟩
  latencies := observeFor name seconds registry.latencies

/-- How many outcomes of a responder were counted, whatever their labels. -/
def outcomesOf (registry : Registry) (responder : String) : Nat :=
  registry.predictions.total fun prediction => prediction.responder = responder

/-- The registry holds what these calls of a responder gave, and nothing else. -/
structure Accounts (name : String) (results : List (Except ResponderFault String))
    (registry : Registry) : Prop where
  proper : registry.predictions.Proper
  named : ∀ entry ∈ registry.predictions.entries,
    entry.1.responder = name ∧ entry.1.outcome ∈ outcomeLabels
  counted : ∀ label, registry.predictions.count ⟨name, label⟩ = (results.map outcomeLabel).count label
  balanced : ∀ responder, registry.outcomesOf responder = observedFor responder registry.latencies
  timed : (results = [] ∧ registry.latencies = []) ∨ ∃ durations : Durations,
    registry.latencies = [(name, durations)] ∧ durations.count = results.length ∧ results ≠ []

variable {name : String} {results : List (Except ResponderFault String)} {registry : Registry}

/-- An empty registry accounts for nothing. -/
theorem accounts_empty (name : String) : Accounts name [] {} := by
  constructor <;> simp [Tally.count, Tally.lookup, outcomesOf, Tally.total, observedFor]
  constructor <;> simp

/-- Recording a call keeps the account. -/
theorem Accounts.record (h : Accounts name results registry) (result : Except ResponderFault String)
    (seconds : Float) :
    Accounts name (results ++ [result]) (registry.record name result seconds) := by
  have proper : (registry.record name result seconds).predictions.Proper := h.proper.add _
  refine ⟨proper, ?_, ?_, ?_, ?_⟩
  · rintro ⟨key, n⟩ listed
    obtain ⟨rfl, seen⟩ := (proper.mem_entries_iff key n).mp listed
    by_cases now : (⟨name, outcomeLabel result⟩ : Prediction) = key
    · subst now
      exact ⟨rfl, outcomeLabel_mem result⟩
    · simp only [Registry.record, Tally.count_add, if_neg now, Nat.add_zero] at seen
      exact h.named (key, registry.predictions.count key)
        ((h.proper.mem_entries_iff key _).mpr ⟨rfl, seen⟩)
  · intro label
    simp [Registry.record, h.counted, List.count_append, List.count_singleton]
  · intro responder
    have balanced := h.balanced responder
    simp only [outcomesOf] at balanced
    simp only [outcomesOf, Registry.record, Tally.total_add, observedFor_observeFor, balanced,
      decide_eq_true_eq]
  · right
    rcases h.timed with ⟨rfl, untimed⟩ | ⟨durations, timed, observed, _⟩
    · exact ⟨_, by rw [Registry.record, untimed, observeFor], rfl, by simp⟩
    · refine ⟨durations.observe seconds, ?_, ?_, by simp⟩
      · rw [Registry.record, timed, observeFor, if_pos rfl]
      · simp [Durations.observe, observed]

/-- As many durations as calls were observed for the responder, and none for others. -/
theorem Accounts.observedFor (h : Accounts name results registry) (responder : String) :
    Metrics.observedFor responder registry.latencies =
      if name = responder then results.length else 0 := by
  rcases h.timed with ⟨rfl, untimed⟩ | ⟨durations, timed, observed, _⟩
  · simp [untimed, Metrics.observedFor]
  · simp [timed, Metrics.observedFor, observed]

/-- The entries of an account are those of the labels that were seen. -/
theorem Accounts.entries_perm (h : Accounts name results registry) :
    registry.predictions.entries.Perm
      ((outcomeLabels.filter fun label => 0 < registry.predictions.count ⟨name, label⟩).map
        fun label => (⟨name, label⟩, registry.predictions.count ⟨name, label⟩)) := by
  have labels : outcomeLabels.Nodup := by decide
  have injective : Function.Injective fun label =>
      ((⟨name, label⟩ : Prediction), registry.predictions.count ⟨name, label⟩) := fun a b same => by
    simpa using congrArg (fun entry => entry.1.outcome) same
  rw [List.perm_ext_iff_of_nodup (List.Nodup.of_map _ h.proper.distinct)
    ((labels.filter _).map injective)]
  rintro ⟨⟨responder, label⟩, n⟩
  rw [h.proper.mem_entries_iff, List.mem_map]
  constructor
  · rintro ⟨rfl, seen⟩
    obtain ⟨rfl, known⟩ := h.named _ ((h.proper.mem_entries_iff _ _).mpr ⟨rfl, seen⟩)
    exact ⟨label, List.mem_filter.mpr ⟨known, decide_eq_true seen⟩, rfl⟩
  · rintro ⟨other, seen, same⟩
    cases same
    exact ⟨rfl, of_decide_eq_true (List.mem_filter.mp seen).2⟩

end Registry

end ChatGateway.Metrics
