/-!
# Tallies

A tally counts how often each key was seen. Adding a key raises its own count by one and
no other.
-/

namespace ChatGateway.Metrics

/-- How often each key was seen; a key occurs at most once. -/
structure Tally (κ : Type) where
  entries : List (κ × Nat) := []

namespace Tally

variable {κ : Type} [DecidableEq κ]

/-- Raises the count of a key in a list of counts. -/
def bump (key : κ) : List (κ × Nat) → List (κ × Nat)
  | [] => [(key, 1)]
  | (k, n) :: rest => if k = key then (k, n + 1) :: rest else (k, n) :: bump key rest

/-- The count of a key in a list of counts. -/
def lookup (key : κ) : List (κ × Nat) → Nat
  | [] => 0
  | (k, n) :: rest => if k = key then n else lookup key rest

/-- Sees a key once more. -/
def add (tally : Tally κ) (key : κ) : Tally κ := ⟨bump key tally.entries⟩

/-- How often a key was seen. -/
def count (tally : Tally κ) (key : κ) : Nat := lookup key tally.entries

/-- One more counts for its own key and for no other. -/
theorem lookup_bump (key other : κ) (entries : List (κ × Nat)) :
    lookup other (bump key entries) = lookup other entries + if key = other then 1 else 0 := by
  induction entries with
  | nil => simp [bump, lookup]
  | cons entry rest ih =>
    obtain ⟨k, n⟩ := entry
    by_cases hk : k = key
    · subst hk
      by_cases ho : k = other <;> simp [bump, lookup, ho]
    · by_cases ho : k = other
      · subst ho
        simp [bump, lookup, hk, Ne.symm hk]
      · simp [bump, lookup, hk, ho, ih]

/-- Seeing a key raises its count by one and keeps all others. -/
@[simp]
theorem count_add (tally : Tally κ) (key other : κ) :
    (tally.add key).count other = tally.count other + if key = other then 1 else 0 :=
  lookup_bump key other tally.entries

end Tally

end ChatGateway.Metrics
