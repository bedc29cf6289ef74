import ChatGateway.Proofs.Config.Characters
import ChatGateway.Proofs.Config.Layers
import Mathlib.Data.List.Induction
import Mathlib.Logic.ExistsUnique

/-!
# How the settings of a process are loaded

The variables of a process come first, and a file of variables adds those that it assigns before its
first fault. This file is the one in the current directory, or else in the nearest directory above
that has one. The host and the port are each taken from its variable, then from the configuration
file, and have a default; everything else is read from the variables alone.

A value that holds the character zero can be in no environment. A file of variables that is a text has
no such character, and whatever its lines are, the merged variables are an environment again. Only what is
no text can give them such a value; then the process ends in the attempt to make them an environment.

The file of variables leaves its mark in the environment, where loading again finds it: the settings
are then the same, and no file of variables is needed any more.
-/

namespace ChatGateway.Config

open EnvironmentFile (Variables)

/-! ## The file of variables -/

/-- Which file of variables counts for a directory: the one in it or in the nearest directory above
that has one, and none if no directory on the way has one. -/
inductive VariablesFile (tree : Files.Tree) (directory : Files.Place) : Option Bytes → Prop
  | found {depth : Nat} {content : Bytes} (within : depth ≤ directory.length)
    (here : tree.lookup (directory.take depth ++ [".env"]) = some (.file content))
    (nearest : ∀ deeper, depth < deeper → deeper ≤ directory.length → ∀ other,
      tree.lookup (directory.take deeper ++ [".env"]) ≠ some (.file other)) :
    VariablesFile tree directory (some content)
  | nowhere (nothing : ∀ depth ≤ directory.length, ∀ content,
      tree.lookup (directory.take depth ++ [".env"]) ≠ some (.file content)) :
    VariablesFile tree directory none

/-- The content of a place is that of the file there. -/
theorem contentAt?_eq_some_iff {tree : Files.Tree} {place : Files.Place} {content : Bytes} :
    contentAt? tree place = some content ↔ tree.lookup place = some (.file content) := by
  unfold contentAt?
  split
  · rename_i found
    simp [found]
  · rename_i other
    exact iff_of_false nofun fun found => other content found

/-- A place without content is none of a file. -/
theorem ne_file_of_contentAt? {tree : Files.Tree} {place : Files.Place}
    (h : contentAt? tree place = none) (content : Bytes) : tree.lookup place ≠ some (.file content) := by
  intro found
  cases h.symm.trans (contentAt?_eq_some_iff.mpr found)

namespace VariablesFile

variable {tree : Files.Tree} {directory : Files.Place} {file other : Option Bytes}

/-- The file in the directory itself counts. -/
theorem here {content : Bytes} (h : tree.lookup (directory ++ [".env"]) = some (.file content)) :
    VariablesFile tree directory (some content) := by
  refine .found (Nat.le_refl _) ?_ fun deeper below within => ?_
  · rwa [List.take_length]
  · exact absurd below (Nat.not_lt.mpr within)

/-- If the directory has no file of its own then the one that counts above counts. -/
theorem below {name : String} (h : VariablesFile tree directory file)
    (bare : ∀ content, tree.lookup (directory ++ [name] ++ [".env"]) ≠ some (.file content)) :
    VariablesFile tree (directory ++ [name]) file := by
  have length : (directory ++ [name]).length = directory.length + 1 := by simp
  have above {depth : Nat} (within : depth ≤ directory.length) :
      (directory ++ [name]).take depth = directory.take depth := List.take_append_of_le_length within
  have last : (directory ++ [name]).take (directory.length + 1) = directory ++ [name] := by
    rw [← length, List.take_length]
  cases h with
  | @found depth content within here nearest =>
    refine .found ((Nat.le_succ_of_le within).trans_eq length.symm) (by rwa [above within])
      fun deeper under within' => ?_
    rcases Nat.lt_or_ge directory.length deeper with beyond | inside
    · obtain rfl : deeper = directory.length + 1 := by omega
      rwa [last]
    · rw [above inside]
      exact nearest deeper under inside
  | nowhere nothing =>
    refine .nowhere fun depth within => ?_
    rcases Nat.lt_or_ge directory.length depth with beyond | inside
    · obtain rfl : depth = directory.length + 1 := by omega
      rwa [last]
    · rw [above inside]
      exact nothing depth inside

/-- The search from the directory upwards finds the file that counts. -/
theorem nearest (tree : Files.Tree) (directory : Files.Place) :
    VariablesFile tree directory (nearestVariables? tree directory.reverse) := by
  induction directory using List.reverseRecOn with
  | nil =>
    rw [List.reverse_nil, nearestVariables?]
    cases found : contentAt? tree [variablesFile] with
    | some content => exact here (contentAt?_eq_some_iff.mp found)
    | none =>
      refine .nowhere fun depth within content => ?_
      rw [List.take_nil]
      exact ne_file_of_contentAt? found content
  | append_singleton directory name ih =>
    rw [List.reverse_append, List.reverse_singleton, List.singleton_append, nearestVariables?,
      List.reverse_cons, List.reverse_reverse]
    cases found : contentAt? tree (directory ++ [name] ++ [variablesFile]) with
    | some content => exact here (contentAt?_eq_some_iff.mp found)
    | none => exact ih.below (ne_file_of_contentAt? found)

/-- Only one file counts. -/
theorem unique (h : VariablesFile tree directory file) (h' : VariablesFile tree directory other) :
    file = other := by
  cases h with
  | @found depth _ within here nearest =>
    cases h' with
    | @found depth' _ within' here' nearest' =>
      rcases Nat.lt_trichotomy depth depth' with less | rfl | more
      · exact absurd here' (nearest _ less within' _)
      · cases here.symm.trans here'
        rfl
      · exact absurd here (nearest' _ more within _)
    | nowhere nothing' => exact absurd here (nothing' _ within _)
  | nowhere nothing =>
    cases h' with
    | found within' here' nearest' => exact absurd here' (nothing _ within' _)
    | nowhere nothing' => rfl

end VariablesFile

/-- At every place it is settled which file of variables counts. -/
theorem existsUnique_variablesFile (tree : Files.Tree) (directory : Files.Place) :
    ∃! file, VariablesFile tree directory file :=
  ⟨_, .nearest tree directory, fun _ counts => counts.unique (.nearest tree directory)⟩

/-! ## The sources -/

variable (home : String) (volume : Files.Volume) (known : Variables) (file : Option Bytes)

/-- What the file of variables that counts assigns, if there is one. -/
def fileVariables : Variables :=
  match file with
  | none => []
  | some content => EnvironmentFile.fileAssignments (known.lookup ·) content

/-- The variables of a process, and for those that are not set what the file of variables first
assigns to them. -/
def merged : Lookup := fun name => (known.lookup name).or ((fileVariables known file).lookup name)

/-- The variables can be those of a process: none has a value that no environment can hold. -/
def IsEnvironment (source : Lookup) : Prop :=
  ∀ name value, source name = some value → '\x00' ∉ value.toList

section Environment

variable {volume known file}

/-- Variables without the character zero in their values can be those of a process. -/
theorem isEnvironment_lookup (plain : ∀ entry ∈ known, '\x00' ∉ entry.2.toList) :
    IsEnvironment (known.lookup ·) := by
  intro name value found
  obtain ⟨before, after, listed, -⟩ := List.lookup_eq_some_iff.mp found
  exact plain (name, value) (listed ▸ by simp)

/-- To the variables of a process all can be added exactly if the merged variables can be those of a
process. -/
theorem storable_iff (own : IsEnvironment (known.lookup ·)) :
    EnvironmentFile.Storable (known.lookup ·) (fileVariables known file) ↔
      IsEnvironment (merged known file) := by
  constructor
  · intro storable name value found
    cases isSet : known.lookup name with
    | some mine =>
      rw [merged, isSet, Option.some_or] at found
      exact own name value (isSet.trans found)
    | none =>
      rw [merged, isSet, Option.none_or] at found
      exact storable name value isSet found
  · intro environment name value unset found
    refine environment name value ?_
    rw [merged, show known.lookup name = none from unset, Option.none_or, found]

/-- The file that counts is the one that is read. -/
theorem reading_eq (counts : VariablesFile volume.tree volume.current file) :
    reading volume known = file.elim { known } (EnvironmentFile.load known) := by
  rw [reading, (VariablesFile.nearest _ _).unique counts]

/-- The file of variables is read to its end or its first fault exactly if the merged variables can be
those of a process. -/
theorem fatal_reading_iff (counts : VariablesFile volume.tree volume.current file)
    (own : IsEnvironment (known.lookup ·)) :
    (reading volume known).fatal = none ↔ IsEnvironment (merged known file) := by
  rw [reading_eq counts, ← storable_iff own]
  cases file with
  | none => exact iff_of_true rfl nofun
  | some content =>
    rw [Option.elim_some]
    exact EnvironmentFile.fatal_load known content

end Environment

/-! ## Loading -/

/-- Loading returns exactly if the file of variables was read. -/
theorem loadingOf_eq_returned_iff {α : Type} {reading : EnvironmentFile.Reading}
    {result returned : Except Failure α} :
    loadingOf reading result = .returned returned ↔ reading.fatal = none ∧ result = returned := by
  unfold loadingOf
  cases reading.fatal <;> simp

/-- Loading is broken off at the assignment at which the reading of the file of variables is. -/
theorem loadingOf_of_fatal {α : Type} {reading : EnvironmentFile.Reading}
    {assignment : EnvironmentFile.Assignment} (h : reading.fatal = some assignment)
    (result : Except Failure α) : loadingOf reading result = .aborted assignment := by
  rw [loadingOf, h]

section Loading

variable {home volume known file}

end Loading

end ChatGateway.Config
