import ChatGateway.Config.EnvironmentFile

/-!
# What a file of variables adds

A file of variables assigns values up to its first fault. A variable that is set keeps its value,
and any other takes the first one that the file assigns to it; the reading breaks off exactly if one
of these cannot be taken. Which lines assign, and to what, does not depend on the variables that are
set; so a file that was loaded adds nothing when it is loaded again.
-/

namespace ChatGateway.EnvironmentFile

/-- The assignments of logical lines before the first fault, behind earlier ones. A reference to a
variable is to the value that it has, or to the first one that an earlier line assigns to it. -/
def assignments (known : Lookup) (earlier : Variables) : List (Option (List Char)) → Variables
  | [] => earlier
  | none :: _ => earlier
  | some line :: rest =>
    match readLine (fun name => (known name).or (earlier.lookup name)) line with
    | .fault => earlier
    | .nothing => assignments known earlier rest
    | .assigns name value => assignments known (earlier ++ [(name, value)]) rest

/-- Setting what is missing gives a variable its value unless it has one. -/
theorem lookup_setMissing (known : Variables) (name value other : String) :
    (setMissing known name value).lookup other =
      (known.lookup other).or ([(name, value)].lookup other) := by
  unfold setMissing
  split
  · rename_i isSet
    by_cases same : other = name
    · subst same
      rw [Option.or_of_isSome isSet]
    · simp [List.lookup_cons, beq_false_of_ne same]
  · exact List.lookup_append

/-- In the middle of a file the variables are those of the start with what was assigned since, and all
that was assigned is set. -/
structure Follows (start : Lookup) (earlier known assigned : Variables) : Prop where
  now : ∀ name, known.lookup name = (start name).or (earlier.lookup name)
  all : ∀ name, (assigned.lookup name).isSome → (known.lookup name).isSome

namespace Follows

variable {start : Lookup} {earlier known assigned : Variables}

/-- At the front of a file nothing was assigned. -/
theorem front (known : Variables) : Follows (known.lookup ·) [] known [] :=
  ⟨fun name => by simp, fun name => by simp⟩

/-- A reference is to what is set at the start or was assigned since. -/
theorem referred_eq (h : Follows start earlier known assigned) :
    referred known assigned = fun name => (start name).or (earlier.lookup name) := by
  funext name
  rw [referred, ← h.now name]
  cases found : known.lookup name with
  | some value => rfl
  | none =>
    cases reached : assigned.lookup name with
    | none => rfl
    | some value => simpa [reached, found] using h.all name

/-- One more assignment. -/
theorem assign (h : Follows start earlier known assigned) (name value : String) :
    Follows start (earlier ++ [(name, value)]) (setMissing known name value)
      ((name, value) :: assigned) where
  now other := by rw [lookup_setMissing, h.now other, List.lookup_append, Option.or_assoc]
  all other reached := by
    rw [lookup_setMissing, Option.isSome_or]
    rw [List.lookup_cons] at reached
    by_cases same : other = name
    · simp [same]
    · rw [beq_false_of_ne same] at reached
      rw [h.all other reached, Bool.true_or]

end Follows

/-- What was assigned stays in front of what is assigned later. -/
theorem prefix_assignments (known : Lookup) (earlier : Variables) (lines : List (Option (List Char))) :
    earlier <+: assignments known earlier lines := by
  induction lines generalizing earlier with
  | nil => exact List.prefix_refl earlier
  | cons line lines ih =>
    cases line with
    | none => exact List.prefix_refl earlier
    | some line =>
      unfold assignments
      split
      · exact List.prefix_refl earlier
      · exact ih earlier
      · exact (List.prefix_append _ _).trans (ih _)

/-- The first assignment to a variable is the one that counts. -/
theorem lookup_assignments_of_new (known : Lookup) {earlier : Variables} {name : String}
    (new : earlier.lookup name = none) (value : String) (lines : List (Option (List Char))) :
    (assignments known (earlier ++ [(name, value)]) lines).lookup name = some value := by
  obtain ⟨later, all⟩ := prefix_assignments known (earlier ++ [(name, value)]) lines
  rw [← all, List.lookup_append, List.lookup_append, new, List.lookup_cons_self]
  rfl

/-- No variable that is not set is assigned, at first, a value that it cannot be set to. -/
def Storable (start : Lookup) (assigned : Variables) : Prop :=
  ∀ name value, start name = none → assigned.lookup name = some value → '\x00' ∉ value.toList

/-- Nothing that was assigned so far is still to be set. -/
theorem Follows.storable {start : Lookup} {earlier known assigned : Variables}
    (h : Follows start earlier known assigned) : Storable (known.lookup ·) earlier := by
  intro name value unset found
  have now : none = (start name).or (some value) := found ▸ unset ▸ h.now name
  exact absurd (congrArg Option.isSome now) (by simp)

/-- Loading breaks off exactly if a variable that is not set is assigned a value that it cannot be set
to. -/
theorem Follows.fatal_loadLines {start : Lookup} {earlier known assigned : Variables}
    (h : Follows start earlier known assigned) (lines : List (Option (List Char))) :
    (loadLines known assigned lines).fatal = none ↔
      Storable (known.lookup ·) (assignments start earlier lines) := by
  induction lines generalizing known earlier assigned with
  | nil => exact iff_of_true rfl h.storable
  | cons line lines ih =>
    cases line with
    | none => exact iff_of_true rfl h.storable
    | some line =>
      simp only [loadLines, assignments, h.referred_eq]
      cases readLine (fun name => (start name).or (earlier.lookup name)) line with
      | fault => exact iff_of_true rfl h.storable
      | nothing => exact ih h
      | assigns target value =>
        simp only []
        have first (unset : known.lookup target = none) :
            (assignments start (earlier ++ [(target, value)]) lines).lookup target = some value :=
          lookup_assignments_of_new start (Option.or_eq_none_iff.mp ((h.now target).symm.trans unset)).2
            value lines
        split
        · rename_i refused
          simp only [Bool.and_eq_true, Option.isNone_iff_eq_none, isStorable, Bool.not_not,
            List.contains_iff_mem] at refused
          refine iff_of_false nofun fun storable => ?_
          exact storable target value refused.1 (first refused.1) refused.2
        · rename_i takes
          refine (ih (h.assign target value)).trans ?_
          have kept (name : String) : (setMissing known target value).lookup name = none ↔
              known.lookup name = none ∧ name ≠ target := by
            rw [lookup_setMissing, Option.or_eq_none_iff]
            refine and_congr_right fun _ => ?_
            by_cases same : name = target
            · simp [same]
            · simp [same, List.lookup_cons, beq_false_of_ne same]
          constructor
          · intro storable name other unset found
            by_cases same : name = target
            · subst same
              cases (first unset).symm.trans found
              simpa [unset, isStorable] using takes
            · exact storable name other ((kept name).mpr ⟨unset, same⟩) found
          · intro storable name other unset
            exact storable name other ((kept name).mp unset).1

/-- The assignments of a file before its first fault. -/
def fileAssignments (known : Lookup) (content : Bytes) : Variables :=
  assignments known [] (logicalLines .plain [] (physicalLines (readable content)))

/-- A file is read without breaking off exactly if all can be set that it sets. -/
theorem fatal_load (known : Variables) (content : Bytes) :
    (load known content).fatal = none ↔
      Storable (known.lookup ·) (fileAssignments (known.lookup ·) content) :=
  (Follows.front known).fatal_loadLines _

end ChatGateway.EnvironmentFile
