import ChatGateway.Proofs.Files.Change

/-!
# Trees that differ at one place

If two trees agree off a place, names that do not lead through that place are followed alike in
both, and directories are made alike along them; what is at the place stays there. The places at
which something is made are those to which a first part of the names leads.
-/

namespace ChatGateway.Files

/-- No first part of the names, nor all of them, leads to the place. -/
def Bypasses (place origin : Place) (names : List String) : Prop :=
  ∀ front, front <+: names → front.foldl enter origin ≠ place

/-- Two trees hold the same everywhere, but for the place. -/
def AgreeOff (place : Place) (tree other : Tree) : Prop :=
  ∀ elsewhere, elsewhere ≠ place → other.lookup elsewhere = tree.lookup elsewhere

variable {place origin goal : Place} {tree other : Tree} {name : String} {names before : List String}

namespace Bypasses

/-- A way that starts with another one bypasses what that one bypasses. -/
theorem initial (h : Bypasses place origin names) (first : before <+: names) :
    Bypasses place origin before :=
  fun front shorter => h front (shorter.trans first)

/-- Behind its first name a way still bypasses the place. -/
theorem tail (h : Bypasses place origin (name :: names)) : Bypasses place (enter origin name) names :=
  fun front first => h (name :: front) (List.cons_prefix_cons.mpr ⟨rfl, first⟩)

/-- Parts that take no step may be left out. -/
theorem filter (h : Bypasses place origin names) :
    Bypasses place origin (names.filter fun name => name ≠ "" && name ≠ ".") := by
  induction names generalizing origin with
  | nil => exact h
  | cons name names ih =>
    by_cases kept : (name ≠ "" && name ≠ ".") = true
    · rw [List.filter_cons, if_pos kept]
      intro front first
      cases front with
      | nil => exact h [] List.nil_prefix
      | cons head front =>
        obtain ⟨rfl, shorter⟩ := List.cons_prefix_cons.mp first
        exact ih h.tail front shorter
    · have idle : enter origin name = origin := by
        have names : name = "" ∨ name = "." := by
          simpa [Classical.or_iff_not_imp_left] using kept
        rcases names with rfl | rfl <;> rfl
      rw [List.filter_cons, if_neg kept]
      exact ih (idle ▸ h.tail)

end Bypasses

/-- A way that can be followed leads past all that is no directory, but for its end. -/
theorem bypasses_of_walk (h : walk tree origin (names ++ [name]) = .ok goal)
    (noDirectory : tree.lookup place ≠ some .directory) : Bypasses place origin names :=
  fun _ first here => noDirectory (here ▸ directory_of_walk h first)

namespace AgreeOff

/-- Trees that hold the same at the place too hold the same everywhere. -/
theorem lookup_eq (agree : AgreeOff place tree other) (here : other.lookup place = tree.lookup place) :
    other.lookup = tree.lookup := by
  funext elsewhere
  by_cases same : elsewhere = place
  · rw [same, here]
  · exact agree elsewhere same

/-- Trees that agree off a place do so after the same thing is put into both. -/
theorem put (agree : AgreeOff place tree other) (here : Place) (entry : Entry) :
    AgreeOff place (tree.put here entry) (other.put here entry) := by
  intro elsewhere apart
  by_cases same : elsewhere = here
  · subst same
    by_cases root : elsewhere = []
    · subst root
      rfl
    · rw [Tree.lookup_put_self _ _ root, Tree.lookup_put_self _ _ root]
  · rw [Tree.lookup_put_of_ne _ _ same, Tree.lookup_put_of_ne _ _ same, agree elsewhere apart]

/-- Trees that agree off a place do so after the same place is erased in both. -/
theorem erase (agree : AgreeOff place tree other) (here : Place) :
    AgreeOff place (tree.erase here) (other.erase here) := by
  intro elsewhere apart
  by_cases same : elsewhere = here
  · subst same
    by_cases root : elsewhere = []
    · subst root
      rfl
    · rw [Tree.lookup_erase_self _ root, Tree.lookup_erase_self _ root]
  · rw [Tree.lookup_erase_of_ne _ same, Tree.lookup_erase_of_ne _ same, agree elsewhere apart]

/-- A name is followed alike from where the trees agree. -/
theorem step (agree : AgreeOff place tree other) (apart : origin ≠ place) (name : String) :
    Files.step other origin name = Files.step tree origin name := by
  simp only [Files.step, agree origin apart]

/-- Names are followed alike, also if the last one leads to the place. -/
theorem walk_concat (agree : AgreeOff place tree other) (bypasses : Bypasses place origin names)
    (name : String) :
    walk other origin (names ++ [name]) = walk tree origin (names ++ [name]) := by
  induction names generalizing origin with
  | nil =>
    have here : origin ≠ place := bypasses [] List.nil_prefix
    simp only [List.nil_append, Files.walk, agree.step here]
  | cons first names ih =>
    have here : origin ≠ place := bypasses [] List.nil_prefix
    simp only [List.cons_append, Files.walk, agree.step here]
    split
    · rfl
    · rename_i next entered
      rw [← (step_eq_ok_iff.mp entered).2.2]
      exact ih bypasses.tail

/-- A way past the place is the same in trees that agree off it. -/
theorem walk (agree : AgreeOff place tree other) (bypasses : Bypasses place origin names) :
    Files.walk other origin names = Files.walk tree origin names := by
  rcases List.eq_nil_or_concat names with rfl | ⟨front, last, rfl⟩
  · rfl
  · rw [List.concat_eq_append] at bypasses ⊢
    exact agree.walk_concat (bypasses.initial (List.prefix_append _ _)) last

end AgreeOff

/-- Names are followed alike in trees that hold the same everywhere. -/
theorem walk_congr (same : other.lookup = tree.lookup) (origin : Place) (names : List String) :
    walk other origin names = walk tree origin names := by
  induction names generalizing origin with
  | nil => rfl
  | cons name names ih => simp only [walk, step, same, ih]

/-- What is done to two trees that agree off a place has the same result, and they agree again. -/
structure Alike {α : Type} (place : Place) (first second : α × Tree) : Prop where
  result : second.1 = first.1
  agree : AgreeOff place first.2 second.2

namespace Volume

/-- One directory is made alike, or cannot be made for the same reason. -/
theorem makeDirectory_alike (agree : AgreeOff place tree other)
    (bypasses : Bypasses place origin names) :
    (∃ fault, makeDirectory tree origin names = .error fault ∧
      makeDirectory other origin names = .error fault) ∨
    ∃ made made', makeDirectory tree origin names = .ok made ∧
      makeDirectory other origin names = .ok made' ∧ AgreeOff place made made' := by
  simp only [makeDirectory, agree.walk bypasses]
  cases followed : walk tree origin names with
  | error fault => exact .inl ⟨fault, rfl, rfl⟩
  | ok goal =>
    have apart : goal ≠ place := foldl_enter_of_walk followed ▸ bypasses names List.prefix_rfl
    simp only [agree goal apart]
    cases tree.lookup goal with
    | some entry => exact .inl ⟨.alreadyExists, rfl, rfl⟩
    | none => exact .inr ⟨_, _, rfl, rfl, agree.put goal .directory⟩

/-- Whether a way past the place leads to a directory is the same in trees that agree off it. -/
theorem leadsToDirectory_congr (agree : AgreeOff place tree other)
    (bypasses : Bypasses place origin names) :
    leadsToDirectory other origin names = leadsToDirectory tree origin names := by
  simp only [leadsToDirectory, agree.walk bypasses]
  cases followed : walk tree origin names with
  | error fault => rfl
  | ok goal =>
    have apart : goal ≠ place := foldl_enter_of_walk followed ▸ bypasses names List.prefix_rfl
    simp only [agree goal apart]

/-- A directory is ensured alike in trees that agree off a place past which the way leads. -/
theorem ensureDirectory_alike (agree : AgreeOff place tree other)
    (bypasses : Bypasses place origin names) :
    Alike place (ensureDirectory tree origin names) (ensureDirectory other origin names) := by
  unfold ensureDirectory
  rcases makeDirectory_alike agree bypasses with ⟨fault, first, second⟩ | ⟨made, made', first, second, again⟩
  · simp only [first, second, leadsToDirectory_congr agree bypasses]
    exact ⟨rfl, agree⟩
  · simp only [first, second]
    exact ⟨rfl, again⟩

/-- One directory after another is made alike. -/
theorem makeReversed_alike {reversed : List String} (agree : AgreeOff place tree other)
    (bypasses : Bypasses place origin reversed.reverse) :
    Alike place (makeReversed tree origin reversed) (makeReversed other origin reversed) := by
  induction reversed with
  | nil => exact ⟨rfl, agree⟩
  | cons name before ih =>
    have earlier := ih (bypasses.initial (by simp))
    unfold makeReversed
    rcases makeDirectory_alike agree bypasses with
      ⟨fault, first, second⟩ | ⟨made, made', first, second, again⟩
    · simp only [first, second]
      split
      · rcases hfirst : makeReversed tree origin before with ⟨result, later⟩
        rcases hsecond : makeReversed other origin before with ⟨result', later'⟩
        rw [hfirst, hsecond] at earlier
        obtain ⟨rfl, again⟩ := earlier
        cases result' with
        | error fault => exact ⟨rfl, again⟩
        | ok => exact ensureDirectory_alike again bypasses
      · exact ensureDirectory_alike agree bypasses
    · simp only [first, second]
      exact ⟨rfl, again⟩

/-- What is at a place that is bypassed stays as it is. -/
theorem lookup_makeDirectory {made : Tree} (bypasses : Bypasses place origin names)
    (h : makeDirectory tree origin names = .ok made) : made.lookup place = tree.lookup place := by
  unfold makeDirectory at h
  split at h
  · contradiction
  · rename_i goal followed
    have apart : goal ≠ place := foldl_enter_of_walk followed ▸ bypasses names List.prefix_rfl
    split at h
    · contradiction
    · cases h
      exact tree.lookup_put_of_ne _ apart.symm

/-- What is at a place that is bypassed stays there when a directory is ensured. -/
theorem lookup_ensureDirectory (tree : Tree) (bypasses : Bypasses place origin names) :
    (ensureDirectory tree origin names).2.lookup place = tree.lookup place := by
  unfold ensureDirectory
  split
  · rename_i made
    exact lookup_makeDirectory bypasses made
  · rfl

/-- What is at a place that is bypassed stays there when one directory after another is made. -/
theorem lookup_makeReversed (tree : Tree) {reversed : List String}
    (bypasses : Bypasses place origin reversed.reverse) :
    (makeReversed tree origin reversed).2.lookup place = tree.lookup place := by
  induction reversed with
  | nil => rfl
  | cons name before ih =>
    have earlier := ih (bypasses.initial (by simp))
    unfold makeReversed
    simp only
    split
    · rename_i made
      exact lookup_makeDirectory bypasses made
    · split
      · rcases stopped : makeReversed tree origin before with ⟨_ | _, later⟩
        · rw [stopped] at earlier
          exact earlier
        · rw [stopped] at earlier
          exact (lookup_ensureDirectory later bypasses).trans earlier
      · exact lookup_ensureDirectory tree bypasses

section Enclose

variable {volume changed : Volume} {path : String}

/-- Where a path starts depends on the current directory alone. -/
theorem start_congr (current : changed.current = volume.current) (path : String) :
    changed.start path = volume.start path := by
  rw [start, start, current]

/-- A path that bypasses the place leads to the same place, or fails alike. -/
theorem locate_alike (current : changed.current = volume.current)
    (agree : AgreeOff place volume.tree changed.tree)
    (bypasses : Bypasses place (volume.start path) (parts path)) :
    changed.locate path = volume.locate path := by
  simp only [locate, start_congr current, agree.walk bypasses]

/-- The directories around a path that bypasses the place are made alike. -/
theorem enclose_alike (current : changed.current = volume.current)
    (agree : AgreeOff place volume.tree changed.tree)
    (bypasses : Bypasses place (volume.start path) (parentNames path)) :
    (changed.enclose path).1 = (volume.enclose path).1 ∧
      AgreeOff place (volume.enclose path).2.tree (changed.enclose path).2.tree := by
  rw [← List.reverse_reverse (parentNames path)] at bypasses
  have alike := makeReversed_alike agree bypasses
  unfold enclose
  simp only [start_congr current]
  split
  · exact ⟨rfl, agree⟩
  · split
    · exact ⟨rfl, agree⟩
    · exact ⟨congrArg (Except.mapError FileFault.os) alike.result, alike.agree⟩

/-- Making the directories around a path changes nothing at a place that is bypassed. -/
theorem lookup_enclose (volume : Volume)
    (bypasses : Bypasses place (volume.start path) (parentNames path)) :
    (volume.enclose path).2.tree.lookup place = volume.tree.lookup place := by
  rw [← List.reverse_reverse (parentNames path)] at bypasses
  unfold enclose
  simp only
  split
  · rfl
  · split
    · rfl
    · exact lookup_makeReversed volume.tree bypasses

end Enclose

/-- In volumes that hold the same everywhere, a file is moved alike or cannot be moved for the same
reason. -/
theorem rename_alike {volume changed : Volume} (current : changed.current = volume.current)
    (same : changed.tree.lookup = volume.tree.lookup) (source target : String) (place : Place) :
    (∃ fault, volume.rename source target = .error fault ∧
      changed.rename source target = .error fault) ∨
    ∃ moved moved', volume.rename source target = .ok moved ∧
      changed.rename source target = .ok moved' ∧ moved'.current = moved.current ∧
      AgreeOff place moved.tree moved'.tree := by
  have located (path : String) : changed.locate path = volume.locate path := by
    simp only [locate, start_congr current, walk_congr same]
  have agree : AgreeOff place volume.tree changed.tree := fun elsewhere _ => congrFun same elsewhere
  simp only [rename, located, same]
  cases volume.locate source with
  | error fault => exact .inl ⟨fault, rfl, rfl⟩
  | ok origin =>
    cases volume.locate target with
    | error fault => exact .inl ⟨fault, rfl, rfl⟩
    | ok goal =>
      simp only
      split
      · exact .inl ⟨_, rfl, rfl⟩
      · split
        · exact .inl ⟨_, rfl, rfl⟩
        · exact .inl ⟨_, rfl, rfl⟩
        · exact .inl ⟨_, rfl, rfl⟩
        · exact .inr ⟨_, _, rfl, rfl, current, (agree.erase origin).put goal _⟩

end Volume

end ChatGateway.Files
