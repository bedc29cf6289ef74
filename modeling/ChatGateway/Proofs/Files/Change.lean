import ChatGateway.Proofs.Files.Walk

/-!
# What changes in a tree

In a tree that is rooted, a directory is around everything. Each operation on files keeps a tree
rooted: making directories adds directories and nothing else, and a file is put where a path
leads, beside other entries of a directory.
-/

namespace ChatGateway.Files

namespace Tree

/-- Around everything that is there is a directory. -/
def Rooted (tree : Tree) : Prop :=
  ∀ place name, tree.lookup (place ++ [name]) ≠ none → tree.lookup place = some .directory

/-- The directory that would be around a place is there. -/
def Encloses (tree : Tree) (place : Place) : Prop :=
  ∀ before name, before ++ [name] = place → tree.lookup before = some .directory

variable {tree : Tree} {place : Place} {entry : Entry}

/-- What is no directory is not at the root. -/
theorem ne_nil_of_noDirectory (noDirectory : tree.lookup place ≠ some .directory) : place ≠ [] := by
  rintro rfl
  exact noDirectory rfl

/-- What is put at a place last is there. -/
theorem put_put (tree : Tree) (place : Place) (first second : Entry) :
    (tree.put place first).put place second = tree.put place second := by
  simp [put, List.filter_filter]

/-- A rooted tree stays rooted when something comes into a directory where none is. -/
theorem Rooted.put (rooted : tree.Rooted) (encloses : tree.Encloses place)
    (free : tree.lookup place ≠ some .directory) : (tree.put place entry).Rooted := by
  intro before name found
  have apart : before ≠ place := by
    intro same
    subst same
    rw [lookup_put_of_ne tree entry (by simp)] at found
    exact free (rooted before name found)
  rw [lookup_put_of_ne tree entry apart]
  by_cases here : before ++ [name] = place
  · exact encloses before name here
  · rw [lookup_put_of_ne tree entry here] at found
    exact rooted before name found

/-- A rooted tree stays rooted without one of its files. -/
theorem Rooted.erase (rooted : tree.Rooted) (noDirectory : tree.lookup place ≠ some .directory) :
    (tree.erase place).Rooted := by
  intro before name found
  have elsewhere : before ++ [name] ≠ place := by
    intro here
    have notRoot : place ≠ [] := by simp [← here]
    rw [here, lookup_erase_self tree notRoot] at found
    contradiction
  rw [lookup_erase_of_ne tree elsewhere] at found
  have around := rooted before name found
  have apart : before ≠ place := fun same => noDirectory (same ▸ around)
  rw [lookup_erase_of_ne tree apart]
  exact around

/-- Of the entries that are kept by their places, what is at a place is found or left out as a whole. -/
theorem lookup_filter_eq_ite (keep : Place → Bool) (entries : List (Place × Entry)) (other : Place) :
    (entries.filter (keep ·.1)).lookup other = if keep other then entries.lookup other else none := by
  induction entries with
  | nil => simp
  | cons first rest ih =>
    obtain ⟨here, entry⟩ := first
    by_cases same : other = here
    · subst same
      cases kept : keep other <;> simp [kept, ih]
    · have apart : (other == here) = false := by simpa using same
      cases kept : keep here <;> simp [kept, ih, List.lookup_cons, apart]

/-- What is left of a tree is what is not below the place. -/
theorem lookup_prune (tree : Tree) (place : Place) {other : Place} (notRoot : other ≠ []) :
    (tree.prune place).lookup other = if place.isPrefixOf other then none else tree.lookup other := by
  have left := lookup_filter_eq_ite (fun found => !place.isPrefixOf found) tree.entries other
  simp only [lookup, prune, notRoot, if_false, left]
  cases place.isPrefixOf other <;> rfl

/-- A rooted tree stays rooted without all that is below a place. -/
theorem Rooted.prune (rooted : tree.Rooted) (place : Place) : (tree.prune place).Rooted := by
  intro before name found
  rw [lookup_prune tree place (by simp)] at found
  split at found
  · contradiction
  · rename_i outside
    have around := rooted before name found
    by_cases root : before = []
    · subst root
      rfl
    · have notBelow : ¬ place.isPrefixOf before := by
        intro below
        exact outside (List.isPrefixOf_iff_prefix.mpr
          ((List.isPrefixOf_iff_prefix.mp below).trans (List.prefix_append before [name])))
      rw [lookup_prune tree place root, if_neg notBelow]
      exact around

end Tree

/-- Directories that are kept twice are kept. -/
theorem KeepsDirectories.trans {tree later last : Tree} (first : KeepsDirectories tree later)
    (second : KeepsDirectories later last) : KeepsDirectories tree last :=
  fun place directory => second place (first place directory)

/-- Putting something where no directory is takes no directory away. -/
theorem keepsDirectories_put {tree : Tree} {place : Place} (entry : Entry)
    (noDirectory : tree.lookup place ≠ some .directory) :
    KeepsDirectories tree (tree.put place entry) := by
  intro other directory
  have apart : other ≠ place := fun same => noDirectory (same ▸ directory)
  rw [tree.lookup_put_of_ne entry apart, directory]

/-- Erasing what is no directory takes no directory away. -/
theorem keepsDirectories_erase {tree : Tree} {place : Place}
    (noDirectory : tree.lookup place ≠ some .directory) :
    KeepsDirectories tree (tree.erase place) := by
  intro other directory
  have apart : other ≠ place := fun same => noDirectory (same ▸ directory)
  rw [tree.lookup_erase_of_ne apart, directory]

variable {tree later last : Tree} {origin place : Place} {name : String} {names : List String}

/-- Where a path leads to what is no directory, the directory around it is there. -/
theorem encloses_of_walk (rooted : tree.Rooted) (h : walk tree origin (names ++ [name]) = .ok place)
    (noDirectory : tree.lookup place ≠ some .directory) : tree.Encloses place := by
  obtain ⟨inside, _, hstep⟩ := walk_concat_eq_ok_iff.mp h
  obtain ⟨directory, _, entered⟩ := step_eq_ok_iff.mp hstep
  unfold enter at entered
  split at entered
  · exact absurd (entered ▸ directory) noDirectory
  · split at entered
    · rcases List.eq_nil_or_concat inside with rfl | ⟨above, below, rfl⟩
      · exact absurd (entered ▸ directory) noDirectory
      · rw [List.concat_eq_append] at directory entered
        rw [List.dropLast_concat] at entered
        have around := rooted above below (by simp [directory])
        exact absurd (entered ▸ around) noDirectory
    · intro before other same
      rw [← entered] at same
      rw [(List.append_inj' same rfl).1]
      exact directory

/-- The second tree is the first one with more directories, and as rooted as that. -/
structure Builds (tree later : Tree) : Prop where
  grows : ∀ place, later.lookup place = tree.lookup place ∨
    (tree.lookup place = none ∧ later.lookup place = some .directory)
  rooted : tree.Rooted → later.Rooted

namespace Builds

/-- A tree is built from itself with no directories added. -/
theorem refl (tree : Tree) : Builds tree tree := ⟨fun _ => .inl rfl, id⟩

/-- Directories may be added one after the other. -/
theorem trans (first : Builds tree later) (second : Builds later last) : Builds tree last := by
  refine ⟨fun place => ?_, second.rooted ∘ first.rooted⟩
  rcases second.grows place with same | ⟨missing, made⟩
  · rw [same]
    exact first.grows place
  · rcases first.grows place with same | ⟨_, directory⟩
    · exact .inr ⟨same ▸ missing, made⟩
    · rw [directory] at missing
      contradiction

/-- What is there stays there when directories are added. -/
theorem keeps (builds : Builds tree later) {entry : Entry} (h : tree.lookup place = some entry) :
    later.lookup place = some entry := by
  rcases builds.grows place with same | ⟨missing, _⟩
  · rw [same, h]
  · rw [missing] at h
    contradiction

/-- No file comes into being. -/
theorem file (builds : Builds tree later) {content : Bytes}
    (h : later.lookup place = some (.file content)) : tree.lookup place = some (.file content) := by
  rcases builds.grows place with same | ⟨_, directory⟩
  · rw [← same, h]
  · rw [directory] at h
    cases h

end Builds

namespace Volume

/-- Making a directory adds it. -/
theorem builds_makeDirectory {made : Tree}
    (h : makeDirectory tree origin (names ++ [name]) = .ok made) : Builds tree made := by
  unfold makeDirectory at h
  split at h
  · contradiction
  · rename_i place followed
    split at h
    · contradiction
    · rename_i missing
      cases h
      refine ⟨fun other => ?_, fun rooted => ?_⟩
      · by_cases here : other = place
        · subst here
          have notRoot : other ≠ [] := tree.ne_nil_of_noDirectory (by simp [missing])
          exact .inr ⟨missing, tree.lookup_put_self _ notRoot⟩
        · exact .inl (tree.lookup_put_of_ne _ here)
      · have noDirectory : tree.lookup place ≠ some .directory := by simp [missing]
        exact rooted.put (encloses_of_walk rooted followed noDirectory) noDirectory

/-- Ensuring a directory adds one at most. -/
theorem builds_ensureDirectory (tree : Tree) (origin : Place) (names : List String) (name : String) :
    Builds tree (ensureDirectory tree origin (names ++ [name])).2 := by
  unfold ensureDirectory
  split
  · rename_i made
    exact builds_makeDirectory made
  · exact .refl tree

/-- Making one directory after another adds directories, also if it ends with a fault. -/
theorem builds_makeReversed (tree : Tree) (origin : Place) (reversed : List String) :
    Builds tree (makeReversed tree origin reversed).2 := by
  induction reversed with
  | nil => exact .refl tree
  | cons name before ih =>
    simp only [makeReversed, List.reverse_cons]
    split
    · rename_i made
      exact builds_makeDirectory made
    · split
      · split
        · rename_i stopped
          rw [stopped] at ih
          exact ih
        · rename_i built
          rw [built] at ih
          exact ih.trans (builds_ensureDirectory _ origin before.reverse name)
      · exact builds_ensureDirectory tree origin before.reverse name

variable {volume changed : Volume} {path : String}

/-- Making the directories around a path adds directories, and moves nobody. -/
theorem builds_enclose (volume : Volume) (path : String) :
    Builds volume.tree (volume.enclose path).2.tree ∧
      (volume.enclose path).2.current = volume.current := by
  unfold enclose
  simp only
  split
  · exact ⟨.refl _, rfl⟩
  · split
    · exact ⟨.refl _, rfl⟩
    · exact ⟨builds_makeReversed _ _ _, rfl⟩

/-- A path is located where it was in a volume that keeps the directories, and from the same place. -/
theorem locate_of_current (current : changed.current = volume.current)
    (kept : KeepsDirectories volume.tree changed.tree) (h : volume.locate path = .ok place) :
    changed.locate path = .ok place := by
  have same : changed = { volume with tree := changed.tree } := by rw [← current]
  rw [same]
  exact volume.locate_of_keepsDirectories kept h

/-- What is at a path is also there once the directories around it are made. -/
theorem hasEntry_enclose (h : volume.hasEntry path = true) :
    (volume.enclose path).2.hasEntry path = true := by
  obtain ⟨builds, current⟩ := builds_enclose volume path
  obtain ⟨entry, holds⟩ := hasEntry_eq_true_iff.mp h
  obtain ⟨place, located, found⟩ := entry?_eq_ok_iff.mp holds
  have stays := locate_of_current current (fun _ directory => builds.keeps directory) located
  exact hasEntry_eq_true_iff.mpr ⟨entry, entry?_eq_ok_iff.mpr ⟨place, stays, builds.keeps found⟩⟩

/-- A way leads to a directory exactly if it can be followed to one. -/
theorem leadsToDirectory_iff :
    leadsToDirectory tree origin names = true ↔
      ∃ place, walk tree origin names = .ok place ∧ tree.lookup place = some .directory := by
  unfold leadsToDirectory
  cases walk tree origin names <;> simp

/-- Where directories are kept, names still lead to a directory. -/
theorem leadsToDirectory_of_keepsDirectories (kept : KeepsDirectories tree later)
    (h : leadsToDirectory tree origin names = true) : leadsToDirectory later origin names = true := by
  obtain ⟨place, followed, directory⟩ := leadsToDirectory_iff.mp h
  exact leadsToDirectory_iff.mpr ⟨place, kept.walk followed, kept place directory⟩

/-- Names lead to the directory that was made at their end. -/
theorem leadsToDirectory_of_made {made : Tree} (h : makeDirectory tree origin names = .ok made) :
    leadsToDirectory made origin names = true := by
  unfold makeDirectory at h
  split at h
  · contradiction
  · rename_i place followed
    split at h
    · contradiction
    · rename_i missing
      cases h
      have free : tree.lookup place ≠ some .directory := by simp [missing]
      exact leadsToDirectory_iff.mpr ⟨place, (keepsDirectories_put _ free).walk followed,
        tree.lookup_put_self _ (Tree.ne_nil_of_noDirectory free)⟩

/-- A directory that was ensured is there. -/
theorem leadsToDirectory_of_ensured (h : ensureDirectory tree origin names = (.ok (), later)) :
    leadsToDirectory later origin names = true := by
  unfold ensureDirectory at h
  split at h
  · rename_i made
    cases h
    exact leadsToDirectory_of_made made
  · cases there : leadsToDirectory tree origin names with
    | true =>
      rw [there] at h
      cases h
      exact there
    | false => simp [there] at h

/-- Names lead to a directory once the directories on the way are made. -/
theorem leadsToDirectory_of_makeReversed {before : List String}
    (h : makeReversed tree origin (name :: before) = (.ok (), later)) :
    leadsToDirectory later origin (name :: before).reverse = true := by
  simp only [makeReversed] at h
  split at h
  · rename_i made
    cases h
    exact leadsToDirectory_of_made made
  · split at h
    · split at h
      · nomatch h
      · exact leadsToDirectory_of_ensured h
    · exact leadsToDirectory_of_ensured h

/-- Where names lead to a directory nothing is made. -/
theorem makeReversed_of_leadsToDirectory {reversed : List String}
    (h : reversed ≠ [] → leadsToDirectory tree origin reversed.reverse = true) :
    makeReversed tree origin reversed = (.ok (), tree) := by
  cases reversed with
  | nil => rfl
  | cons name before =>
    have there := h (List.cons_ne_nil name before)
    obtain ⟨place, followed, directory⟩ := leadsToDirectory_iff.mp there
    have refused : makeDirectory tree origin (name :: before).reverse = .error .alreadyExists := by
      simp only [makeDirectory, followed, directory]
    have known : OsFault.alreadyExists ≠ OsFault.noEntry := by decide
    simp only [makeReversed, refused, ensureDirectory, there, if_neg known, if_true]

/-- Once the directories around a path are made they are not made again. -/
theorem enclose_again {enclosed now : Volume} (h : volume.enclose path = (.ok (), enclosed))
    (current : now.current = enclosed.current) (kept : KeepsDirectories enclosed.tree now.tree) :
    now.enclose path = (.ok (), now) := by
  unfold enclose at h ⊢
  simp only at h ⊢
  split at h
  · nomatch h
  · rename_i noNul
    split at h
    · nomatch h
    · rename_i short
      rw [if_neg noNul, if_neg short]
      rcases made : makeReversed volume.tree (volume.start path) (parentNames path).reverse with
        ⟨result, tree⟩
      rw [made] at h
      cases result with
      | error fault => nomatch h
      | ok =>
        cases h
        have sameStart : now.start path = volume.start path := by rw [start, start, current]
        have nothing : makeReversed now.tree (volume.start path) (parentNames path).reverse =
            (.ok (), now.tree) := by
          refine makeReversed_of_leadsToDirectory fun named => ?_
          cases reversed : (parentNames path).reverse with
          | nil => exact absurd reversed named
          | cons name before =>
            rw [reversed] at made
            exact leadsToDirectory_of_keepsDirectories kept (leadsToDirectory_of_makeReversed made)
        rw [sameStart, nothing]
        rfl

/-- Where a path leads to what is no directory, the directory around it is there. -/
theorem encloses_of_locate (rooted : volume.tree.Rooted) (h : volume.locate path = .ok place)
    (noDirectory : volume.tree.lookup place ≠ some .directory) : volume.tree.Encloses place := by
  obtain ⟨front, last, same, _⟩ := parts_append path "" (by simp)
  have followed := (locate_eq_ok_iff.mp h).2.2.2
  rw [same] at followed
  exact encloses_of_walk rooted followed noDirectory

/-- A file is emptied or created where the path leads, unless that is a directory. -/
theorem truncate_eq_ok_iff :
    volume.truncate path = .ok (place, changed) ↔
      volume.locate path = .ok place ∧ volume.tree.lookup place ≠ some .directory ∧
        changed = { volume with tree := volume.tree.put place (.file []) } := by
  unfold truncate
  cases hlocate : volume.locate path with
  | error fault => simp
  | ok located =>
    simp only [Except.ok.injEq]
    split
    · rename_i directory
      simp only [reduceCtorEq, false_iff]
      rintro ⟨rfl, noDirectory, _⟩
      exact noDirectory directory
    · rename_i noDirectory
      simp only [Except.ok.injEq, Prod.mk.injEq]
      constructor
      · rintro ⟨rfl, rfl⟩
        exact ⟨rfl, noDirectory, rfl⟩
      · rintro ⟨rfl, _, rfl⟩
        exact ⟨rfl, rfl⟩

/-- Emptying a file and filling it puts a file of the content where the path leads. -/
theorem fill_truncate (h : volume.truncate path = .ok (place, changed)) (content : Bytes) :
    changed.fill place content = volume.fill place content := by
  obtain ⟨_, _, rfl⟩ := truncate_eq_ok_iff.mp h
  simp only [fill, Tree.put_put]

/-- A file is moved from where one path leads to where the other one leads. -/
theorem rename_eq_ok_iff {source target : String} :
    volume.rename source target = .ok changed ↔
      ∃ origin goal content, volume.locate source = .ok origin ∧ volume.locate target = .ok goal ∧
        endsInName target = true ∧ volume.tree.lookup origin = some (.file content) ∧
        volume.tree.lookup goal ≠ some .directory ∧
        changed = { volume with tree := (volume.tree.erase origin).put goal (.file content) } := by
  unfold rename
  cases volume.locate source with
  | error fault => simp
  | ok origin =>
    cases volume.locate target with
    | error fault => simp
    | ok goal =>
      simp only [Except.ok.injEq, exists_and_left, exists_eq_left']
      cases endsInName target with
      | false => simp
      | true =>
        rcases hsource : volume.tree.lookup origin with _ | content | _
        · simp
        · rcases hgoal : volume.tree.lookup goal with _ | other | _ <;> simp [eq_comm]
        · simp

end Volume

end ChatGateway.Files
