import ChatGateway.Proofs.Bundle.Storing

/-!
# Ground for a bundle

Where nothing is in the way of a bundle, the directories around its path can be made, and then there is
one place beside the path to write it to and one place at the path to which it belongs.

As long as only bundles are put at the path, and only the file beside it is written, this stays so.
-/

namespace ChatGateway.Installer

open Files

/-- Nothing is in the way of a bundle: an empty one could be stored, and at the path there is nothing,
also once the directories around it are made. -/
structure Clear (installer : Installer) (volume : Volume) : Prop where
  stores : (installer.store [] volume).1 = .ok ()
  absent : (volume.enclose installer.path).2.hasEntry installer.path = false

/-- Where a bundle is written and where it belongs, once the directories around its path are made. -/
structure Ground (installer : Installer) (volume enclosed : Volume) (origin goal : Place) : Prop where
  made : volume.enclose installer.path = (.ok (), enclosed)
  beside : enclosed.locate installer.stagingPath = .ok origin
  free : enclosed.tree.lookup origin ≠ some .directory
  atPath : enclosed.locate installer.path = .ok goal
  nothing : enclosed.tree.lookup goal = none
  named : endsInName installer.path = true

variable {installer : Installer} {base enclosed volume : Volume} {origin goal : Place}

/-- Where nothing is at the path once its directories are made, nothing is there before. -/
theorem Clear.hasEntry (clear : Clear installer base) : base.hasEntry installer.path = false := by
  refine Bool.eq_false_iff.mpr fun there => ?_
  have later := Volume.hasEntry_enclose there
  rw [clear.absent] at later
  contradiction

/-- The file that was written is no directory, so without it a path leads to the same place. -/
theorem locate_of_fill {content : Bytes} {path : String} {place : Place}
    (free : volume.tree.lookup origin ≠ some .directory)
    (h : (volume.fill origin content).locate path = .ok place) : volume.locate path = .ok place := by
  have back : KeepsDirectories (volume.fill origin content).tree volume.tree := by
    intro other directory
    have elsewhere : other ≠ origin := by
      rintro rfl
      rw [Volume.lookup_fill_self content free] at directory
      cases directory
    rwa [Volume.fill, Tree.lookup_put_of_ne _ _ elsewhere] at directory
  exact (volume.fill origin content).locate_of_keepsDirectories back h

/-- Where the path is clear there are a place to stage a bundle and a place to put it. -/
theorem Clear.exists_ground (clear : Clear installer base) :
    ∃ enclosed origin goal, Ground installer base enclosed origin goal := by
  obtain ⟨stores, absent⟩ := clear
  unfold store at stores
  split at stores
  · cases stores
  · rename_i enclosed made
    rw [made] at absent
    split at stores
    · cases stores
    · rename_i origin emptied emptying
      obtain ⟨beside, free, _⟩ := Volume.truncate_eq_ok_iff.mp emptying
      simp only [Volume.fill_truncate emptying] at stores
      split at stores
      · cases stores
      · rename_i moves
        obtain ⟨source, goal, content, _, atPath, named, _, _, _⟩ := Volume.rename_eq_ok_iff.mp moves
        have located := locate_of_fill free atPath
        rw [Volume.hasEntry_of_locate located] at absent
        exact ⟨enclosed, origin, goal, made, beside, free, located,
          Option.isNone_iff_eq_none.mp (Option.isSome_eq_false_iff.mp absent), named⟩

/-- No directory was taken away, and at the path there is nothing or one of the bundles. -/
structure Stands (enclosed : Volume) (origin goal : Place) (bodies : List Bytes) (volume : Volume) :
    Prop where
  current : volume.current = enclosed.current
  keeps : KeepsDirectories enclosed.tree volume.tree
  free : volume.tree.lookup origin ≠ some .directory
  whole : volume.tree.lookup goal = none ∨
    ∃ body ∈ bodies, volume.tree.lookup goal = some (.file body)

section Ground

variable {bodies : List Bytes} {content : Bytes} (ground : Ground installer base enclosed origin goal)

include ground

/-- The staging file and the bundle are at different places. -/
theorem Ground.apart : origin ≠ goal := ne_of_located ground.beside ground.atPath

/-- The ground stands before anything is staged on it. -/
theorem Ground.stands : Stands enclosed origin goal bodies enclosed :=
  ⟨rfl, fun _ directory => directory, ground.free, .inl ground.nothing⟩

omit ground in

/-- Paths that could be followed on the ground lead to the same places as long as it stands. -/
theorem Stands.locate (stands : Stands enclosed origin goal bodies volume) {path : String}
    {place : Place} (h : enclosed.locate path = .ok place) : volume.locate path = .ok place :=
  Volume.locate_of_current stands.current stands.keeps h

/-- As long as the ground stands the directories around the path need not be made again. -/
theorem Stands.enclose (stands : Stands enclosed origin goal bodies volume) :
    volume.enclose installer.path = (.ok (), volume) :=
  Volume.enclose_again ground.made stands.current stands.keeps

/-- What is beside the path may be written. -/
theorem Stands.fill (stands : Stands enclosed origin goal bodies volume) (content : Bytes) :
    Stands enclosed origin goal bodies (volume.fill origin content) := by
  refine ⟨stands.current, stands.keeps.trans (keepsDirectories_put _ stands.free), ?_, ?_⟩
  · rw [Volume.lookup_fill_self content stands.free]
    nofun
  · rw [Volume.fill, Tree.lookup_put_of_ne _ _ ground.apart.symm]
    exact stands.whole

/-- As long as the ground stands the staging file can be emptied. -/
theorem Stands.truncate (stands : Stands enclosed origin goal bodies volume) :
    volume.truncate installer.stagingPath = .ok (origin, volume.fill origin []) :=
  Volume.truncate_eq_ok_iff.mpr ⟨stands.locate ground.beside, stands.free, rfl⟩

/-- A bundle that is complete beside the path may be moved there. -/
theorem Stands.rename (stands : Stands enclosed origin goal bodies volume) (among : content ∈ bodies)
    (complete : volume.tree.lookup origin = some (.file content)) :
    ∃ moved, volume.rename installer.stagingPath installer.path = .ok moved ∧
      Stands enclosed origin goal bodies moved := by
  have noGoal : volume.tree.lookup goal ≠ some .directory := by
    rcases stands.whole with nothing | ⟨body, _, found⟩
    · simp [nothing]
    · simp [found]
  have beside := stands.locate ground.beside
  have atPath := stands.locate ground.atPath
  have renamed := renamed_of_located beside complete atPath noGoal
  refine ⟨_, Volume.rename_eq_ok_iff.mpr ⟨origin, goal, content, beside, atPath, ground.named,
    complete, noGoal, rfl⟩, renamed.current.trans stands.current, stands.keeps.trans renamed.keeps, ?_,
    .inr ⟨content, among, renamed.found⟩⟩
  rw [renamed.nothing]
  nofun

/-- At the path there is nothing or one of the bundles. -/
theorem Stands.isWhole (stands : Stands enclosed origin goal bodies volume) :
    volume.hasEntry installer.path = false ∨ ∃ body ∈ bodies, volume.read installer.path = .ok body := by
  have atPath := stands.locate ground.atPath
  rcases stands.whole with nothing | ⟨body, among, found⟩
  · left
    rw [Volume.hasEntry_of_locate atPath, nothing]
    rfl
  · exact .inr ⟨body, among, Volume.read_eq_ok_iff_locate.mpr ⟨goal, atPath, found⟩⟩

omit ground in

/-- The ground stands all the more if more bundles may have been put there. -/
theorem Stands.mono {more : List Bytes} (stands : Stands enclosed origin goal bodies volume) :
    Stands enclosed origin goal (bodies ++ more) volume := by
  refine ⟨stands.current, stands.keeps, stands.free, stands.whole.imp_right ?_⟩
  rintro ⟨body, among, found⟩
  exact ⟨body, List.mem_append_left more among, found⟩

end Ground

end ChatGateway.Installer
