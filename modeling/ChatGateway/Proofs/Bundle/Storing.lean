import ChatGateway.Proofs.Bundle.Stages
import ChatGateway.Proofs.Files.Change

/-!
# Bringing a bundle to its path

What an installation does to the files once it has a content is one operation on a volume: making
the directories around the path, writing beside it, and moving what was written. If that succeeds,
the path leads to a file of the content and nothing is beside it any more. If it ends with a fault,
a file may be left beside the path, but at the place of which the path speaks there is no file that
was not there before.
-/

namespace ChatGateway

namespace Files.Volume

/-- A text appended to a path does not change where it starts, unless it starts with a slash. -/
theorem start_append (volume : Volume) (path tail : String) (h : tail.toList.head? ≠ some '/') :
    volume.start (path ++ tail) = volume.start path := by
  have same : isAbsolute (path ++ tail) = isAbsolute path := by
    unfold isAbsolute
    rw [String.toList_append]
    cases path.toList with
    | nil => simp [h]
    | cons c chars => rfl
  rw [start, start, same]

/-- With a longer last name a path speaks of another place. -/
theorem spokenPlace_append_ne (volume : Volume) (path : String) {tail : String}
    (noSlash : '/' ∉ tail.toList) (long : 2 < tail.toList.length) :
    volume.spokenPlace (path ++ tail) ≠ volume.spokenPlace path := by
  obtain ⟨front, last, hpath, happended⟩ := parts_append path tail noSlash
  have sameStart := volume.start_append path tail fun slash =>
    noSlash (List.mem_of_mem_head? slash)
  simp only [spokenPlace, sameStart, hpath, happended, List.foldl_append, List.foldl_cons, List.foldl_nil]
  generalize front.foldl enter (volume.start path) = inside
  -- The longer name is none of those that lead nowhere or back.
  have length : (last ++ tail).toList.length = last.toList.length + tail.toList.length := by
    rw [String.toList_append, List.length_append]
  have ordinary : enter inside (last ++ tail) = inside ++ [last ++ tail] := by
    have differs (short : String) (h : short.toList.length ≤ 2) : last ++ tail ≠ short := by
      intro same
      rw [same] at length
      omega
    simp [enter, differs "" (by decide), differs "." (by decide), differs ".." (by decide)]
  rw [ordinary]
  intro same
  unfold enter at same
  split at same
  · simpa using congrArg List.length same
  · split at same
    · have shorter := congrArg List.length same
      simp at shorter
      omega
    · have names := (List.append_inj' same rfl).2
      have equal : last ++ tail = last := List.singleton_inj.mp names
      rw [equal] at length
      omega

/-- A path is read exactly if it leads to a file, as the content of this file. -/
theorem read_eq_ok_iff_locate {volume : Volume} {path : String} {content : Bytes} :
    volume.read path = .ok content ↔ ∃ place, volume.locate path = .ok place ∧
      volume.tree.lookup place = some (.file content) := by
  rw [read_eq_ok_iff, entry?_eq_ok_iff]

section Fill

variable {volume : Volume} {origin place : Place} (content : Bytes)
  (free : volume.tree.lookup origin ≠ some .directory)

include free

/-- A file that is filled has what it was filled with. -/
theorem lookup_fill_self :
    (volume.fill origin content).tree.lookup origin = some (.file content) :=
  volume.tree.lookup_put_self _ (Tree.ne_nil_of_noDirectory free)

/-- A volume on which a file was written leads where it led. -/
theorem locate_fill {path : String} (h : volume.locate path = .ok place) :
    (volume.fill origin content).locate path = .ok place :=
  volume.locate_of_keepsDirectories (keepsDirectories_put _ free) h

end Fill

end Files.Volume

namespace Installer

open Files

variable {installer : Installer} {content : Bytes} {volume later : Volume}

/-- Makes the directories around the path, writes the content beside it, and moves it there. -/
def store (installer : Installer) (content : Bytes) (volume : Volume) : Except FileFault Unit × Volume :=
  match volume.enclose installer.path with
  | (.error fault, enclosed) => (.error fault, enclosed)
  | (.ok (), enclosed) =>
    match enclosed.truncate installer.stagingPath with
    | .error fault => (.error fault, enclosed)
    | .ok (place, emptied) =>
      let staged := emptied.fill place content
      match staged.rename installer.stagingPath installer.path with
      | .error fault => (.error fault, staged)
      | .ok moved => (.ok (), moved)

/-- How storing ends. -/
inductive Stores (installer : Installer) (content : Bytes) (enclosed : Volume) :
    Except FileFault Unit → Volume → Prop
  /-- Nothing was written. -/
  | unwritten (fault : FileFault) : Stores installer content enclosed (.error fault) enclosed
  /-- The content stays beside the path. -/
  | unmoved (fault : FileFault) (origin : Place)
    (beside : enclosed.locate installer.stagingPath = .ok origin)
    (free : enclosed.tree.lookup origin ≠ some .directory) :
    Stores installer content enclosed (.error fault) (enclosed.fill origin content)
  | moved (origin goal : Place)
    (beside : enclosed.locate installer.stagingPath = .ok origin)
    (free : enclosed.tree.lookup origin ≠ some .directory)
    (atPath : (enclosed.fill origin content).locate installer.path = .ok goal)
    (noDirectory : (enclosed.fill origin content).tree.lookup goal ≠ some .directory) :
    Stores installer content enclosed (.ok ())
      { enclosed with
        tree := ((enclosed.fill origin content).tree.erase origin).put goal (.file content) }

/-- Storing a bundle ends in one of three ways: nothing is written, it stays beside the path, or it is
moved there. -/
theorem stores_store (installer : Installer) (content : Bytes) (volume : Volume) :
    Stores installer content (volume.enclose installer.path).2
      (installer.store content volume).1 (installer.store content volume).2 := by
  unfold store
  split
  · rename_i enclosed made
    rw [made]
    exact .unwritten _
  · rename_i enclosed made
    rw [made]
    split
    · exact .unwritten _
    · rename_i origin emptied emptying
      obtain ⟨beside, free, _⟩ := Volume.truncate_eq_ok_iff.mp emptying
      simp only [Volume.fill_truncate emptying]
      split
      · exact .unmoved _ origin beside free
      · rename_i renamed
        obtain ⟨source, goal, moving, located, atPath, _, found, noDirectory, rfl⟩ :=
          Volume.rename_eq_ok_iff.mp renamed
        -- What is moved is what was written just before.
        rw [Volume.locate_fill content free beside] at located
        cases located
        rw [Volume.lookup_fill_self content free] at found
        cases found
        exact .moved origin goal beside free atPath noDirectory

/-- The path of the staging file is never spelled like the path of the bundle. -/
theorem spokenPlace_stagingPath_ne (installer : Installer) (volume : Volume) :
    volume.spokenPlace installer.stagingPath ≠ volume.spokenPlace installer.path :=
  volume.spokenPlace_append_ne installer.path (by decide) (by decide)

/-- The place beside the path is not the one at the path. -/
theorem ne_of_located {volume : Volume} {origin goal : Place}
    (located : volume.locate installer.stagingPath = .ok origin)
    (atPath : volume.locate installer.path = .ok goal) : origin ≠ goal := by
  rw [← Volume.spokenPlace_of_locate located, ← Volume.spokenPlace_of_locate atPath]
  exact spokenPlace_stagingPath_ne installer volume

/-- The volume before and after a file was moved from beside the path to it. -/
structure Renamed (installer : Installer) (volume moved : Volume) (origin goal : Place)
    (content : Bytes) : Prop where
  located : volume.locate installer.stagingPath = .ok origin
  there : volume.tree.lookup origin = some (.file content)
  keeps : KeepsDirectories volume.tree moved.tree
  current : moved.current = volume.current
  beside : moved.locate installer.stagingPath = .ok origin
  nothing : moved.tree.lookup origin = none
  atPath : moved.locate installer.path = .ok goal
  found : moved.tree.lookup goal = some (.file content)

/-- A file beside the path is moved to it if there is no directory there. -/
theorem renamed_of_located {volume : Volume} {origin goal : Place}
    (located : volume.locate installer.stagingPath = .ok origin)
    (there : volume.tree.lookup origin = some (.file content))
    (atPath : volume.locate installer.path = .ok goal)
    (noDirectory : volume.tree.lookup goal ≠ some .directory) :
    Renamed installer volume
      { volume with tree := (volume.tree.erase origin).put goal (.file content) } origin goal
      content := by
  have apart := ne_of_located located atPath
  have noOrigin : volume.tree.lookup origin ≠ some .directory := by simp [there]
  have noGoal : (volume.tree.erase origin).lookup goal ≠ some .directory := by
    rwa [volume.tree.lookup_erase_of_ne (Ne.symm apart)]
  have keeps := (keepsDirectories_erase noOrigin).trans (keepsDirectories_put (.file content) noGoal)
  refine ⟨located, there, keeps, rfl, volume.locate_of_keepsDirectories keeps located, ?_,
    volume.locate_of_keepsDirectories keeps atPath,
    Tree.lookup_put_self _ _ (Tree.ne_nil_of_noDirectory noGoal)⟩
  rw [Tree.lookup_put_of_ne _ _ apart, Tree.lookup_erase_self _ (Tree.ne_nil_of_noDirectory noOrigin)]

/-- Whatever was moved to the path was a file beside it. -/
theorem exists_of_rename {volume moved : Volume}
    (h : volume.rename installer.stagingPath installer.path = .ok moved) :
    ∃ origin goal content, Renamed installer volume moved origin goal content := by
  obtain ⟨origin, goal, content, located, atPath, _, there, noDirectory, rfl⟩ :=
    Volume.rename_eq_ok_iff.mp h
  exact ⟨origin, goal, content, renamed_of_located located there atPath noDirectory⟩

namespace Stores

variable {enclosed : Volume} {result : Except FileFault Unit}

/-- Storing a bundle does not move to another directory. -/
theorem current (h : Stores installer content enclosed result later) :
    later.current = enclosed.current := by
  cases h <;> rfl

/-- A content that was stored is in a file at the path, and nothing is beside it. -/
theorem read (h : Stores installer content enclosed (.ok ()) later) :
    later.read installer.path = .ok content ∧ later.hasEntry installer.stagingPath = false := by
  cases h with
  | moved origin goal beside free atPath noDirectory =>
    have renamed := renamed_of_located (Volume.locate_fill content free beside)
      (Volume.lookup_fill_self content free) atPath noDirectory
    constructor
    · exact Volume.read_eq_ok_iff_locate.mpr ⟨goal, renamed.atPath, renamed.found⟩
    · have beside := Volume.hasEntry_of_locate renamed.beside
      rwa [renamed.nothing] at beside

/-- After a fault, a file at the place of which the path speaks was there before. -/
theorem file_of_error {fault : FileFault} {found : Bytes}
    (h : Stores installer content enclosed (.error fault) later)
    (file : later.tree.lookup (enclosed.spokenPlace installer.path) = some (.file found)) :
    enclosed.tree.lookup (enclosed.spokenPlace installer.path) = some (.file found) := by
  cases h with
  | unwritten => exact file
  | unmoved _ origin beside free =>
    have apart : enclosed.spokenPlace installer.path ≠ origin := by
      rw [← Volume.spokenPlace_of_locate beside]
      exact Ne.symm (spokenPlace_stagingPath_ne installer enclosed)
    rwa [Volume.fill, Tree.lookup_put_of_ne _ _ apart] at file

/-- Storing a bundle keeps every entry below directories. -/
theorem rooted (h : Stores installer content enclosed result later)
    (rooted : enclosed.tree.Rooted) : later.tree.Rooted := by
  have filled {origin : Place} (beside : enclosed.locate installer.stagingPath = .ok origin)
      (free : enclosed.tree.lookup origin ≠ some .directory) :
      (enclosed.fill origin content).tree.Rooted :=
    rooted.put (Volume.encloses_of_locate rooted beside free) free
  cases h with
  | unwritten => exact rooted
  | unmoved _ origin beside free => exact filled beside free
  | moved origin goal beside free atPath noDirectory =>
    let staged := enclosed.fill origin content
    have noOrigin : staged.tree.lookup origin ≠ some .directory := by
      simp [staged, Volume.lookup_fill_self content free]
    have erased := (filled beside free).erase noOrigin
    have around := Volume.encloses_of_locate (filled beside free) atPath noDirectory
    refine erased.put (fun before name same => ?_) fun directory => ?_
    · exact keepsDirectories_erase noOrigin before (around before name same)
    · by_cases here : goal = origin
      · subst here
        rw [Tree.lookup_erase_self _ (Tree.ne_nil_of_noDirectory free)] at directory
        contradiction
      · rw [Tree.lookup_erase_of_ne _ here] at directory
        exact noDirectory directory

end Stores

/-- After a fetch with a content, an installation stores it. -/
theorem finish_makeParents {σ : Type} (installer : Installer) (network : Http.Network σ)
    (content : Bytes) (site : Site σ) :
    installer.finish network (.running (.makeParents content)) site =
      match installer.store content site.volume with
      | (.error fault, volume) => (.error (.storage installer.path fault), { site with volume })
      | (.ok (), volume) =>
        (.ok (.downloaded content.length),
          ({ site with volume } : Site σ).note (installer.downloadedEvent content.length)) := by
  unfold store
  rw [finish_running, step]
  rcases site.volume.enclose installer.path with ⟨_ | _, enclosed⟩
  · simp only [storageFault, finish_ended]
  · simp only
    rw [finish_running, step]
    rcases enclosed.truncate installer.stagingPath with _ | ⟨place, emptied⟩
    · simp only [storageFault, finish_ended]
    · simp only
      rw [finish_running, step, finish_running, step]
      simp only
      cases (emptied.fill place content).rename installer.stagingPath installer.path with
      | error fault => simp only [storageFault, finish_ended]
      | ok moved => simp only [finish_ended]

end Installer

end ChatGateway
