import ChatGateway.Proofs.Bundle.Promise
import ChatGateway.Proofs.Files.Agreement

/-!
# What an installation leaves alone

However an installation ends, it changes nothing but what is at its path and beside it, and the
directories on the way to its path that it makes; no directory goes away.

What an earlier installation left beside the path does not matter: with it and without it, or with
something else in its stead, the result is the same, and so is everything else that is left.
-/

namespace ChatGateway

namespace Installer

open Files

variable {σ : Type} {installer : Installer} {content : Bytes} {volume other : Volume}

/-- The place beside the path. -/
def besideOf (installer : Installer) (volume : Volume) : Place :=
  volume.spokenPlace installer.stagingPath

/-! ## The footprint -/

/-- What is left of the files as they were. -/
structure Footprint (installer : Installer) (before after : Volume) : Prop where
  current : after.current = before.current
  /-- Off the path and the place beside it, all that changes are directories that come into being on
  the way to the path. -/
  confined : ∀ place, place ≠ before.spokenPlace installer.path → place ≠ installer.besideOf before →
    after.tree.lookup place = before.tree.lookup place ∨
      (before.tree.lookup place = none ∧ after.tree.lookup place = some .directory ∧
        ∃ front, front <+: parentNames installer.path ∧
          front.foldl enter (before.start installer.path) = place)
  directories : KeepsDirectories before.tree after.tree

/-- What is left unchanged is within the footprint. -/
theorem Footprint.refl (installer : Installer) (volume : Volume) :
    Footprint installer volume volume :=
  ⟨rfl, fun _ _ _ => .inl rfl, fun _ directory => directory⟩

/-- The directories that are made are on the way to the path. -/
theorem footprint_enclose (installer : Installer) (volume : Volume) :
    Footprint installer volume (volume.enclose installer.path).2 := by
  obtain ⟨builds, current⟩ := Volume.builds_enclose volume installer.path
  refine ⟨current, fun place _ _ => ?_, fun _ directory => builds.keeps directory⟩
  by_cases bypasses : Bypasses place (volume.start installer.path) (parentNames installer.path)
  · exact .inl (Volume.lookup_enclose volume bypasses)
  · simp only [Bypasses, not_forall, not_not] at bypasses
    obtain ⟨front, first, leads⟩ := bypasses
    exact (builds.grows place).imp_right fun made => ⟨made.1, made.2, front, first, leads⟩

/-- Storing touches what is at the path and beside it, and no directory. -/
theorem Stores.touches {enclosed later : Volume} {result : Except FileFault Unit}
    (h : Stores installer content enclosed result later) :
    KeepsDirectories enclosed.tree later.tree ∧
      ∀ place, place ≠ enclosed.spokenPlace installer.path → place ≠ installer.besideOf enclosed →
        later.tree.lookup place = enclosed.tree.lookup place := by
  cases h with
  | unwritten => exact ⟨fun _ directory => directory, fun _ _ _ => rfl⟩
  | unmoved _ origin beside free =>
    refine ⟨keepsDirectories_put _ free, fun place _ second => ?_⟩
    rw [besideOf, Volume.spokenPlace_of_locate beside] at second
    exact Tree.lookup_put_of_ne _ _ second
  | moved origin goal beside free atPath noDirectory =>
    have renamed := renamed_of_located (Volume.locate_fill content free beside)
      (Volume.lookup_fill_self content free) atPath noDirectory
    refine ⟨(keepsDirectories_put _ free).trans renamed.keeps, fun place first second => ?_⟩
    have spoken : (enclosed.fill origin content).spokenPlace installer.path =
        enclosed.spokenPlace installer.path := Volume.spokenPlace_congr rfl _
    rw [← spoken, Volume.spokenPlace_of_locate atPath] at first
    rw [besideOf, Volume.spokenPlace_of_locate beside] at second
    rw [Tree.lookup_put_of_ne _ _ first, Tree.lookup_erase_of_ne _ second, Volume.fill,
      Tree.lookup_put_of_ne _ _ second]

/-- Storing a bundle leaves its footprint, whether it succeeds or fails on the way. -/
theorem Stores.footprint {later : Volume} {result : Except FileFault Unit}
    (h : Stores installer content (volume.enclose installer.path).2 result later) :
    Footprint installer volume later := by
  have made := footprint_enclose installer volume
  obtain ⟨keeps, touches⟩ := h.touches
  have spoken := Volume.spokenPlace_congr made.current
  refine ⟨h.current.trans made.current, fun place first second => ?_, made.directories.trans keeps⟩
  rw [touches place (by rwa [spoken]) (by rwa [besideOf, spoken])]
  exact made.confined place first second

/-- However an installation ends, nothing changes but its footprint. -/
theorem Ends.footprint {network : Http.Network σ} {site after : Site σ}
    {result : Except BundleFault BundleOutcome} (h : Ends installer network site result after) :
    Footprint installer site.volume after.volume := by
  cases h with
  | present | skipped | refused => exact .refl installer site.volume
  | failed _ _ stores => exact stores.footprint
  | installed _ _ _ stores => exact stores.footprint

/-! ## What was left beside the path -/

/-- The way to the path does not lead through the place beside it. -/
def KeepsClear (installer : Installer) (volume : Volume) : Prop :=
  Bypasses (installer.besideOf volume) (volume.start installer.path) (parts installer.path)

/-- Two volumes differ only in the file that is beside the path in one of them. -/
structure DifferBeside (installer : Installer) (volume other : Volume) : Prop where
  current : other.current = volume.current
  agree : AgreeOff (installer.besideOf volume) volume.tree other.tree
  stale : ∃ content, volume.tree.lookup (installer.besideOf volume) = some (.file content)
  /-- In the other volume there may be nothing, or another file. -/
  free : other.tree.lookup (installer.besideOf volume) ≠ some .directory

/-- Where a file can be read beside the path, the way to the path does not lead through its place. -/
theorem keepsClear_of_read (read : volume.read installer.stagingPath = .ok content) :
    KeepsClear installer volume := by
  obtain ⟨place, located, file⟩ := Volume.read_eq_ok_iff_locate.mp read
  have beside : installer.besideOf volume = place := Volume.spokenPlace_of_locate located
  obtain ⟨front, last, hpath, hstaging⟩ := parts_append installer.path ".part" (by decide)
  have followed := (Volume.locate_eq_ok_iff.mp located).2.2.2
  rw [stagingPath, hstaging, volume.start_append installer.path ".part" (by decide)] at followed
  have noDirectory : volume.tree.lookup (installer.besideOf volume) ≠ some .directory := by
    simp [beside, file]
  intro first initial
  rw [hpath, List.prefix_concat_iff] at initial
  rcases initial with whole | shorter
  · rw [whole, ← hpath]
    exact Ne.symm (spokenPlace_stagingPath_ne installer volume)
  · exact bypasses_of_walk followed noDirectory first shorter

namespace DifferBeside

/-- Files that differ beside a clear path agree on whether there is something at it. -/
theorem hasEntry (h : DifferBeside installer volume other) (clear : KeepsClear installer volume) :
    other.hasEntry installer.path = volume.hasEntry installer.path := by
  have located := Volume.locate_alike h.current h.agree clear
  simp only [Volume.hasEntry, Volume.entry?, located]
  cases found : volume.locate installer.path with
  | error fault => rfl
  | ok goal =>
    have apart : goal ≠ installer.besideOf volume := by
      rw [← Volume.spokenPlace_of_locate found]
      exact Ne.symm (spokenPlace_stagingPath_ne installer volume)
    simp only [h.agree goal apart]

/-- The directories around the path are made alike, and nothing is made beside it. -/
theorem enclose (h : DifferBeside installer volume other) (clear : KeepsClear installer volume) :
    (other.enclose installer.path).1 = (volume.enclose installer.path).1 ∧
      DifferBeside installer (volume.enclose installer.path).2 (other.enclose installer.path).2 ∧
      KeepsClear installer (volume.enclose installer.path).2 := by
  have around : Bypasses (installer.besideOf volume) (volume.start installer.path)
      (parentNames installer.path) := clear.filter.initial (List.dropLast_prefix _)
  have current := (Volume.builds_enclose volume installer.path).2
  have sameStart := Volume.start_congr h.current installer.path
  have beside : installer.besideOf (volume.enclose installer.path).2 = installer.besideOf volume :=
    Volume.spokenPlace_congr current _
  obtain ⟨result, agree⟩ := Volume.enclose_alike h.current h.agree around
  refine ⟨result, ⟨?_, ?_, ?_, ?_⟩, ?_⟩
  · rw [current, (Volume.builds_enclose other installer.path).2, h.current]
  · rwa [beside]
  · rw [beside, Volume.lookup_enclose volume around]
    exact h.stale
  · rw [beside, Volume.lookup_enclose other (sameStart ▸ around)]
    exact h.free
  · rwa [KeepsClear, beside, Volume.start_congr current]

/-- The path beside is followed alike, also to the place where the volumes differ. -/
theorem locate_staging (h : DifferBeside installer volume other) (clear : KeepsClear installer volume) :
    other.locate installer.stagingPath = volume.locate installer.stagingPath := by
  obtain ⟨front, last, hpath, hstaging⟩ := parts_append installer.path ".part" (by decide)
  have way : Bypasses (installer.besideOf volume) (volume.start installer.stagingPath) front := by
    rw [KeepsClear, hpath] at clear
    rw [stagingPath, volume.start_append installer.path ".part" (by decide)]
    exact clear.initial (List.prefix_append _ _)
  simp only [Volume.locate, Volume.start_congr h.current]
  simp only [stagingPath, hstaging] at way ⊢
  rw [h.agree.walk_concat way]

/-- The file beside the path is emptied or created in both volumes, or in none. -/
theorem truncate (h : DifferBeside installer volume other) (clear : KeepsClear installer volume) :
    (∃ fault, volume.truncate installer.stagingPath = .error fault ∧
      other.truncate installer.stagingPath = .error fault) ∨
    ∃ emptied emptied',
      volume.truncate installer.stagingPath = .ok (installer.besideOf volume, emptied) ∧
      other.truncate installer.stagingPath = .ok (installer.besideOf volume, emptied') := by
  have same := h.locate_staging clear
  cases located : volume.locate installer.stagingPath with
  | error fault =>
    rw [located] at same
    exact .inl ⟨fault, by simp only [Volume.truncate, located], by simp only [Volume.truncate, same]⟩
  | ok place =>
    rw [located] at same
    obtain rfl : installer.besideOf volume = place := Volume.spokenPlace_of_locate located
    obtain ⟨content, stale⟩ := h.stale
    exact .inr ⟨_, _, Volume.truncate_eq_ok_iff.mpr ⟨located, by simp [stale], rfl⟩,
      Volume.truncate_eq_ok_iff.mpr ⟨same, h.free, rfl⟩⟩

/-- Once a content is written beside the path, the volumes hold the same everywhere. -/
theorem lookup_fill (h : DifferBeside installer volume other) (content : Bytes) :
    (other.fill (installer.besideOf volume) content).tree.lookup =
      (volume.fill (installer.besideOf volume) content).tree.lookup := by
  refine (h.agree.put _ _).lookup_eq ?_
  obtain ⟨_, stale⟩ := h.stale
  exact (Volume.lookup_fill_self content h.free).trans
    (Volume.lookup_fill_self content (by simp [stale])).symm

/-- A content is stored with the same result, and off the place beside the path the volumes agree
again. -/
theorem store (h : DifferBeside installer volume other) (clear : KeepsClear installer volume)
    (content : Bytes) :
    (installer.store content other).1 = (installer.store content volume).1 ∧
      (installer.store content other).2.current = (installer.store content volume).2.current ∧
      AgreeOff (installer.besideOf volume) (installer.store content volume).2.tree
        (installer.store content other).2.tree := by
  obtain ⟨result, differ, still⟩ := h.enclose clear
  have beside : installer.besideOf (volume.enclose installer.path).2 = installer.besideOf volume :=
    Volume.spokenPlace_congr (Volume.builds_enclose volume installer.path).2 _
  unfold Installer.store
  rcases first : volume.enclose installer.path with ⟨made, enclosed⟩
  rcases second : other.enclose installer.path with ⟨made', enclosed'⟩
  rw [first, second] at result differ
  rw [first] at still beside
  obtain rfl : made' = made := result
  rw [← beside]
  cases made' with
  | error fault => exact ⟨rfl, differ.current, differ.agree⟩
  | ok =>
    rcases differ.truncate still with
      ⟨fault, refused, refused'⟩ | ⟨emptied, emptied', emptying, emptying'⟩
    · simp only [refused, refused']
      exact ⟨trivial, differ.current, differ.agree⟩
    · simp only [emptying, emptying', Volume.fill_truncate emptying, Volume.fill_truncate emptying']
      have same := differ.lookup_fill content
      have current : (enclosed'.fill (installer.besideOf enclosed) content).current =
          (enclosed.fill (installer.besideOf enclosed) content).current := differ.current
      rcases Volume.rename_alike current same installer.stagingPath installer.path
          (installer.besideOf enclosed) with
        ⟨fault, refused, refused'⟩ | ⟨moved, moved', moving, moving', again, agree⟩
      · simp only [refused, refused']
        exact ⟨trivial, current, fun elsewhere _ => congrFun same elsewhere⟩
      · simp only [moving, moving']
        exact ⟨trivial, again, agree⟩

end DifferBeside

/-- Two installations end alike: with the same result, with the same asked and said, and with files
that agree off a place. -/
structure EndsAlike (place : Place) (first second : Except BundleFault BundleOutcome × Site σ) :
    Prop where
  result : second.1 = first.1
  agree : AgreeOff place first.2.volume.tree second.2.volume.tree
  current : second.2.volume.current = first.2.volume.current
  network : second.2.network = first.2.network
  sent : second.2.sent = first.2.sent
  log : second.2.log = first.2.log

/-- What is beside the path does not matter if the way to the path keeps clear of it. -/
theorem endsAlike_of_keepsClear (network : Http.Network σ) (site : Site σ)
    (h : DifferBeside installer site.volume other) (clear : KeepsClear installer site.volume) :
    EndsAlike (installer.besideOf site.volume) (installer.run network site)
      (installer.run network { site with volume := other }) := by
  let changed : Site σ := { site with volume := other }
  have there : changed.volume.hasEntry installer.path = site.volume.hasEntry installer.path :=
    h.hasEntry clear
  change EndsAlike _ (installer.run network site) (installer.run network changed)
  cases present : site.volume.hasEntry installer.path with
  | true =>
    rw [run_of_present installer network site present,
      run_of_present installer network changed (there.trans present)]
    exact ⟨rfl, h.agree, h.current, rfl, rfl, rfl⟩
  | false =>
    have absent := there.trans present
    obtain ⟨_ | url, path⟩ := installer
    · rw [run_of_nowhere network site present, run_of_nowhere network changed absent]
      exact ⟨rfl, h.agree, h.current, rfl, rfl, rfl⟩
    · have same : download network url changed = download network url site := rfl
      have after : changed.afterDownload network url =
          { site.afterDownload network url with volume := other } := rfl
      cases fetched : contentOf (download network url site).result with
      | error fault =>
        rw [run_of_refused network site present fetched,
          run_of_refused network changed absent (same ▸ fetched)]
        exact ⟨rfl, h.agree, h.current, rfl, rfl, rfl⟩
      | ok content =>
        rw [run_of_content network site present fetched,
          run_of_content network changed absent (same ▸ fetched), finish_makeParents,
          finish_makeParents, after]
        obtain ⟨result, current, agree⟩ := h.store clear content
        have unmoved : (site.afterDownload network url).volume = site.volume := rfl
        rw [unmoved]
        rcases first : store ⟨some url, path⟩ content site.volume with ⟨stored, later⟩
        rcases second : store ⟨some url, path⟩ content other with ⟨stored', later'⟩
        rw [first, second] at result current agree
        obtain rfl : stored' = stored := result
        cases stored' with
        | error fault => exact ⟨rfl, agree, current, rfl, rfl, rfl⟩
        | ok => exact ⟨rfl, agree, current, rfl, rfl, rfl⟩

/-- Whatever an installation meets and however it ends, it leaves everything but its footprint
alone; and a file that was left beside the path makes no difference to it, as long as the path
beside leads to that file, or the way to the path keeps clear of it. -/
theorem leaves_footprint (installer : Installer) (network : Http.Network σ) (site : Site σ) :
    Footprint installer site.volume (installer.run network site).2.volume ∧
      ∀ other, DifferBeside installer site.volume other →
        (∃ content, site.volume.read installer.stagingPath = .ok content) ∨
          KeepsClear installer site.volume →
        EndsAlike (installer.besideOf site.volume) (installer.run network site)
          (installer.run network { site with volume := other }) := by
  refine ⟨(ends_run installer network site).footprint, fun other differ readable => ?_⟩
  refine endsAlike_of_keepsClear network site differ ?_
  rcases readable with ⟨_, read⟩ | clear
  · exact keepsClear_of_read read
  · exact clear

/-- A bundle comes to a path that leads back, beside which an earlier one was cut off. -/
theorem leaves_footprint_of_cut_off :
    let installer : Installer := ⟨some "http://[::1]/b", Files.join "/data" "../data/f"⟩
    let tree : Tree := ⟨[(["data"], .directory), (["data", "f.part"], .file [111])]⟩
    let site : Site Unit := { volume := ⟨tree, []⟩, network := () }
    let other : Volume := ⟨tree.erase ["data", "f.part"], []⟩
    DifferBeside installer site.volume other ∧
      site.volume.read installer.stagingPath = .ok [111] ∧
      EndsAlike ["data", "f.part"] (installer.run (bringing [110]) site)
        (installer.run (bringing [110]) { site with volume := other }) := by
  intro installer tree site other
  have beside : installer.besideOf site.volume = ["data", "f.part"] := by decide
  have differ : DifferBeside installer site.volume other := by
    refine ⟨rfl, fun place apart => ?_, ⟨[111], by decide⟩, by decide⟩
    exact tree.lookup_erase_of_ne (beside ▸ apart)
  have read : site.volume.read installer.stagingPath = .ok [111] := by decide
  exact ⟨differ, read,
    beside ▸ (leaves_footprint installer (bringing [110]) site).2 other differ (.inl ⟨_, read⟩)⟩

end Installer

end ChatGateway
