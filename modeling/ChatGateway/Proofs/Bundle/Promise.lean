import ChatGateway.Proofs.Bundle.Storing
import Mathlib.Data.List.Induction

/-!
# What one installation promises

An installation finds something at its path, has nowhere to fetch from, fails to fetch, or fetches
a content and stores it. Only the last of these touches the files. It ends with the content at the
path, or with a fault; and after a fault any file at the path is one that was there before. If the
path does not lead back anywhere, there is none at all.

A path that leads back through a directory that is missing may come to lead to a file of others
once that directory is made; then a fault of the files leaves that file at the path.
-/

namespace ChatGateway

namespace Files

variable {tree other : Tree} {place goal : Place} {names : List String}

/-- In a rooted tree there are directories all the way to what is there. -/
theorem Tree.Rooted.above (rooted : tree.Rooted) (place : Place) {below : List String}
    (inside : below ≠ []) (found : tree.lookup (place ++ below) ≠ none) :
    tree.lookup place = some .directory := by
  induction below using List.reverseRecOn with
  | nil => contradiction
  | append_singleton front name ih =>
    rw [← List.append_assoc] at found
    have around := rooted _ _ found
    cases front with
    | nil => rwa [List.append_nil] at around
    | cons first front => exact ih (by simp) (by simp [around])

/-- Names that do not lead back lead to a place below. -/
theorem prefix_foldl_enter (forward : ".." ∉ names) (place : Place) :
    place <+: names.foldl enter place := by
  induction names generalizing place with
  | nil => exact List.prefix_rfl
  | cons name names ih =>
    rw [List.mem_cons, not_or] at forward
    refine List.IsPrefix.trans ?_ (ih forward.2 (enter place name))
    simp only [enter, Ne.symm forward.1, if_false]
    split
    · exact List.prefix_rfl
    · exact List.prefix_append _ _

/-- A path that does not lead back and could be followed elsewhere to what is no directory can be
followed in every rooted tree that has something there. -/
theorem Tree.Rooted.walk (rooted : tree.Rooted) (forward : ".." ∉ names)
    (followed : walk other place names = .ok goal) (noDirectory : other.lookup goal ≠ some .directory)
    (found : tree.lookup goal ≠ none) : Files.walk tree place names = .ok goal := by
  induction names generalizing place with
  | nil => exact followed
  | cons name names ih =>
    obtain ⟨next, hstep, hwalk⟩ := walk_cons_eq_ok_iff.mp followed
    obtain ⟨directory, short, entered⟩ := step_eq_ok_iff.mp hstep
    obtain ⟨below, rfl⟩ : place <+: goal := by
      rw [← foldl_enter_of_walk followed]
      exact prefix_foldl_enter forward place
    have inside : below ≠ [] := by
      rintro rfl
      rw [List.append_nil] at noDirectory
      exact noDirectory directory
    have here := rooted.above place inside found
    rw [List.mem_cons, not_or] at forward
    exact walk_cons_eq_ok_iff.mpr
      ⟨next, step_eq_ok_iff.mpr ⟨here, short, entered⟩, ih forward.2 hwalk⟩

namespace Volume

variable {volume later : Volume} {path : String} {content : Bytes}

/-- What a path spells does not depend on the files. -/
theorem spokenPlace_congr (same : later.current = volume.current) (path : String) :
    later.spokenPlace path = volume.spokenPlace path := by
  rw [spokenPlace, spokenPlace, start, start, same]

/-- A file that is read later is at the place of which the path speaks, if paths start where they
did. -/
theorem locate_of_read (same : later.current = volume.current) (h : later.read path = .ok content) :
    later.locate path = .ok (volume.spokenPlace path) ∧
      later.tree.lookup (volume.spokenPlace path) = some (.file content) := by
  obtain ⟨place, located, file⟩ := read_eq_ok_iff_locate.mp h
  rw [← spokenPlace_congr same, spokenPlace_of_locate located]
  exact ⟨located, file⟩

/-- A file that can be read later by a path that does not lead back, and was there before, could be
read before. -/
theorem read_of_read_later (rooted : volume.tree.Rooted) (forward : ".." ∉ parts path)
    (same : later.current = volume.current) (h : later.read path = .ok content)
    (file : volume.tree.lookup (volume.spokenPlace path) = some (.file content)) :
    volume.read path = .ok content := by
  obtain ⟨located, found⟩ := locate_of_read same h
  obtain ⟨noNul, notEmpty, short, followed⟩ := locate_eq_ok_iff.mp located
  rw [start, same, ← start] at followed
  have before := rooted.walk forward followed (by simp [found]) (by simp [file])
  exact read_eq_ok_iff_locate.mpr ⟨_, locate_eq_ok_iff.mpr ⟨noNul, notEmpty, short, before⟩, file⟩

end Volume

end Files

namespace Installer

variable {σ : Type} {installer : Installer} {network : Http.Network σ} {site after : Site σ}

/-- Where a file can be read at the path, an installation finds it. -/
theorem run_of_read (installer : Installer) (network : Http.Network σ) {site : Site σ}
    {content : Bytes} (read : site.volume.read installer.path = .ok content) :
    installer.run network site = (.ok .alreadyPresent, site.note installer.presentEvent) :=
  run_of_present installer network site
    (Files.Volume.hasEntry_eq_true_iff.mpr ⟨_, Files.Volume.read_eq_ok_iff.mp read⟩)

/-- The installation fetches this content, and all of it comes. -/
def Fetches (installer : Installer) (network : Http.Network σ) (site : Site σ) (content : Bytes) :
    Prop :=
  ∃ url final, installer.url = some url ∧ (download network url site).result = .ok final ∧
    final.received.complete = true ∧ final.received.body = content

/-- How an installation ends. -/
inductive Ends (installer : Installer) (network : Http.Network σ) (site : Site σ) :
    Except BundleFault BundleOutcome → Site σ → Prop
  | present (there : site.volume.hasEntry installer.path = true) :
    Ends installer network site (.ok .alreadyPresent) (site.note installer.presentEvent)
  | skipped (absent : site.volume.hasEntry installer.path = false) (nowhere : installer.url = none) :
    Ends installer network site (.ok .skipped) (site.note skippedEvent)
  | refused {url : String} (absent : site.volume.hasEntry installer.path = false)
    (known : installer.url = some url) (fault : Http.FetchFault) :
    Ends installer network site (.error (.download url fault)) (site.afterDownload network url)
  | failed {url : String} {content : Bytes} {fault : Files.FileFault} {volume : Files.Volume}
    (absent : site.volume.hasEntry installer.path = false) (known : installer.url = some url)
    (stores : Stores installer content (site.volume.enclose installer.path).2 (.error fault) volume) :
    Ends installer network site (.error (.storage installer.path fault))
      { site.afterDownload network url with volume }
  | installed {url : String} {content : Bytes} {volume : Files.Volume}
    (absent : site.volume.hasEntry installer.path = false) (known : installer.url = some url)
    (fetches : installer.Fetches network site content)
    (stores : Stores installer content (site.volume.enclose installer.path).2 (.ok ()) volume) :
    Ends installer network site (.ok (.downloaded content.length))
      (({ site.afterDownload network url with volume } : Site σ).note
        (installer.downloadedEvent content.length))

/-- Every run ends in one of the ways that the promise names. -/
theorem ends_run (installer : Installer) (network : Http.Network σ) (site : Site σ) :
    Ends installer network site (installer.run network site).1 (installer.run network site).2 := by
  cases present : site.volume.hasEntry installer.path with
  | true =>
    rw [run_of_present installer network site present]
    exact .present present
  | false =>
    obtain ⟨_ | url, path⟩ := installer
    · rw [run_of_nowhere network site present]
      exact .skipped present rfl
    · cases fetched : contentOf (download network url site).result with
      | error fault =>
        rw [run_of_refused network site present fetched]
        exact .refused present rfl fault
      | ok content =>
        obtain ⟨final, answered, _, _, complete, body⟩ := contentOf_eq_ok_iff.mp fetched
        have stores := stores_store ⟨some url, path⟩ content site.volume
        rw [run_of_content network site present fetched, finish_makeParents]
        simp only [Site.afterDownload] at *
        rcases stored : store ⟨some url, path⟩ content site.volume with ⟨fault | _, volume⟩
        · rw [stored] at stores
          exact .failed present rfl stores
        · rw [stored] at stores
          exact .installed present rfl ⟨url, final, rfl, answered, complete, body⟩ stores

namespace Ends

variable {result : Except BundleFault BundleOutcome}

/-- The bundle is found present exactly if there is something at its path. -/
theorem present_iff (h : Ends installer network site result after) :
    result = .ok .alreadyPresent ↔ site.volume.hasEntry installer.path = true := by
  cases h <;> simp_all

/-- The bundle is skipped exactly if there is nothing at its path and no address to load it from. -/
theorem skipped_iff (h : Ends installer network site result after) :
    result = .ok .skipped ↔ site.volume.hasEntry installer.path = false ∧ installer.url = none := by
  cases h <;> simp_all

/-- Without a download, nothing is touched and nothing is sent. -/
theorem untouched (h : Ends installer network site result after)
    (quiet : result = .ok .alreadyPresent ∨ result = .ok .skipped) :
    after.volume = site.volume ∧ after.network = site.network ∧ after.sent = site.sent := by
  cases h with
  | present | skipped => exact ⟨rfl, rfl, rfl⟩
  | _ => simp at quiet

/-- A bundle that is refused changes no file. -/
theorem volume_of_refused {url : String} {fault : Http.FetchFault}
    (h : Ends installer network site (.error (.download url fault)) after) :
    after.volume = site.volume := by
  cases h with
  | refused => rfl

/-- What was downloaded is at the path, and nothing is beside it. -/
theorem read_of_downloaded {size : Nat}
    (h : Ends installer network site (.ok (.downloaded size)) after) :
    ∃ content, installer.Fetches network site content ∧ size = content.length ∧
      after.volume.read installer.path = .ok content ∧
      after.volume.hasEntry installer.stagingPath = false := by
  cases h with
  | installed absent known fetches stores =>
    exact ⟨_, fetches, rfl, stores.read.1, stores.read.2⟩

/-- A run stays in its directory. -/
theorem current (h : Ends installer network site result after) :
    after.volume.current = site.volume.current := by
  have enclosed := (Files.Volume.builds_enclose site.volume installer.path).2
  cases h with
  | present | skipped | refused => rfl
  | failed _ _ stores => exact stores.current.trans enclosed
  | installed _ _ _ stores => exact stores.current.trans enclosed

/-- An installation keeps the tree rooted. -/
theorem rooted (h : Ends installer network site result after) (rooted : site.volume.tree.Rooted) :
    after.volume.tree.Rooted := by
  have enclosed := (Files.Volume.builds_enclose site.volume installer.path).1.rooted rooted
  cases h with
  | present | skipped | refused => exact rooted
  | failed _ _ stores => exact stores.rooted enclosed
  | installed _ _ _ stores => exact stores.rooted enclosed

/-- After a fault of the files, a file at the place of which the path speaks was there before. -/
theorem file_of_storage {path : String} {fault : Files.FileFault} {content : Bytes}
    (h : Ends installer network site (.error (.storage path fault)) after)
    (file : after.volume.tree.lookup (site.volume.spokenPlace installer.path) = some (.file content)) :
    site.volume.tree.lookup (site.volume.spokenPlace installer.path) = some (.file content) := by
  obtain ⟨builds, unmoved⟩ := Files.Volume.builds_enclose site.volume installer.path
  cases h with
  | failed _ _ stores =>
    rw [← Files.Volume.spokenPlace_congr unmoved] at file ⊢
    exact builds.file (stores.file_of_error file)

/-- A file at the place of which the path speaks was downloaded just now, or was there before. -/
theorem file (h : Ends installer network site result after) {content : Bytes}
    (file : after.volume.tree.lookup (site.volume.spokenPlace installer.path) = some (.file content)) :
    (installer.Fetches network site content ∧ result = .ok (.downloaded content.length)) ∨
      site.volume.tree.lookup (site.volume.spokenPlace installer.path) = some (.file content) := by
  cases h with
  | present | skipped | refused => exact .inr file
  | failed absent known stores => exact .inr ((failed absent known stores).file_of_storage file)
  | @installed url content volume absent known fetches stores =>
    have same : volume.current = site.volume.current :=
      (installed absent known fetches stores).current
    obtain ⟨_, stored⟩ := Files.Volume.locate_of_read same stores.read.1
    cases stored.symm.trans file
    exact .inl ⟨fetches, rfl⟩

end Ends

/-- A fault of the files leaves no file at the path. -/
def LeavesNoFile (installer : Installer) (network : Http.Network σ) (site : Site σ) : Prop :=
  ∀ path fault, (installer.run network site).1 = .error (.storage path fault) →
    ∀ content, (installer.run network site).2.volume.read installer.path ≠ .ok content

/-- What an installation promises, whatever it meets. -/
structure Promises (installer : Installer) (network : Http.Network σ) (site : Site σ) : Prop where
  present : (installer.run network site).1 = .ok .alreadyPresent ↔
    site.volume.hasEntry installer.path = true
  skipped : (installer.run network site).1 = .ok .skipped ↔
    site.volume.hasEntry installer.path = false ∧ installer.url = none
  /-- In both cases no file is touched and nothing is sent. -/
  untouched : (installer.run network site).1 = .ok .alreadyPresent ∨
      (installer.run network site).1 = .ok .skipped →
    (installer.run network site).2.volume = site.volume ∧
      (installer.run network site).2.network = site.network ∧
      (installer.run network site).2.sent = site.sent
  /-- A bundle that was downloaded is at the path, nothing is beside it, and another installation
  finds it without asking anyone. -/
  downloaded : ∀ size, (installer.run network site).1 = .ok (.downloaded size) →
    let after := (installer.run network site).2
    ∃ content, installer.Fetches network site content ∧ size = content.length ∧
      after.volume.read installer.path = .ok content ∧
      after.volume.hasEntry installer.stagingPath = false ∧
      (installer.run network after).1 = .ok .alreadyPresent ∧
      (installer.run network after).2.sent = after.sent
  refused : ∀ url fault, (installer.run network site).1 = .error (.download url fault) →
    (installer.run network site).2.volume = site.volume
  /-- A file at the path after a fault of the files was at its place before. -/
  failed : ∀ path fault, (installer.run network site).1 = .error (.storage path fault) →
    ∀ content, (installer.run network site).2.volume.read installer.path = .ok content →
      ∃ place, (installer.run network site).2.volume.locate installer.path = .ok place ∧
        site.volume.tree.lookup place = some (.file content)
  forward : ".." ∉ Files.parts installer.path → LeavesNoFile installer network site

/-- An installation of a path that does not lead back leaves no file after a fault. -/
theorem leavesNoFile_of_forward (rooted : site.volume.tree.Rooted)
    (forward : ".." ∉ Files.parts installer.path) : LeavesNoFile installer network site := by
  intro path fault failed content read
  have ends := ends_run installer network site
  rw [failed] at ends
  obtain ⟨_, file⟩ := Files.Volume.locate_of_read ends.current read
  have before := Files.Volume.read_of_read_later rooted forward ends.current read
    (ends.file_of_storage file)
  rw [run_of_read installer network before] at failed
  contradiction

/-- A network on which every answer brings the same bundle. -/
def bringing (content : Bytes) : Http.Network Unit :=
  ⟨fun _ state => (.answered { status := 200, headers := [], body := content }, state)⟩

/-- The directories around a path that leads back are made, the bundle cannot be written beside it,
and then the path leads to a file of others. -/
theorem not_leavesNoFile_of_way_back :
    ¬ LeavesNoFile ⟨some "http://[::1]/b", Files.join "/data" "x/../f"⟩ (bringing [110])
      { volume := ⟨⟨[(["data"], .directory), (["data", "f"], .file [111]),
          (["data", "f.part"], .directory)]⟩, []⟩, network := () } := by
  let site : Site Unit :=
    { volume := ⟨⟨[(["data"], .directory), (["data", "f"], .file [111]),
        (["data", "f.part"], .directory)]⟩, []⟩, network := () }
  let installer : Installer := ⟨some "http://[::1]/b", "/data/x/../f"⟩
  let url : Http.Url := { scheme := "http", host := some "[::1]", path := .names ["b"] }
  have read : Http.Url.parse? "http://[::1]/b" = some url := by decide
  have usable : Http.Client.isUsable url = true := by decide
  have plain : Http.Client.withCredentials url [] = (url, []) := rfl
  have fetched : (download (bringing [110]) "http://[::1]/b" site).result =
      .ok ⟨{ status := 200, headers := [], body := [110] }, url⟩ := by
    simp only [download, Http.Client.send, read, plain, usable, if_true]
    rfl
  have accepted : contentOf (download (bringing [110]) "http://[::1]/b" site).result = .ok [110] := by
    rw [fetched]
    rfl
  have absent : site.volume.hasEntry "/data/x/../f" = false := by decide
  have stored : (installer.store [110] site.volume).1 = .error (.os .isDirectory) := by decide
  have found : (installer.store [110] site.volume).2.read installer.path = .ok [111] := by decide
  rcases storing : installer.store [110] site.volume with ⟨result, volume⟩
  rw [storing] at stored found
  cases stored
  have run_eq : installer.run (bringing [110]) site =
      (.error (.storage installer.path (.os .isDirectory)),
        { site.afterDownload (bringing [110]) "http://[::1]/b" with volume }) := by
    rw [run_of_content (bringing [110]) site absent accepted, finish_makeParents]
    simp only [Site.afterDownload, installer, storing]
  intro leaves
  have missing := leaves installer.path (.os .isDirectory) (congrArg Prod.fst run_eq) [111]
  change (installer.run (bringing [110]) site).2.volume.read installer.path ≠ .ok [111] at missing
  rw [run_eq] at missing
  exact missing found

/-- An installation keeps its promises on every rooted tree. -/
theorem promises_run (installer : Installer) (network : Http.Network σ) (site : Site σ)
    (rooted : site.volume.tree.Rooted) : Promises installer network site := by
  have ends := ends_run installer network site
  refine ⟨ends.present_iff, ends.skipped_iff, ends.untouched, ?_, ?_, ?_,
    leavesNoFile_of_forward rooted⟩
  · intro size downloaded after
    rw [downloaded] at ends
    obtain ⟨content, fetches, sized, read, clean⟩ := ends.read_of_downloaded
    have again := run_of_read installer network read
    exact ⟨content, fetches, sized, read, clean, congrArg Prod.fst again,
      congrArg (fun run => run.2.sent) again⟩
  · intro url fault refused
    rw [refused] at ends
    exact ends.volume_of_refused
  · intro path fault failed content read
    rw [failed] at ends
    obtain ⟨located, file⟩ := Files.Volume.locate_of_read ends.current read
    exact ⟨_, located, ends.file_of_storage file⟩

end Installer

end ChatGateway
