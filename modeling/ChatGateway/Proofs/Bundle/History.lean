import ChatGateway.Proofs.Bundle.Promise
import Mathlib.Logic.Function.Iterate

/-!
# Installations among other changes

Between installations others may write files, make directories and remove what they find. Whatever
they do, the tree stays rooted, so every installation keeps its promises. Over installations alone,
a file at the path is a bundle that one of them downloaded, or it was at its place from the start.
-/

namespace ChatGateway

namespace Files.Volume

variable {volume : Volume}

/-- Writes a file, if the path allows it. -/
def write (volume : Volume) (path : String) (content : Bytes) : Volume :=
  match volume.truncate path with
  | .ok (place, emptied) => emptied.fill place content
  | .error _ => volume

/-- Makes a directory and those around it, as far as that goes. -/
def makeDirectories (volume : Volume) (path : String) : Volume := (volume.enclose (path ++ "/_")).2

/-- Removes a file, or a directory with all that is in it. -/
def remove (volume : Volume) (path : String) : Volume :=
  match volume.locate path with
  | .ok place => { volume with tree := volume.tree.prune place }
  | .error _ => volume

/-- Writing a file keeps every entry below directories. -/
theorem rooted_write (rooted : volume.tree.Rooted) (path : String) (content : Bytes) :
    (volume.write path content).tree.Rooted := by
  unfold write
  split
  · rename_i place emptied emptying
    obtain ⟨located, free, _⟩ := truncate_eq_ok_iff.mp emptying
    rw [fill_truncate emptying]
    exact rooted.put (encloses_of_locate rooted located free) free
  · exact rooted

/-- Making directories keeps every entry below directories. -/
theorem rooted_makeDirectories (rooted : volume.tree.Rooted) (path : String) :
    (volume.makeDirectories path).tree.Rooted := by
  unfold makeDirectories
  exact (builds_enclose volume (path ++ "/_")).1.rooted rooted

/-- Removing what is at a path keeps every entry below directories. -/
theorem rooted_remove (rooted : volume.tree.Rooted) (path : String) :
    (volume.remove path).tree.Rooted := by
  unfold remove
  split
  · exact rooted.prune _
  · exact rooted

end Files.Volume

namespace Installer

variable {σ : Type}

/-- What happens at a site. -/
inductive Act where
  | install
  | write (path : String) (content : Bytes)
  | makeDirectories (path : String)
  | remove (path : String)
  deriving DecidableEq, Repr

/-- The site after an act. -/
def perform (installer : Installer) (network : Http.Network σ) (site : Site σ) : Act → Site σ
  | .install => (installer.run network site).2
  | .write path content => { site with volume := site.volume.write path content }
  | .makeDirectories path => { site with volume := site.volume.makeDirectories path }
  | .remove path => { site with volume := site.volume.remove path }

/-- The site after one act after the other. -/
def performAll (installer : Installer) (network : Http.Network σ) (acts : List Act) (site : Site σ) :
    Site σ :=
  acts.foldl (installer.perform network) site

variable (installer : Installer) (network : Http.Network σ)

/-- Every act of a process or of someone else keeps all entries below directories. -/
theorem rooted_perform {site : Site σ} (rooted : site.volume.tree.Rooted) (act : Act) :
    (installer.perform network site act).volume.tree.Rooted := by
  cases act with
  | install => exact (ends_run installer network site).rooted rooted
  | write path content => exact Files.Volume.rooted_write rooted path content
  | makeDirectories path => exact Files.Volume.rooted_makeDirectories rooted path
  | remove path => exact Files.Volume.rooted_remove rooted path

/-- However often one acts, all entries stay below directories. -/
theorem rooted_performAll {site : Site σ} (rooted : site.volume.tree.Rooted) (acts : List Act) :
    (installer.performAll network acts site).volume.tree.Rooted := by
  induction acts generalizing site with
  | nil => exact rooted
  | cons act acts ih => exact ih (installer.rooted_perform network rooted act)

/-- The site after a number of installations and nothing else. -/
def afterRuns (n : Nat) (site : Site σ) : Site σ := (fun site => (installer.run network site).2)^[n] site

/-- One more run starts from what the runs before it left. -/
theorem afterRuns_succ (n : Nat) (site : Site σ) :
    installer.afterRuns network (n + 1) site =
      (installer.run network (installer.afterRuns network n site)).2 :=
  Function.iterate_succ_apply' _ n site

/-- Runs do not move to another directory. -/
theorem current_afterRuns (n : Nat) (site : Site σ) :
    (installer.afterRuns network n site).volume.current = site.volume.current := by
  induction n with
  | zero => rfl
  | succ n ih =>
    rw [afterRuns_succ, (ends_run installer network _).current]
    exact ih

/-- One of the first installations downloaded this content. -/
def DownloadsWithin (n : Nat) (site : Site σ) (content : Bytes) : Prop :=
  ∃ k < n, installer.Fetches network (installer.afterRuns network k site) content ∧
    (installer.run network (installer.afterRuns network k site)).1 = .ok (.downloaded content.length)

/-- A file at the place of which the path speaks was downloaded, or was there from the start. -/
theorem file_afterRuns (n : Nat) (site : Site σ) {content : Bytes}
    (file : (installer.afterRuns network n site).volume.tree.lookup
      (site.volume.spokenPlace installer.path) = some (.file content)) :
    installer.DownloadsWithin network n site content ∨
      site.volume.tree.lookup (site.volume.spokenPlace installer.path) = some (.file content) := by
  induction n with
  | zero => exact .inr file
  | succ n ih =>
    have same := Files.Volume.spokenPlace_congr (installer.current_afterRuns network n site)
      installer.path
    rw [afterRuns_succ, ← same] at file
    rcases (ends_run installer network _).file file with ⟨fetches, downloaded⟩ | before
    · exact .inl ⟨n, n.lt_succ_self, fetches, downloaded⟩
    · rw [same] at before
      rcases ih before with ⟨k, earlier, downloads⟩ | start
      · exact .inl ⟨k, Nat.lt_succ_of_lt earlier, downloads⟩
      · exact .inr start

/-- What installations alone bring to the path. -/
structure Lasts (installer : Installer) (network : Http.Network σ) (site : Site σ) : Prop where
  /-- A file at the path was downloaded as a whole, or was at its place from the start. -/
  file : ∀ n content,
    (installer.afterRuns network n site).volume.read installer.path = .ok content →
      installer.DownloadsWithin network n site content ∨
        ∃ place, (installer.afterRuns network n site).volume.locate installer.path = .ok place ∧
          site.volume.tree.lookup place = some (.file content)
  /-- At a path that does not lead back, and where no file was, it was downloaded. -/
  forward : ".." ∉ Files.parts installer.path →
    (∀ content, site.volume.read installer.path ≠ .ok content) → ∀ n content,
      (installer.afterRuns network n site).volume.read installer.path = .ok content →
        installer.DownloadsWithin network n site content

/-- After any number of runs what is at the path was downloaded as a whole or was there from the start.
-/
theorem lasts_afterRuns {site : Site σ} (rooted : site.volume.tree.Rooted) :
    Lasts installer network site := by
  refine ⟨fun n content read => ?_, fun forward missing n content read => ?_⟩
  all_goals
    have current := installer.current_afterRuns network n site
    obtain ⟨located, file⟩ := Files.Volume.locate_of_read current read
    rcases installer.file_afterRuns network n site file with downloads | start
  · exact .inl downloads
  · exact .inr ⟨_, located, start⟩
  · exact downloads
  · exact absurd (Files.Volume.read_of_read_later rooted forward current read start) (missing content)

/-- After any acts, an installation keeps its promises, and so do installations alone from there. -/
theorem promises_after_acts (url : Option String) (directory name : String)
    (network : Http.Network σ) (site : Site σ) (rooted : site.volume.tree.Rooted) (acts : List Act) :
    let installer : Installer := ⟨url, Files.join directory name⟩
    let now := installer.performAll network acts site
    Promises installer network now ∧ Lasts installer network now := by
  intro installer now
  have stays : now.volume.tree.Rooted := installer.rooted_performAll network rooted acts
  exact ⟨promises_run installer network now stays, installer.lasts_afterRuns network stays⟩

/-- Others put a file and a directory at a site without any files. -/
theorem promises_after_acts_of_bare_site :
    let site : Site Unit := { volume := ⟨⟨[]⟩, []⟩, network := () }
    let acts : List Act := [.makeDirectories "/data/f.part", .write "/data/f" [111]]
    let installer : Installer := ⟨some "http://[::1]/b", Files.join "/data" "x/../f"⟩
    let now := installer.performAll (bringing [110]) acts site
    site.volume.tree.Rooted ∧ Promises installer (bringing [110]) now ∧
      Lasts installer (bringing [110]) now := by
  intro site acts installer now
  have rooted : site.volume.tree.Rooted := by
    intro place name there
    simp [site, Files.Tree.lookup] at there
  exact ⟨rooted, promises_after_acts (some "http://[::1]/b") "/data" "x/../f" (bringing [110]) site
    rooted acts⟩

end Installer

end ChatGateway
