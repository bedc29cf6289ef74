import ChatGateway.Proofs.Bundle.Collision
import ChatGateway.Proofs.Bundle.Ground
import ChatGateway.Proofs.Bundle.Promise

/-!
# Installations that overlap

If at no time two installations are both writing beside their path, only complete bundles ever stand at
the path, and both end well. Otherwise one of them fails, and what the other one moves to the path may be
incomplete.
-/

namespace ChatGateway.Installer

open Files

variable {installer : Installer} {base enclosed volume : Volume} {origin goal : Place}

/-- An installation that has come this far carries a bundle that was fetched; what it has written so
far is beside the path; and if it has failed then because of its fetch. -/
def Progress.Fits (enclosed : Volume) (origin goal : Place) (bodies : List Bytes) (volume : Volume)
    (file : Option Place) : Progress → Prop
  | running .check | running (.fetch _) | ended (.ok _) => True
  | running (.makeParents content) => content ∈ bodies
  | running (.truncate content) => content ∈ bodies ∧ Stands enclosed origin goal bodies volume
  | running (.fill _ content) => content ∈ bodies ∧ Stands enclosed origin goal bodies volume ∧
    file = some origin ∧ volume.tree.lookup origin = some (.file [])
  | running (.rename content) => content ∈ bodies ∧ Stands enclosed origin goal bodies volume ∧
    volume.tree.lookup origin = some (.file content)
  | ended (.error fault) => ∃ url cause, fault = .download url cause

/-- What an installation is staging stands beside the path. -/
theorem Progress.Fits.stands {progress : Progress} {bodies : List Bytes} {file : Option Place}
    (h : progress.Fits enclosed origin goal bodies volume file) (staging : progress.isStaging = true) :
    Stands enclosed origin goal bodies volume := by
  rcases exists_of_isStaging staging with ⟨place, content, rfl⟩ | ⟨content, rfl⟩
  · exact h.2.1
  · exact h.2.1

/-- What the other installation does is all the same to one that is not staging. -/
theorem Progress.Fits.of_change {progress : Progress} {bodies bodies' : List Bytes} {changed : Volume}
    {file file' : Option Place} (h : progress.Fits enclosed origin goal bodies volume file)
    (more : bodies ⊆ bodies')
    (stands : Stands enclosed origin goal bodies volume → Stands enclosed origin goal bodies' changed)
    (calm : progress.isStaging = true →
      changed.tree.lookup origin = volume.tree.lookup origin ∧ file' = file) :
    progress.Fits enclosed origin goal bodies' changed file' := by
  cases progress with
  | ended result => cases result <;> exact h
  | running stage =>
    cases stage with
    | check => trivial
    | fetch url => trivial
    | makeParents content => exact more h
    | truncate content => exact ⟨more h.1, stands h.2⟩
    | fill place content =>
      obtain ⟨among, standing, opened, empty⟩ := h
      obtain ⟨same, file⟩ := calm rfl
      exact ⟨more among, stands standing, file.trans opened, same.trans empty⟩
    | rename content =>
      obtain ⟨among, standing, complete⟩ := h
      exact ⟨more among, stands standing, (calm rfl).1.trans complete⟩

namespace Rivalry

variable {σ : Type} {network : Http.Network σ}

section Tidy

variable {now : Rivalry σ} {side : Side}

/-- The directories are not made yet, or are there and only a bundle is at the path; and each
installation has come to where it comes alone. -/
structure Tidy (base enclosed : Volume) (origin goal : Place) (now : Rivalry σ) : Prop where
  volume : now.site.volume = base ∨ Stands enclosed origin goal now.bodies now.site.volume
  fits : ∀ side, (now.rivals side).progress.Fits enclosed origin goal now.bodies now.site.volume
    (now.rivals side).file

/-- Two installations that have not begun are tidy. -/
theorem tidy_begin {site : Site σ} : Tidy site.volume enclosed origin goal (begin site) :=
  ⟨.inl rfl, fun _ => trivial⟩

/-- A step other than filling keeps things tidy if it does so for the installation that takes it, and
leaves the file alone that the other one is staging. -/
theorem Tidy.running (tidy : Tidy base enclosed origin goal now) {stage : Stage}
    (h : (now.rivals side).progress = .running stage)
    (closed : stage.isFill = false) {next : Progress} {site : Site σ}
    (step : installer.step network stage now.site = (next, site))
    (volume : site.volume = base ∨
      Stands enclosed origin goal (now.bodies ++ next.fetched?.toList) site.volume)
    (own : next.Fits enclosed origin goal (now.bodies ++ next.fetched?.toList) site.volume next.opened?)
    (stands : Stands enclosed origin goal now.bodies now.site.volume →
      Stands enclosed origin goal (now.bodies ++ next.fetched?.toList) site.volume)
    (calm : (now.rivals side.opposite).progress.isStaging = true →
      site.volume.tree.lookup origin = now.site.volume.tree.lookup origin ∧
        ∀ file, movedFile installer now.site.volume file next = file) :
    Tidy base enclosed origin goal (act installer network now side) := by
  rw [act_of_running h closed, step]
  refine ⟨volume, fun rival => ?_⟩
  by_cases same : rival = side
  · simp only [if_pos same]
    exact own
  · simp only [if_neg same]
    have opposite := Side.eq_opposite_of_ne same
    refine (tidy.fits rival).of_change (List.subset_append_left _ _) stands fun staging => ?_
    rw [opposite] at staging ⊢
    exact ⟨(calm staging).1, (calm staging).2 _⟩

/-- Steps that touch no file keep things tidy. -/
theorem Tidy.idle (tidy : Tidy base enclosed origin goal now) {stage : Stage}
    (h : (now.rivals side).progress = .running stage)
    (closed : stage.isFill = false) {next : Progress} {site : Site σ}
    (step : installer.step network stage now.site = (next, site))
    (untouched : site.volume = now.site.volume)
    (own : next.Fits enclosed origin goal (now.bodies ++ next.fetched?.toList) now.site.volume
      next.opened?)
    (stays : ∀ file, movedFile installer now.site.volume file next = file) :
    Tidy base enclosed origin goal (act installer network now side) := by
  refine tidy.running h closed step ?_ (untouched ▸ own) ?_ fun _ => ⟨by rw [untouched], stays⟩
  · rw [untouched]
    exact tidy.volume.imp_right Stands.mono
  · rw [untouched]
    exact Stands.mono

/-- Looking for a bundle and fetching one keeps things tidy. -/
theorem Tidy.check (tidy : Tidy base enclosed origin goal now)
    (h : (now.rivals side).progress = .running .check) :
    Tidy base enclosed origin goal (act installer network now side) := by
  cases present : now.site.volume.hasEntry installer.path with
  | true =>
    have step := step_check_of_present installer network now.site present
    exact tidy.idle h rfl step rfl trivial fun _ => rfl
  | false =>
    cases known : installer.url with
    | none =>
      have step := step_check_of_nowhere installer network now.site present known
      exact tidy.idle h rfl step rfl trivial fun _ => rfl
    | some url =>
      have step := step_check_of_absent installer network now.site present known
      exact tidy.idle h rfl step rfl trivial fun _ => rfl

/-- Fetching a bundle keeps things tidy, whether it is brought or refused. -/
theorem Tidy.fetch (tidy : Tidy base enclosed origin goal now) {url : String}
    (h : (now.rivals side).progress = .running (.fetch url)) :
    Tidy base enclosed origin goal (act installer network now side) := by
  cases brought : contentOf (download network url now.site).result with
  | error fault =>
    have step := step_fetch_of_refused installer network now.site brought
    exact tidy.idle h rfl step rfl ⟨url, fault, rfl⟩ fun _ => rfl
  | ok content =>
    have step := step_fetch_of_content installer network now.site brought
    exact tidy.idle h rfl step rfl
      (List.mem_append_right now.bodies List.mem_cons_self) fun _ => rfl

/-- An installation that is tidy fails only to fetch. -/
theorem Tidy.ended_ok (tidy : Tidy base enclosed origin goal now)
    {result : Except BundleFault BundleOutcome} (ended : (now.rivals side).progress = .ended result)
    (fetched : ∀ url cause, (now.rivals side).progress ≠ .ended (.error (.download url cause))) :
    ∃ outcome, (now.rivals side).progress = .ended (.ok outcome) := by
  have fits := tidy.fits side
  cases result with
  | ok outcome => exact ⟨outcome, ended⟩
  | error fault =>
    rw [ended] at fits
    obtain ⟨url, cause, rfl⟩ := fits
    exact absurd ended (fetched url cause)

/-- While one installation is staging, it is the other one that is not. -/
theorem opposite_idle (idle : ∃ rival, (now.rivals rival).progress.isStaging = false)
    (staging : (now.rivals side).progress.isStaging = true) :
    (now.rivals side.opposite).progress.isStaging = false := by
  obtain ⟨rival, idle⟩ := idle
  by_cases same : rival = side
  · rw [same, staging] at idle
    contradiction
  · rwa [← Side.eq_opposite_of_ne same]

section Ground

variable (ground : Ground installer base enclosed origin goal)

include ground

/-- Making the directories keeps things tidy, whether or not the other installation has made them. -/
theorem Tidy.makeParents (tidy : Tidy base enclosed origin goal now) {content : Bytes}
    (h : (now.rivals side).progress = .running (.makeParents content)) :
    Tidy base enclosed origin goal (act installer network now side) := by
  have fits := tidy.fits side
  rw [h] at fits
  have among : content ∈ now.bodies := fits
  by_cases standing : Stands enclosed origin goal now.bodies now.site.volume
  · have step : installer.step network (.makeParents content) now.site =
        (.running (.truncate content), now.site) := by
      simp only [Installer.step, standing.enclose ground]
    exact tidy.idle h rfl step rfl
      ⟨List.mem_append_left _ among, standing.mono⟩ fun _ => rfl
  · have atBase : now.site.volume = base := tidy.volume.resolve_right standing
    have step : installer.step network (.makeParents content) now.site =
        (.running (.truncate content), { now.site with volume := enclosed }) := by
      simp only [Installer.step, atBase, ground.made]
    have stands : Stands enclosed origin goal now.bodies enclosed := ground.stands
    refine tidy.running h rfl step (.inr stands.mono)
      ⟨List.mem_append_left _ among, stands.mono⟩ (fun other => absurd other standing) ?_
    exact fun staging => absurd ((tidy.fits side.opposite).stands staging) standing

/-- While the other installation is not staging, all that is done beside the path keeps things tidy. -/
theorem Tidy.truncate (tidy : Tidy base enclosed origin goal now) {content : Bytes}
    (h : (now.rivals side).progress = .running (.truncate content))
    (calm : (now.rivals side.opposite).progress.isStaging = false) :
    Tidy base enclosed origin goal (act installer network now side) := by
  have fits := tidy.fits side
  rw [h] at fits
  obtain ⟨among, standing⟩ := fits
  have step : installer.step network (.truncate content) now.site =
      (.running (.fill origin content),
        { now.site with volume := now.site.volume.fill origin [] }) := by
    simp only [Installer.step, standing.truncate ground]
  have stands := standing.fill ground []
  refine tidy.running h rfl step (.inr stands.mono)
    ⟨List.mem_append_left _ among, stands.mono, rfl, Volume.lookup_fill_self [] standing.free⟩
    (fun _ => stands.mono) fun staging => ?_
  rw [calm] at staging
  contradiction

/-- Writing a bundle keeps things tidy if the other installation is not staging. -/
theorem Tidy.fill (tidy : Tidy base enclosed origin goal now) {place : Place} {content : Bytes}
    (h : (now.rivals side).progress = .running (.fill place content))
    (calm : (now.rivals side.opposite).progress.isStaging = false) :
    Tidy base enclosed origin goal (act installer network now side) := by
  have fits := tidy.fits side
  rw [h] at fits
  obtain ⟨among, standing, opened, empty⟩ := fits
  have stands := standing.fill ground content
  rw [act_of_fill h opened, Volume.overwrite_of_empty empty]
  refine ⟨.inr stands, fun rival => ?_⟩
  by_cases same : rival = side
  · simp only [if_pos same]
    exact ⟨among, stands, Volume.lookup_fill_self content standing.free⟩
  · simp only [if_neg same]
    refine (tidy.fits rival).of_change (fun _ among => among) (fun _ => stands) fun staging => ?_
    rw [Side.eq_opposite_of_ne same, calm] at staging
    contradiction

/-- Moving a bundle keeps things tidy if the other installation is not staging. -/
theorem Tidy.rename (tidy : Tidy base enclosed origin goal now) {content : Bytes}
    (h : (now.rivals side).progress = .running (.rename content))
    (calm : (now.rivals side.opposite).progress.isStaging = false) :
    Tidy base enclosed origin goal (act installer network now side) := by
  have fits := tidy.fits side
  rw [h] at fits
  obtain ⟨among, standing, complete⟩ := fits
  obtain ⟨moved, moves, stands⟩ := standing.rename ground among complete
  have step : installer.step network (.rename content) now.site =
      (.ended (.ok (.downloaded content.length)),
        ({ now.site with volume := moved } : Site σ).note
          (installer.downloadedEvent content.length)) := by
    simp only [Installer.step, moves]
  refine tidy.running h rfl step (.inr stands.mono) trivial
    (fun _ => stands.mono) fun staging => ?_
  rw [calm] at staging
  contradiction

/-- As long as the installations are not both staging, things stay tidy. -/
theorem Tidy.act (tidy : Tidy base enclosed origin goal now)
    (before : ∃ rival, (now.rivals rival).progress.isStaging = false)
    (after : ∃ rival, ((act installer network now side).rivals rival).progress.isStaging = false) :
    Tidy base enclosed origin goal (act installer network now side) := by
  cases progress : (now.rivals side).progress with
  | ended result => rwa [act_of_ended progress]
  | running stage =>
    cases stage with
    | check => exact tidy.check progress
    | fetch url => exact tidy.fetch progress
    | makeParents content => exact tidy.makeParents ground progress
    | truncate content =>
      -- once the file is open the other one may not be staging, and this step leaves it where it was
      refine tidy.truncate ground progress ?_
      have fits := tidy.fits side
      rw [progress] at fits
      have opens : ((Rivalry.act installer network now side).rivals side).progress.isStaging = true := by
        rw [act_of_running progress rfl]
        simp only [Installer.step, fits.2.truncate ground, if_true]
        rfl
      rw [← progress_act_of_ne installer network side.opposite_ne]
      exact opposite_idle after opens
    | fill place content =>
      exact tidy.fill ground progress (opposite_idle before (by rw [progress]; rfl))
    | rename content =>
      exact tidy.rename ground progress (opposite_idle before (by rw [progress]; rfl))

/-- Installations that are never both staging stay tidy. -/
theorem Apart.tidy {site : Site σ} (atBase : site.volume = base) {schedule : List Side}
    (apart : Apart installer network site schedule) (n : Nat) :
    Tidy base enclosed origin goal (Rivalry.after installer network site schedule n) := by
  subst atBase
  -- each step is taken between two prefixes of the schedule, and at both of them one of the two is idle
  induction n with
  | zero => exact tidy_begin
  | succ n ih =>
    have before := apart n
    have later := apart (n + 1)
    rw [Rivalry.after, List.take_add_one, perform_append] at later ⊢
    cases next : schedule[n]? with
    | none => exact ih
    | some side =>
      rw [next] at later
      exact ih.act ground before later

/-- Before the directories are made there is nothing at the path either. -/
theorem Tidy.isWhole (tidy : Tidy base enclosed origin goal now)
    (absent : base.hasEntry installer.path = false) : now.IsWhole installer := by
  rcases tidy.volume with atBase | stands
  · exact .inl (by rw [atBase, absent])
  · exact stands.isWhole ground

end Ground

end Tidy

variable {site : Site σ} {schedule : List Side}

/-- Where nothing is in the way of either installation, both download their bundle and both are done,
the promise to them is kept exactly if at no time both were staging. -/
theorem keepsPromise_iff_apart (clear : Clear installer site.volume)
    (complete : ∀ side, ∃ result,
      ((perform installer network (begin site) schedule).rivals side).progress = .ended result)
    (downloads : ∀ side url cause,
      ((perform installer network (begin site) schedule).rivals side).progress ≠
        .ended (.error (.download url cause))) :
    KeepsPromise installer network site schedule ↔ Apart installer network site schedule := by
  refine ⟨KeepsPromise.apart, fun apart => ?_⟩
  obtain ⟨enclosed, origin, goal, ground⟩ := clear.exists_ground
  have tidy := apart.tidy ground rfl
  refine ⟨fun n => (tidy n).isWhole ground clear.hasEntry, fun side => ?_⟩
  obtain ⟨result, ended⟩ := complete side
  have final := tidy schedule.length
  rw [after, List.take_length] at final
  exact final.ended_ok ended (downloads side)

/-- The steps after the last one of a schedule change nothing. -/
theorem after_of_length_le {n : Nat} (h : schedule.length ≤ n) :
    after installer network site schedule n = after installer network site schedule schedule.length := by
  rw [after, after, List.take_of_length_le h, List.take_length]

/-- Two installations are apart exactly if at every time one of them is not staging. -/
theorem apart_iff : Apart installer network site schedule ↔
    ∀ n ≤ schedule.length, ∃ side ∈ [Side.one, Side.other],
      ((after installer network site schedule n).rivals side).progress.isStaging = false := by
  constructor
  · intro apart n _
    obtain ⟨side, idle⟩ := apart n
    exact ⟨side, by cases side <;> simp, idle⟩
  · intro within n
    rcases Nat.le_total n schedule.length with short | beyond
    · obtain ⟨side, _, idle⟩ := within n short
      exact ⟨side, idle⟩
    · obtain ⟨side, _, idle⟩ := within schedule.length (Nat.le_refl _)
      exact ⟨side, after_of_length_le beyond ▸ idle⟩

instance : Decidable (Apart installer network site schedule) :=
  decidable_of_iff _ apart_iff.symm

end Rivalry

/-- A bundle that belongs where no file is yet. -/
def lone : Installer := ⟨some "http://[::1]/b", "/b"⟩

/-- A site without files, at the root. -/
def bareSite : Site Unit := { volume := ⟨⟨[]⟩, []⟩, network := () }

/-- The path is clear where there are no files. -/
theorem clear_bareSite : Clear lone bareSite.volume := ⟨by decide, by decide⟩

/-- Both look, fetch and make directories side by side, and then write one after the other. -/
def inTurn : List Side :=
  [.one, .other, .one, .other, .one, .other, .one, .one, .one, .other, .other, .other]

/-- One of them has written its bundle but not moved it when the other one empties the file. -/
def entangled : List Side :=
  [.one, .one, .one, .one, .one, .other, .other, .other, .other, .one, .other, .other]

namespace Rivalry

/-- Two installations that write one after the other are apart, and so they keep the promise. -/
theorem keepsPromise_iff_apart_of_inTurn :
    let final := perform lone (bringing [110]) (begin bareSite) inTurn
    Clear lone bareSite.volume ∧
      (∀ side, ∃ result, (final.rivals side).progress = .ended result) ∧
      (∀ side url cause, (final.rivals side).progress ≠ .ended (.error (.download url cause))) ∧
      (KeepsPromise lone (bringing [110]) bareSite inTurn ↔
        Apart lone (bringing [110]) bareSite inTurn) ∧
      Apart lone (bringing [110]) bareSite inTurn := by
  intro final
  have ended : ∀ side, (final.rivals side).progress = .ended (.ok (.downloaded 1)) := by
    intro side
    cases side <;> rfl
  have complete : ∀ side, ∃ result, (final.rivals side).progress = .ended result :=
    fun side => ⟨_, ended side⟩
  have downloads : ∀ side url cause,
      (final.rivals side).progress ≠ .ended (.error (.download url cause)) := by
    intro side url cause failed
    cases (ended side).symm.trans failed
  exact ⟨clear_bareSite, complete, downloads,
    keepsPromise_iff_apart clear_bareSite complete downloads, by decide⟩

/-- Both bundles are fetched, all of either, but an empty file is moved to the path, and the
installation that emptied it finds nothing to move. -/
theorem not_keepsPromise_of_entangled :
    let final := perform lone (bringing [110]) (begin bareSite) entangled
    Clear lone bareSite.volume ∧ final.bodies = [[110], [110]] ∧
      (after lone (bringing [110]) bareSite entangled 10).site.volume.read lone.path = .ok [] ∧
      (final.rivals .one).progress = .ended (.ok (.downloaded 1)) ∧
      (final.rivals .other).progress = .ended (.error (.storage lone.path (.os .noEntry))) ∧
      ¬ KeepsPromise lone (bringing [110]) bareSite entangled := by
  intro final
  have failed : (final.rivals .other).progress =
      .ended (.error (.storage lone.path (.os .noEntry))) := rfl
  refine ⟨clear_bareSite, rfl, rfl, rfl, failed, fun kept => ?_⟩
  obtain ⟨outcome, ok⟩ := kept.ok .other
  cases ok.symm.trans failed

end Rivalry

end ChatGateway.Installer
