import ChatGateway.Proofs.Bundle.Storing

/-!
# Two installations at once

Two installations of the same bundle share the files and the network, and either of them may take the
next step. A file that one of them has opened stays open wherever it is moved: what is written to it
comes to the place where it then is.

As long as only one of them takes steps, this is the installation that is performed alone.
-/

namespace ChatGateway

namespace Files.Volume

/-- Writes over what the file at a place holds, from its start on. -/
def overwrite (volume : Volume) (place : Place) (content : Bytes) : Volume :=
  match volume.tree.lookup place with
  | some (.file old) => volume.fill place (content ++ old.drop content.length)
  | _ => volume

/-- Where the file at a place is after the file of one path was moved over the other path. What was at
the other path is nowhere any more. -/
def placeAfter (volume : Volume) (source target : String) (place : Place) : Option Place :=
  match volume.locate source, volume.locate target with
  | .ok origin, .ok goal =>
    if place = goal then none else if place = origin then some goal else some place
  | _, _ => some place

/-- Writing over a file replaces its front and keeps what is longer than the new content. -/
theorem overwrite_of_file {volume : Volume} {place : Place} {old : Bytes}
    (h : volume.tree.lookup place = some (.file old)) (content : Bytes) :
    volume.overwrite place content = volume.fill place (content ++ old.drop content.length) := by
  rw [overwrite, h]

/-- A file that was just emptied is filled. -/
theorem overwrite_of_empty {volume : Volume} {place : Place}
    (h : volume.tree.lookup place = some (.file [])) (content : Bytes) :
    volume.overwrite place content = volume.fill place content := by
  rw [overwrite_of_file h, List.drop_nil, List.append_nil]

/-- A file that was emptied is empty. -/
theorem lookup_truncate {volume changed : Volume} {path : String} {place : Place}
    (h : volume.truncate path = .ok (place, changed)) :
    changed.tree.lookup place = some (.file []) := by
  obtain ⟨_, noDirectory, rfl⟩ := truncate_eq_ok_iff.mp h
  exact Tree.lookup_put_self _ _ (Tree.ne_nil_of_noDirectory noDirectory)

end Files.Volume

namespace Installer

open Files

/-- The two installations. -/
inductive Side where
  | one
  | other
  deriving DecidableEq

/-- The other one of the two. -/
def Side.opposite : Side → Side
  | one => other
  | other => one

/-- No side is opposite to itself. -/
theorem Side.opposite_ne (side : Side) : side.opposite ≠ side := by
  cases side <;> decide

/-- The side opposite to the opposite one is the side itself. -/
theorem Side.opposite_opposite (side : Side) : side.opposite.opposite = side := by
  cases side <;> rfl

/-- Of two sides the one that is not this one is the opposite one. -/
theorem Side.eq_opposite_of_ne {side rival : Side} (h : rival ≠ side) : rival = side.opposite := by
  cases side <;> cases rival <;> first | rfl | exact absurd rfl h

/-- How far an installation has come, and where the file is that it has open. -/
structure Rival where
  progress : Progress := .running .check
  file : Option Place := none

/-- Two installations, what they share, and the bundles that were fetched. -/
structure Rivalry (σ : Type) where
  rivals : Side → Rival
  site : Site σ
  bodies : List Bytes := []

/-- The place of a file that was just opened. -/
def Progress.opened? : Progress → Option Place
  | running (.fill place _) => some place
  | _ => none

/-- Whether a stage writes to an open file. -/
def Stage.isFill : Stage → Bool
  | .fill _ _ => true
  | _ => false

/-- A stage that fills knows its place and its content. -/
theorem Stage.exists_of_isFill {stage : Stage} (h : stage.isFill = true) :
    ∃ place content, stage = .fill place content := by
  cases stage with
  | fill place content => exact ⟨place, content, rfl⟩
  | _ => contradiction

/-- The bundle that was just fetched. -/
def Progress.fetched? : Progress → Option Bytes
  | running (.makeParents content) => some content
  | _ => none

namespace Rivalry

variable {σ : Type}

/-- Both installations are about to start. -/
def begin (site : Site σ) : Rivalry σ := { rivals := fun _ => {}, site }

variable (installer : Installer) (network : Http.Network σ)

/-- Where the open file of an installation is after the other one has come this far. -/
def movedFile (volume : Volume) (file : Option Place) : Progress → Option Place
  | .ended (.ok (.downloaded _)) =>
    file.bind (volume.placeAfter installer.stagingPath installer.path)
  | _ => file

/-- One of the installations takes its next step. -/
def act (now : Rivalry σ) (side : Side) : Rivalry σ :=
  match (now.rivals side).progress with
  | .ended _ => now
  | .running (.fill _ content) =>
    let volume := match (now.rivals side).file with
      | some place => now.site.volume.overwrite place content
      | none => now.site.volume
    { now with
      rivals := fun rival =>
        if rival = side then { progress := .running (.rename content) } else now.rivals rival
      site := { now.site with volume } }
  | .running stage =>
    let next := installer.step network stage now.site
    { rivals := fun rival =>
        if rival = side then { progress := next.1, file := next.1.opened? }
        else { now.rivals rival with
          file := movedFile installer now.site.volume (now.rivals rival).file next.1 }
      site := next.2
      bodies := now.bodies ++ next.1.fetched?.toList }

/-- The installations take their steps in this order. -/
def perform (now : Rivalry σ) (schedule : List Side) : Rivalry σ :=
  schedule.foldl (act installer network) now

section Steps

variable {installer network} {now : Rivalry σ} {side rival : Side}

/-- An installation that has ended takes no step. -/
theorem act_of_ended {result : Except BundleFault BundleOutcome}
    (h : (now.rivals side).progress = .ended result) : act installer network now side = now := by
  simp only [act, h]

/-- An open file is written where it is. -/
theorem act_of_fill {place there : Place} {content : Bytes}
    (h : (now.rivals side).progress = .running (.fill place content))
    (opened : (now.rivals side).file = some there) :
    act installer network now side =
      { now with
        rivals := fun rival =>
          if rival = side then { progress := .running (.rename content) } else now.rivals rival
        site := { now.site with volume := now.site.volume.overwrite there content } } := by
  simp only [act, h, opened]

/-- All other steps are those of an installation alone. -/
theorem act_of_running {stage : Stage} (h : (now.rivals side).progress = .running stage)
    (closed : stage.isFill = false) :
    act installer network now side =
      let next := installer.step network stage now.site
      { rivals := fun rival =>
          if rival = side then { progress := next.1, file := next.1.opened? }
          else { now.rivals rival with
            file := movedFile installer now.site.volume (now.rivals rival).file next.1 }
        site := next.2
        bodies := now.bodies ++ next.1.fetched?.toList } := by
  cases stage with
  | fill place content => contradiction
  | _ => simp only [act, h]

variable (installer network) in
/-- The other installation comes no further. -/
theorem progress_act_of_ne (h : rival ≠ side) :
    ((act installer network now side).rivals rival).progress = (now.rivals rival).progress := by
  cases progress : (now.rivals side).progress with
  | ended result => rw [act_of_ended progress]
  | running stage => cases stage <;> simp only [act, progress, if_neg h]

variable (network) in
/-- A file that is moved ends an installation well. -/
theorem act_of_renamed {content : Bytes} {moved : Volume}
    (h : (now.rivals side).progress = .running (.rename content))
    (renamed : now.site.volume.rename installer.stagingPath installer.path = .ok moved) :
    let later := act installer network now side
    (later.rivals side).progress = .ended (.ok (.downloaded content.length)) ∧
      later.site.volume = moved ∧ later.bodies = now.bodies := by
  intro later
  have stepped : later = _ := act_of_running h rfl
  rw [stepped]
  simp only [step, renamed, if_true]
  exact ⟨trivial, rfl, List.append_nil _⟩

/-- A file that cannot be moved ends it with a fault. -/
theorem act_of_unrenamed {content : Bytes} {fault : FileFault}
    (h : (now.rivals side).progress = .running (.rename content))
    (refused : now.site.volume.rename installer.stagingPath installer.path = .error fault) :
    ((act installer network now side).rivals side).progress =
      .ended (.error (.storage installer.path fault)) := by
  rw [act_of_running h rfl]
  simp only [step, refused, if_true]
  rfl

variable (installer network) in
/-- A file that is filled is moved next, whether it is where it was opened or not. -/
theorem progress_act_of_fill {place : Place} {content : Bytes}
    (h : (now.rivals side).progress = .running (.fill place content)) :
    ((act installer network now side).rivals side).progress = .running (.rename content) := by
  simp only [act, h, if_true]

variable (installer network) in
/-- Filling writes where the open file is, if it is anywhere. -/
theorem volume_act_of_fill {place : Place} {content : Bytes}
    (h : (now.rivals side).progress = .running (.fill place content)) :
    (act installer network now side).site.volume = now.site.volume ∨
      ∃ there, (act installer network now side).site.volume =
        now.site.volume.overwrite there content := by
  cases opened : (now.rivals side).file with
  | none => exact .inl (by simp only [act, h, opened])
  | some there => exact .inr ⟨there, by rw [act_of_fill h opened]⟩

/-- The first of several steps is made first. -/
theorem perform_cons (first : Side) (schedule : List Side) :
    perform installer network now (first :: schedule) =
      perform installer network (act installer network now first) schedule := rfl

/-- Steps that follow others go on from what those left. -/
theorem perform_append (first second : List Side) :
    perform installer network now (first ++ second) =
      perform installer network (perform installer network now first) second :=
  List.foldl_append

/-- A file that an installation is about to fill is the empty one that it has opened. -/
def Opened (now : Rivalry σ) (side : Side) : Prop :=
  ∀ place content, (now.rivals side).progress = .running (.fill place content) →
    (now.rivals side).file = some place ∧ now.site.volume.tree.lookup place = some (.file [])

/-- A step that opens a file has emptied it. -/
theorem lookup_of_step {stage : Stage} {site : Site σ} {place : Place} {content : Bytes}
    (h : (installer.step network stage site).1 = .running (.fill place content)) :
    (installer.step network stage site).2.volume.tree.lookup place = some (.file []) := by
  cases stage with
  | truncate carried =>
    simp only [step] at h ⊢
    split at h
    · cases h
    · rename_i emptied
      cases h
      exact Volume.lookup_truncate emptied
  | check =>
    simp only [step] at h
    split at h
    · cases h
    · split at h <;> cases h
  | fill place content => cases h
  | _ =>
    simp only [step] at h
    split at h <;> cases h

variable (installer network) in
/-- Undisturbed, an installation takes the step that it takes alone. -/
theorem Opened.act (opened : now.Opened side) {stage : Stage}
    (h : (now.rivals side).progress = .running stage) :
    let next := installer.step network stage now.site
    let later := act installer network now side
    (later.rivals side).progress = next.1 ∧ later.site = next.2 ∧ later.Opened side := by
  intro next later
  cases closed : stage.isFill with
  | true =>
    obtain ⟨place, content, rfl⟩ := Stage.exists_of_isFill closed
    obtain ⟨file, empty⟩ := opened place content h
    have written : later = _ := act_of_fill h file
    rw [written, Volume.overwrite_of_empty empty]
    simp only [if_true, Opened]
    exact ⟨rfl, rfl, fun _ _ filled => by cases filled⟩
  | false =>
    have stepped : later = _ := act_of_running h closed
    rw [stepped]
    simp only [if_true, Opened]
    refine ⟨rfl, rfl, fun place content filled => ?_⟩
    rw [filled]
    exact ⟨rfl, lookup_of_step filled⟩

/-- Undisturbed, an installation ends as it does alone. -/
theorem Opened.perform (opened : now.Opened side) {n : Nat}
    (enough : (now.rivals side).progress.left ≤ n) :
    let alone := installer.finish network (now.rivals side).progress now.site
    let after := perform installer network now (List.replicate n side)
    (after.rivals side).progress = .ended alone.1 ∧ after.site = alone.2 := by
  induction n generalizing now with
  | zero =>
    cases progress : (now.rivals side).progress with
    | ended result => rw [finish_ended]; exact ⟨progress, rfl⟩
    | running stage =>
      have running := installer.left_step_lt network stage now.site
      rw [progress] at enough
      omega
  | succ n ih =>
    rw [List.replicate_succ, perform_cons]
    cases progress : (now.rivals side).progress with
    | ended result =>
      have stays : Rivalry.act installer network now side = now := act_of_ended progress
      have done := ih opened (progress ▸ Nat.zero_le n)
      rw [progress] at done
      rwa [stays]
    | running stage =>
      obtain ⟨next, site, later⟩ := opened.act installer network progress
      have nearer := installer.left_step_lt network stage now.site
      rw [progress] at enough
      have done := ih later (by rw [next]; omega)
      rw [next, site] at done
      rwa [finish_running]

/-- If one of them waits until the other one has ended, that one ends as it does alone. -/
theorem perform_alone (site : Site σ) (side : Side) :
    let after := perform installer network (begin site) (List.replicate 6 side)
    (after.rivals side).progress = .ended (installer.run network site).1 ∧
      after.site = (installer.run network site).2 := by
  have opened : (begin site).Opened side := by
    intro place content filled
    cases filled
  exact opened.perform (Nat.le_refl 6)

end Steps

end Rivalry

end Installer

end ChatGateway
