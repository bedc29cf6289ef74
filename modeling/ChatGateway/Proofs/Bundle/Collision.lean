import ChatGateway.Proofs.Bundle.Rivals

/-!
# Installations that collide

Two installations write beside their path under the same name. If at any moment both have opened that
file and neither has moved it, one of them fails: only one of them finds it to be moved.
-/

namespace ChatGateway.Installer

open Files

variable (installer : Installer)

/-- The installation has opened the file beside its path and has not moved it yet. -/
def Progress.isStaging : Progress → Bool
  | running (.fill _ _) | running (.rename _) => true
  | _ => false

/-- An installation that is staging is about to write the bundle or to move it. -/
theorem exists_of_isStaging {progress : Progress} (h : progress.isStaging = true) :
    (∃ place content, progress = .running (.fill place content)) ∨
      ∃ content, progress = .running (.rename content) := by
  cases progress with
  | ended result => contradiction
  | running stage =>
    cases stage with
    | fill place content => exact .inl ⟨place, content, rfl⟩
    | rename content => exact .inr ⟨content, rfl⟩
    | _ => contradiction

namespace Rivalry

variable {σ : Type} (network : Http.Network σ)

/-- Nothing is at the path, or a bundle that was fetched, and all of it. -/
def IsWhole (now : Rivalry σ) : Prop :=
  now.site.volume.hasEntry installer.path = false ∨
    ∃ body ∈ now.bodies, now.site.volume.read installer.path = .ok body

/-- The rivals after as many steps of a schedule. -/
def after (site : Site σ) (schedule : List Side) (n : Nat) : Rivalry σ :=
  perform installer network (begin site) (schedule.take n)

/-- What is promised to rivals: at no time is anything but a whole bundle at the path, and both
installations end well. -/
structure KeepsPromise (site : Site σ) (schedule : List Side) : Prop where
  whole : ∀ n, (after installer network site schedule n).IsWhole installer
  ok : ∀ side, ∃ outcome,
    ((perform installer network (begin site) schedule).rivals side).progress = .ended (.ok outcome)

/-- At no time are both installations staging. -/
def Apart (site : Site σ) (schedule : List Side) : Prop :=
  ∀ n, ∃ side, ((after installer network site schedule n).rivals side).progress.isStaging = false

section Spoilt

variable {installer network} {now : Rivalry σ} {side : Side}

/-- Nothing is beside the path. -/
def IsBare (installer : Installer) (volume : Volume) : Prop :=
  ∃ place, volume.locate installer.stagingPath = .ok place ∧ volume.tree.lookup place = none

/-- Nothing is beside the path after the staged file was moved to it. -/
theorem isBare_of_rename {volume moved : Volume}
    (h : volume.rename installer.stagingPath installer.path = .ok moved) : IsBare installer moved := by
  obtain ⟨origin, _, _, renamed⟩ := exists_of_rename h
  exact ⟨origin, renamed.beside, renamed.nothing⟩

/-- With nothing beside the path there is nothing that could be moved to it. -/
theorem IsBare.rename_ne_ok {volume : Volume} (bare : IsBare installer volume) (moved : Volume) :
    volume.rename installer.stagingPath installer.path ≠ .ok moved := by
  intro moves
  obtain ⟨place, beside, nothing⟩ := bare
  obtain ⟨origin, _, _, renamed⟩ := exists_of_rename moves
  cases renamed.located.symm.trans beside
  cases renamed.there.symm.trans nothing

/-- An open file is nowhere, or somewhere else. -/
theorem IsBare.overwrite {volume : Volume} (bare : IsBare installer volume) (there : Place)
    (content : Bytes) : IsBare installer (volume.overwrite there content) := by
  obtain ⟨place, beside, nothing⟩ := bare
  unfold Volume.overwrite
  split
  · rename_i old found
    have free : volume.tree.lookup there ≠ some .directory := by simp [found]
    have apart : place ≠ there := by
      rintro rfl
      cases nothing.symm.trans found
    refine ⟨place, volume.locate_of_keepsDirectories (keepsDirectories_put _ free) beside, ?_⟩
    rw [Volume.fill, Tree.lookup_put_of_ne _ _ apart, nothing]
  · exact ⟨place, beside, nothing⟩

/-- One of the installations fails or has failed: both are staging, or one of them is and nothing is
left to be moved, or one has failed. -/
inductive Spoilt (installer : Installer) (now : Rivalry σ) : Prop
  | both (staging : ∀ side, (now.rivals side).progress.isStaging = true)
  | bereft {side : Side} (staging : (now.rivals side).progress.isStaging = true)
    (ended : ∃ result, (now.rivals side.opposite).progress = .ended result)
    (bare : IsBare installer now.site.volume)
  | failed {side : Side} {fault : BundleFault}
    (failed : (now.rivals side).progress = .ended (.error fault))

/-- The first of two that moves the file leaves the other one nothing to move. -/
theorem spoilt_of_both (staging : ∀ side, (now.rivals side).progress.isStaging = true) (side : Side) :
    Spoilt installer (act installer network now side) := by
  have waits : ∀ rival, rival ≠ side →
      ((act installer network now side).rivals rival).progress.isStaging = true := by
    intro rival other
    rw [progress_act_of_ne installer network other]
    exact staging rival
  rcases exists_of_isStaging (staging side) with ⟨place, content, filling⟩ | ⟨content, moving⟩
  · refine .both fun rival => ?_
    by_cases same : rival = side
    · rw [same, progress_act_of_fill installer network filling]
      rfl
    · exact waits rival same
  · cases moves : now.site.volume.rename installer.stagingPath installer.path with
    | error fault => exact .failed (act_of_unrenamed moving moves)
    | ok moved =>
      obtain ⟨ended, volume, _⟩ := act_of_renamed network moving moves
      refine .bereft (waits side.opposite side.opposite_ne) ?_ (volume ▸ isBare_of_rename moves)
      rw [side.opposite_opposite]
      exact ⟨_, ended⟩

/-- The one that has nothing to move can only write to its open file before it fails. -/
theorem spoilt_of_bereft (staging : (now.rivals side).progress.isStaging = true)
    (ended : ∃ result, (now.rivals side.opposite).progress = .ended result)
    (bare : IsBare installer now.site.volume) (rival : Side) :
    Spoilt installer (act installer network now rival) := by
  by_cases same : rival = side
  · subst same
    rcases exists_of_isStaging staging with ⟨opened, content, filling⟩ | ⟨content, moving⟩
    · have later := progress_act_of_fill installer network filling
      refine .bereft (congrArg Progress.isStaging later) ?_ ?_
      · rwa [progress_act_of_ne installer network rival.opposite_ne]
      · rcases volume_act_of_fill installer network filling with unwritten | ⟨there, written⟩
        · rwa [unwritten]
        · rw [written]
          exact bare.overwrite there content
    · cases moves : now.site.volume.rename installer.stagingPath installer.path with
      | error fault => exact .failed (act_of_unrenamed moving moves)
      | ok moved => exact absurd moves (bare.rename_ne_ok moved)
  · have opposite := Side.eq_opposite_of_ne same
    obtain ⟨result, done⟩ := ended
    rw [opposite, act_of_ended done]
    exact .bereft staging ⟨result, done⟩ bare

/-- Once both are staging, one of them fails. -/
theorem Spoilt.act (h : Spoilt installer now) (side : Side) :
    Spoilt installer (act installer network now side) := by
  cases h with
  | both staging => exact spoilt_of_both staging side
  | bereft staging ended bare => exact spoilt_of_bereft staging ended bare side
  | @failed failing fault failed =>
    by_cases same : failing = side
    · subst same
      rw [act_of_ended failed]
      exact .failed failed
    · exact .failed ((progress_act_of_ne installer network same).trans failed)

variable (network) in

/-- Once spoilt, two installations stay so in whatever order they go on. -/
theorem Spoilt.perform (h : Spoilt installer now) (schedule : List Side) :
    Spoilt installer (perform installer network now schedule) := by
  induction schedule generalizing now with
  | nil => exact h
  | cons side rest ih => exact ih (h.act side)

/-- When both have ended then, one of them has failed. -/
theorem Spoilt.failed_of_ended (h : Spoilt installer now)
    (ended : ∀ side, ∃ result, (now.rivals side).progress = .ended result) :
    ∃ side fault, (now.rivals side).progress = .ended (.error fault) := by
  have notStaging (side : Side) : (now.rivals side).progress.isStaging = false := by
    obtain ⟨result, progress⟩ := ended side
    rw [progress]
    rfl
  cases h with
  | both staging => exact absurd (staging .one) (by simp [notStaging])
  | bereft staging => exact absurd staging (by simp [notStaging])
  | failed failed => exact ⟨_, _, failed⟩

/-- If both end well they were never staging at the same time. -/
theorem KeepsPromise.apart {site : Site σ} {schedule : List Side}
    (kept : KeepsPromise installer network site schedule) : Apart installer network site schedule := by
  intro n
  have notBoth : ¬ ∀ side,
      ((after installer network site schedule n).rivals side).progress.isStaging = true := by
    intro staging
    have both : Spoilt installer (after installer network site schedule n) := .both staging
    have spoilt := both.perform network (schedule.drop n)
    rw [after, ← perform_append, List.take_append_drop] at spoilt
    obtain ⟨side, fault, failed⟩ :=
      spoilt.failed_of_ended fun side => (kept.ok side).imp' Except.ok fun _ ok => ok
    obtain ⟨outcome, ok⟩ := kept.ok side
    cases ok.symm.trans failed
  cases one : ((after installer network site schedule n).rivals .one).progress.isStaging with
  | false => exact ⟨.one, one⟩
  | true =>
    refine ⟨.other, Bool.eq_false_iff.mpr fun other => notBoth fun side => ?_⟩
    cases side with
    | one => exact one
    | other => exact other

end Spoilt

end Rivalry

end ChatGateway.Installer
