import ChatGateway.Application.Startup

/-!
# How a start ends

A start makes the responder, installs the bundle and opens the listener, in this order. It succeeds
exactly if each of the three does. The first that does not ends the start with an internal failure,
and leaves what the stages before it left: without a responder nothing was sent and no file was
touched, and without a bundle no listener was opened.

What is logged on the way plays no part in it, so an installation within a start is the one that the
site alone decides.
-/

namespace ChatGateway

namespace Installer

variable {σ : Type}

/-- Two sites are the same but for what was logged there. -/
structure Site.SameButLog (a b : Site σ) : Prop where
  volume : a.volume = b.volume
  network : a.network = b.network
  sent : a.sent = b.sent

namespace Site.SameButLog

variable {a b c : Site σ}

/-- A site differs from itself at most in its log. -/
theorem refl (a : Site σ) : SameButLog a a := ⟨rfl, rfl, rfl⟩

/-- Sites that each differ at most in their logs from a third one do so from each other. -/
theorem trans (h : SameButLog a b) (h' : SameButLog b c) : SameButLog a c :=
  ⟨h.volume.trans h'.volume, h.network.trans h'.network, h.sent.trans h'.sent⟩

/-- A note in the log changes nothing else of a site. -/
theorem note (a : Site σ) (event : LogEvent) : SameButLog (a.note event) a := ⟨rfl, rfl, rfl⟩

end Site.SameButLog

variable (installer : Installer) (network : Http.Network σ) {a b : Site σ}

/-- A step does not look at the log. -/
theorem step_congr (same : a.SameButLog b) (stage : Stage) :
    (installer.step network stage a).1 = (installer.step network stage b).1 ∧
      (installer.step network stage a).2.SameButLog (installer.step network stage b).2 := by
  obtain ⟨volume, state, sent, log⟩ := a
  obtain ⟨_, _, _, other⟩ := b
  obtain ⟨rfl, rfl, rfl⟩ := same
  cases stage with
  | check =>
    simp only [step]
    split
    · exact ⟨rfl, rfl, rfl, rfl⟩
    · split
      · exact ⟨rfl, rfl, rfl, rfl⟩
      · exact ⟨rfl, rfl, rfl, rfl⟩
  | fetch url =>
    simp only [step]
    split
    · exact ⟨rfl, rfl, rfl, rfl⟩
    · exact ⟨rfl, rfl, rfl, rfl⟩
  | makeParents content =>
    simp only [step]
    split
    · exact ⟨rfl, rfl, rfl, rfl⟩
    · exact ⟨rfl, rfl, rfl, rfl⟩
  | truncate content =>
    simp only [step]
    split
    · exact ⟨rfl, rfl, rfl, rfl⟩
    · exact ⟨rfl, rfl, rfl, rfl⟩
  | fill place content => exact ⟨rfl, rfl, rfl, rfl⟩
  | rename content =>
    simp only [step]
    split
    · exact ⟨rfl, rfl, rfl, rfl⟩
    · exact ⟨rfl, rfl, rfl, rfl⟩

/-- An installation ends alike on sites that differ at most in their logs. -/
theorem finish_congr (same : a.SameButLog b) (progress : Progress) :
    (installer.finish network progress a).1 = (installer.finish network progress b).1 ∧
      (installer.finish network progress a).2.SameButLog (installer.finish network progress b).2 := by
  fun_induction finish installer network progress a generalizing b with
  | case1 a result =>
    rw [finish]
    exact ⟨rfl, same⟩
  | case2 a stage next =>
    rename_i ih
    obtain ⟨progress, sites⟩ := installer.step_congr network same stage
    rw [finish]
    simp only [← progress]
    exact ih sites

/-- An installation ends in the same way whatever was logged before. -/
theorem run_congr (same : a.SameButLog b) :
    (installer.run network a).1 = (installer.run network b).1 ∧
      (installer.run network a).2.SameButLog (installer.run network b).2 :=
  installer.finish_congr network same (.running .check)

end Installer

namespace Application

variable {σ : Type}

/-- A responder can be made: one that echoes, or a classifier whose address is not blank. -/
def CanAnswer (settings : ResponderSettings) : Prop :=
  settings.kind = .echo ∨ settings.kind = .http ∧ ∃ c ∈ settings.url.toList, Text.isBlank c = false

/-- A responder is chosen whenever the settings name one that can answer. -/
theorem exists_selectResponder (network : Http.Network σ) {settings : ResponderSettings}
    (can : CanAnswer settings) :
    ∃ responder event, selectResponder network settings = .ok (responder, event) := by
  rcases can with echo | ⟨http, c, inside, solid⟩
  · simp [selectResponder, echo]
  · have spelled : Text.isBlankText settings.url = false := by
      rw [Text.isBlankText, List.all_eq_false]
      exact ⟨c, inside, by simp [solid]⟩
    simp [selectResponder, http, Classifier.ofUrls, spelled]

/-- The fault of a classifier whose address is blank. -/
def blankAddress : ResponderFault := .notConfigured "Classifier URL is empty"

/-- The one responder that cannot be chosen is a classifier whose address is blank. -/
theorem selectResponder_eq_error (network : Http.Network σ) {settings : ResponderSettings}
    (cannot : ¬ CanAnswer settings) : selectResponder network settings = .error blankAddress := by
  rw [CanAnswer, not_or] at cannot
  cases kind : settings.kind with
  | echo => exact absurd kind cannot.1
  | http =>
    have blank : Text.isBlankText settings.url = true := by
      rw [Text.isBlankText, List.all_eq_true]
      intro c inside
      cases solid : Text.isBlank c with
      | true => rfl
      | false => exact absurd ⟨kind, c, inside, solid⟩ cannot.2
    simp [selectResponder, kind, Classifier.ofUrls, blank, blankAddress]

/-- The installation of a start. -/
def install (settings : Settings) (network : Http.Network σ) (site : Installer.Site σ) :
    Except BundleFault BundleOutcome × Installer.Site σ :=
  (Installer.ofSettings settings.resources).run network site

variable (settings : Settings) (network : Http.Network σ) (sockets : Sockets)
  (site : Installer.Site σ)

/-- How a start ends, by the first stage that fails. -/
structure Staged (settings : Settings) (network : Http.Network σ) (sockets : Sockets)
    (site : Installer.Site σ) (start : Start σ) : Prop where
  /-- It succeeds if the responder can be made, the bundle is ready and the listener can be opened. -/
  ok_iff : (∃ ready, start.result = .ok ready) ↔ CanAnswer settings.responder ∧
    (∃ outcome, (install settings network site).1 = .ok outcome) ∧
    ∃ port, sockets settings.common = .ok port
  /-- Then the one listener was opened, and there is what the installation of the bundle left. -/
  ready : ∀ ready, start.result = .ok ready →
    sockets settings.common = .ok ready.port ∧ start.opened = [ready.port] ∧
      start.site.SameButLog (install settings network site).2
  /-- Without a responder nothing was sent, no file was touched and no listener was opened. -/
  unanswered : ¬ CanAnswer settings.responder →
    start.result = .error (.internal ⟨blankAddress.message, []⟩) ∧ start.site = site ∧
      start.opened = []
  /-- Without a bundle there is what its installation left, and no listener was opened. -/
  uninstalled : CanAnswer settings.responder → ∀ fault,
    (install settings network site).1 = .error fault →
      start.result = .error (.internal ⟨fault.message, [fault.causeText]⟩) ∧
        start.site.SameButLog (install settings network site).2 ∧ start.opened = []
  /-- Without a listener there is what the installation of the bundle left. -/
  unbound : CanAnswer settings.responder → ∀ outcome,
    (install settings network site).1 = .ok outcome → ∀ fault,
      sockets settings.common = .error fault →
        start.result = .error (.internal ⟨fault.message, []⟩) ∧
          start.site.SameButLog (install settings network site).2 ∧ start.opened = []

/-- A start that gets to its listener is decided by it. -/
theorem staged_listen {before : Installer.Site σ} {responder : Responder σ} {outcome : BundleOutcome}
    (can : CanAnswer settings.responder)
    (installed : (install settings network before).1 = .ok outcome)
    (left : site.SameButLog (install settings network before).2) :
    Staged settings network sockets before (listen settings sockets responder site) := by
  cases opening : sockets settings.common with
  | ok port =>
    simp only [listen, opening]
    constructor
    · exact ⟨fun _ => ⟨can, ⟨outcome, installed⟩, port, opening⟩, fun _ => ⟨_, rfl⟩⟩
    · rintro ready ⟨⟩
      exact ⟨opening, rfl, (Installer.Site.SameButLog.note site _).trans left⟩
    · exact fun cannot => absurd can cannot
    · exact fun _ _ failed => by simp [installed] at failed
    · exact fun _ _ _ _ failed => by simp [opening] at failed
  | error reason =>
    simp only [listen, opening]
    constructor
    · simp [opening]
    · exact nofun
    · exact fun cannot => absurd can cannot
    · exact fun _ _ failed => by simp [installed] at failed
    · intro _ _ _ fault failed
      rw [opening] at failed
      cases failed
      exact ⟨rfl, (Installer.Site.SameButLog.note site _).trans left, rfl⟩

/-- A start ends with the first of its stages that fails. -/
theorem staged_start : Staged settings network sockets site (start settings network sockets site) := by
  by_cases can : CanAnswer settings.responder
  · obtain ⟨responder, event, made⟩ := exists_selectResponder network can
    obtain ⟨ending, left⟩ := (Installer.ofSettings settings.resources).run_congr network
      (Installer.Site.SameButLog.note site event)
    simp only [start, made, startWith]
    split
    · rename_i fault after ran
      rw [ran] at ending left
      have failed : (install settings network site).1 = .error fault := ending.symm
      constructor
      · simp [failed]
      · exact nofun
      · exact fun cannot => absurd can cannot
      · intro _ other failed'
        rw [failed] at failed'
        cases failed'
        exact ⟨rfl, (Installer.Site.SameButLog.note after _).trans left, rfl⟩
      · exact fun _ _ installed => by simp [failed] at installed
    · rename_i size after ran
      rw [ran] at ending left
      exact staged_listen settings network sockets _ can ending.symm
        ((Installer.Site.SameButLog.note after _).trans left)
    · rename_i outcome after _ ran
      rw [ran] at ending left
      exact staged_listen settings network sockets _ can ending.symm left
  · simp only [start, selectResponder_eq_error network can]
    constructor
    · simp [can]
    · exact nofun
    · exact fun _ => ⟨rfl, rfl, rfl⟩
    · exact fun can' => absurd can' can
    · exact fun can' => absurd can' can

end Application

end ChatGateway
