import ChatGateway.Program
import ChatGateway.Proofs.Log.Filter

/-!
# How a run of the program ends

A run has three thresholds: the settings must load, telemetry must be set up, and the service must
start. It ends well exactly if it passes all of them. Before the last one it touches no file and no
network and writes no log, and behind it the log holds only what its filter lets through.
-/

namespace ChatGateway

/-- Telemetry can be set up exactly in a process that has none, if traces go nowhere or to an endpoint
that can be addressed. -/
theorem Telemetry.install_eq_ok_iff {telemetry : Telemetry} {isInstalled : Bool} :
    telemetry.install isInstalled = .ok () ↔ isInstalled = false ∧
      ∀ endpoint, telemetry.endpoint = some endpoint →
        ∃ target, Http.Target.parse (endpoint ++ tracesPath) = .ok target := by
  unfold install checkEndpoint
  cases telemetry.endpoint with
  | none => cases isInstalled <;> simp
  | some endpoint =>
    cases read : Http.Target.parse (endpoint ++ tracesPath) <;> cases isInstalled <;> simp [read]

namespace Program

variable {σ : Type} {machine : Machine σ} {known : EnvironmentFile.Variables}
  {volume : Files.Volume} {network : σ}

/-- The service starts with the settings. -/
def Starts (machine : Machine σ) (settings : Settings) (volume : Files.Volume) (network : σ) : Prop :=
  ∃ ready, (Application.start settings machine.network machine.sockets
    { volume, network, log := [metricsEvent] }).result = .ok ready

/-- A run passes all thresholds. -/
def Passes (machine : Machine σ) (known : EnvironmentFile.Variables) (volume : Files.Volume)
    (network : σ) (settings : Settings) : Prop :=
  Settings.loading machine.home volume known = .returned (.ok settings) ∧
    (telemetryOf settings).install false = .ok () ∧ Starts machine settings volume network

/-- The filter of a run with the settings. -/
def filterOf (settings : Settings) (volume : Files.Volume) (known : EnvironmentFile.Variables) :
    LogFilter :=
  ((telemetryOf settings).filter
    ((Config.environment volume known).lookup Telemetry.filterVariable)).1

/-- What a run with the settings remarks on the text of its filter. -/
def warningsOf (settings : Settings) (volume : Files.Volume) (known : EnvironmentFile.Variables) :
    String :=
  ((telemetryOf settings).filter
    ((Config.environment volume known).lookup Telemetry.filterVariable)).2

/-- Serving has no fault exactly if the service starts, whatever is asked then. -/
theorem fault_serve_eq_none_iff {settings : Settings} (requests : List Http.Request) :
    (serve machine settings requests volume network).fault = none ↔
      Starts machine settings volume network := by
  unfold serve Starts
  simp only
  split <;> rename_i result <;> simp [result]

/-- A fault of serving is that of the start. -/
theorem exists_start_of_fault_serve {settings : Settings} {requests : List Http.Request} {fault : Fault}
    (h : (serve machine settings requests volume network).fault = some fault) :
    ∃ failure, fault = .start failure := by
  unfold serve at h
  simp only at h
  split at h
  · exact ⟨_, (Option.some.inj h).symm⟩
  · contradiction

/-- What a run may be: it ends before the start, with everything as it was, or it serves. -/
theorem run_cases (machine : Machine σ) (known : EnvironmentFile.Variables)
    (requests : List Http.Request) (volume : Files.Volume) (network : σ) :
    let run := run machine known requests volume network
    (∃ assignment, Settings.loading machine.home volume known = .aborted assignment ∧
        run = { fault := some (.aborted assignment), volume, network }) ∨
      (∃ failure, Settings.loading machine.home volume known = .returned (.error failure) ∧
        run = { fault := some (.settings failure), volume, network }) ∨
      ∃ settings, Settings.loading machine.home volume known = .returned (.ok settings) ∧
        let warnings := warningsOf settings volume known
        ((∃ fault, (telemetryOf settings).install false = .error fault ∧
            run = { fault := some (.telemetry fault), warnings, volume, network }) ∨
          (telemetryOf settings).install false = .ok () ∧
            let served := serve machine settings requests volume network
            run = { served with
              warnings, log := served.log.reverse.filter (filterOf settings volume known).allows }) := by
  intro run
  cases loaded : Settings.loading machine.home volume known with
  | aborted assignment => exact .inl ⟨assignment, rfl, by simp only [run, Program.run, loaded]⟩
  | returned result =>
    refine .inr ?_
    cases result with
    | error failure => exact .inl ⟨failure, rfl, by simp only [run, Program.run, loaded]⟩
    | ok settings =>
      refine .inr ⟨settings, rfl, ?_⟩
      cases installed : (telemetryOf settings).install false with
      | error fault =>
        exact .inl ⟨fault, rfl, by simp only [run, Program.run, loaded, installed, warningsOf]⟩
      | ok _ =>
        exact .inr ⟨rfl, by simp only [run, Program.run, loaded, installed, filterOf, warningsOf]⟩

/-- A run ends well exactly if it passes all thresholds, it breaks off exactly if a variable cannot be
set, and it fails otherwise. -/
theorem exitCode_run (requests : List Http.Request) :
    let code := (run machine known requests volume network).exitCode
    (code = 0 ↔ ∃ settings, Passes machine known volume network settings) ∧
      (code = 101 ↔ ∃ assignment,
        Settings.loading machine.home volume known = .aborted assignment) ∧
      (code = 0 ∨ code = 1 ∨ code = 101) := by
  intro code
  rcases run_cases machine known requests volume network with
    ⟨assignment, loaded, run⟩ | ⟨failure, loaded, run⟩ |
      ⟨settings, loaded, ⟨fault, installed, run⟩ | ⟨installed, run⟩⟩
  · have broken : code = 101 := congrArg Run.exitCode run
    simp [broken, Passes, loaded]
  · have failed : code = 1 := congrArg Run.exitCode run
    simp [failed, Passes, loaded]
  · have failed : code = 1 := congrArg Run.exitCode run
    simp [failed, Passes, loaded, installed]
  · have ended : code = ((serve machine settings requests volume network).fault.map
        Fault.exitCode).getD 0 := by
      simp only [code, run, Run.exitCode]
    have passes : (∃ settings, Passes machine known volume network settings) ↔
        Starts machine settings volume network := by
      simp [Passes, loaded, installed]
    rw [passes, ← fault_serve_eq_none_iff requests]
    cases met : (serve machine settings requests volume network).fault with
    | none => simp [ended, met, loaded]
    | some fault =>
      obtain ⟨failure, rfl⟩ := exists_start_of_fault_serve met
      simp [ended, met, loaded, Fault.exitCode]

/-- A run that does not get to the start leaves the files and the network as they were, answers nothing
and logs nothing. -/
theorem run_of_not_served (requests : List Http.Request)
    (h : ∀ settings, Settings.loading machine.home volume known = .returned (.ok settings) →
      (telemetryOf settings).install false ≠ .ok ()) :
    let run := run machine known requests volume network
    run.volume = volume ∧ run.network = network ∧ run.responses = [] ∧ run.log = [] := by
  intro run
  rcases run_cases machine known requests volume network with
    ⟨assignment, loaded, same⟩ | ⟨failure, loaded, same⟩ |
      ⟨settings, loaded, ⟨fault, installed, same⟩ | ⟨installed, same⟩⟩
  · simp only [run, same, and_self]
  · simp only [run, same, and_self]
  · simp only [run, same, and_self]
  · exact absurd installed (h settings loaded)

/-- What is logged was let through by the filter that the variables and the settings give. -/
theorem allows_of_mem_log {requests : List Http.Request} {event : LogEvent}
    (h : event ∈ (run machine known requests volume network).log) :
    ∃ settings, Settings.loading machine.home volume known = .returned (.ok settings) ∧
      (filterOf settings volume known).allows event = true := by
  rcases run_cases machine known requests volume network with
    ⟨assignment, loaded, same⟩ | ⟨failure, loaded, same⟩ |
      ⟨settings, loaded, ⟨fault, installed, same⟩ | ⟨installed, same⟩⟩
  · simp [same] at h
  · simp [same] at h
  · simp [same] at h
  · rw [same] at h
    exact ⟨settings, loaded, (List.mem_filter.mp h).2⟩

/-- Without a filter of its own, a run whose settings name a level by a word logs nothing more verbose. -/
theorem verbosity_of_mem_log {settings : Settings} {requests : List Http.Request} {verbosity : Nat}
    {event : LogEvent}
    (loaded : Settings.loading machine.home volume known = .returned (.ok settings))
    (unset : (Config.environment volume known).lookup Telemetry.filterVariable = none)
    (named : (settings.observability.logLevel, verbosity) ∈ LogFilter.words)
    (nonempty : settings.observability.logLevel ≠ "")
    (h : event ∈ (run machine known requests volume network).log) :
    event.level.verbosity ≤ verbosity := by
  obtain ⟨other, again, allowed⟩ := allows_of_mem_log h
  cases loaded.symm.trans again
  have lenient : filterOf settings volume known =
      (LogFilter.parseLenient settings.observability.logLevel).1 := by
    rw [filterOf, unset]
    rfl
  rw [lenient, LogFilter.allows_word named nonempty] at allowed
  exact of_decide_eq_true allowed

end Program

end ChatGateway
