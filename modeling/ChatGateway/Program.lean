import ChatGateway.Application.Startup
import ChatGateway.Config.Load
import ChatGateway.Telemetry

/-!
# The program

A run of the program loads the settings, sets telemetry and the measurements up, starts the
service, answers what comes, and stops. It ends badly if loading, telemetry or the start fails, and
then says why; and it breaks off if a variable cannot be set.
-/

namespace ChatGateway.Program

/-- The name of the service. -/
def serviceName : String := "chatbot-service"

/-- The part of the program that speaks. -/
def target : String := "chatbot_service"

/-- Why a run ends badly. -/
inductive Fault where
  /-- A variable cannot be set, and the run breaks off. -/
  | aborted (assignment : EnvironmentFile.Assignment)
  | settings (failure : Failure)
  | telemetry (fault : TelemetryFault)
  | start (failure : Failure)
  deriving DecidableEq, Repr

/-- The fault in words. -/
def Fault.message : Fault → String
  | aborted assignment => assignment.message
  | settings failure => "Configuration error: " ++ failure.message
  | telemetry fault => fault.message
  | start failure => "Startup error: " ++ failure.message

/-- What is said at once when a fault is met, before the run ends. -/
def Fault.remark : Fault → String
  | settings failure => "Failed to load configuration: " ++ failure.message ++ "\n"
  | aborted _ | telemetry _ | start _ => ""

/-- What a run with the fault says on its way out. A run that breaks off says it by the runtime, which
also names the place in its own source; that is left out. -/
def Fault.report (fault : Fault) : String :=
  match fault with
  | aborted _ => fault.message ++ "\n"
  | _ => fault.remark ++ "Error: " ++ fault.message ++ "\n"

/-- The code that a process ends with after a fault. -/
def Fault.exitCode : Fault → Nat
  | aborted _ => 101
  | _ => 1

/-- The event of measurements that can be shown. -/
def metricsEvent : LogEvent where
  level := .info
  target := "chatbot_service::services::metrics"
  message := "Prometheus metrics initialized"

/-- The event of a service that does not start. -/
def unstartedEvent (failure : Failure) : LogEvent where
  level := .error
  target := target
  message := "Failed to start chatbot-service: " ++ failure.message

/-- The event of a service that has stopped. -/
def stoppedEvent : LogEvent where
  level := .info
  target := target
  message := "chatbot-service stopped"

/-- What a run finds: where the program is installed, the network, the listeners that it may
open, and the supplies of the service. -/
structure Machine (σ : Type) where
  home : String
  network : Http.Network σ
  sockets : Sockets
  supplies : Application.Supplies

/-- What a run leaves: how it ended, what it said besides its log, the log, the answers, and
the files and the network. -/
structure Run (σ : Type) where
  fault : Option Fault
  warnings : String := ""
  log : List LogEvent := []
  responses : List Http.Response := []
  volume : Files.Volume
  network : σ

namespace Run

variable {σ : Type}

/-- The code that the process ends with. -/
def exitCode (run : Run σ) : Nat := (run.fault.map Fault.exitCode).getD 0

/-- What the run said besides its log. -/
def errorText (run : Run σ) : String := run.warnings ++ (run.fault.map Fault.report).getD ""

end Run

variable {σ : Type}

/-- Starts the service with the settings and answers requests; the log has its latest event
first. -/
def serve (machine : Machine σ) (settings : Settings) (requests : List Http.Request)
    (volume : Files.Volume) (network : σ) : Run σ :=
  let start := Application.start settings machine.network machine.sockets
    { volume, network, log := [metricsEvent] }
  match start.result with
  | .error failure =>
    { fault := some (.start failure), log := unstartedEvent failure :: start.site.log
      volume := start.site.volume, network := start.site.network }
  | .ok ready =>
    let (responses, world) := ready.serve machine.supplies requests start.site
      (Metrics.Measurements.start {})
    { fault := none, log := stoppedEvent :: world.log, responses
      volume := start.site.volume, network := world.responder }

/-- The telemetry that the settings ask for. -/
def telemetryOf (settings : Settings) : Telemetry :=
  ⟨serviceName, settings.observability.logLevel, settings.observability.traceEndpoint⟩

/-- Runs the program with its variables. The log is what the filter lets through, in order. -/
def run (machine : Machine σ) (known : EnvironmentFile.Variables) (requests : List Http.Request)
    (volume : Files.Volume) (network : σ) : Run σ :=
  match Settings.loading machine.home volume known with
  | .aborted assignment => { fault := some (.aborted assignment), volume, network }
  | .returned (.error failure) => { fault := some (.settings failure), volume, network }
  | .returned (.ok settings) =>
    let telemetry := telemetryOf settings
    let all := Config.environment volume known
    let (filter, warnings) := telemetry.filter (all.lookup Telemetry.filterVariable)
    match telemetry.install false with
    | .error fault => { fault := some (.telemetry fault), warnings, volume, network }
    | .ok () =>
      let run := serve machine settings requests volume network
      { run with warnings, log := run.log.reverse.filter filter.allows }

end ChatGateway.Program
