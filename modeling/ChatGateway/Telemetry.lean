import ChatGateway.Http.Target
import ChatGateway.Log.Filter

/-!
# Telemetry

Before the service starts, the process gets a filter for its log and, if traces go somewhere,
an exporter for them. The filter comes from a variable of its own, or, if that is absent or
wrong, leniently from the settings. Telemetry can be set up only once in a process.
-/

namespace ChatGateway

/-- Why telemetry cannot be set up. -/
inductive TelemetryFault where
  /-- Traces cannot go to the endpoint. -/
  | exporter (service endpoint : String) (cause : Http.Target.Fault)
  | alreadyInstalled
  deriving DecidableEq, Repr

/-- The fault in words. -/
def TelemetryFault.message : TelemetryFault → String
  | exporter service endpoint cause =>
    "Failed to initialize OTLP tracer for service '" ++ service ++ "' at endpoint '" ++ endpoint ++
      "': Exporter otlp encountered the following error(s): invalid URI " ++ cause.message
  | alreadyInstalled =>
    "Failed to install tracing subscriber: a global default trace dispatcher has already been set"

/-- What is to be set up: for which service, how verbose, and where traces go. -/
structure Telemetry where
  service : String
  level : String
  endpoint : Option String
  deriving DecidableEq, Repr

namespace Telemetry

/-- The variable that holds the filter. -/
def filterVariable : String := "RUST_LOG"

/-- The filter, given what the variable holds, and what is said of wrong directives. -/
def filter (telemetry : Telemetry) (variableText : Option String) : LogFilter × String :=
  match variableText.bind LogFilter.parse? with
  | some filter => (filter, "")
  | none => LogFilter.parseLenient telemetry.level

/-- The path below an endpoint to which traces go. -/
def tracesPath : String := "/v1/traces"

/-- Checks that the endpoint can be addressed. -/
def checkEndpoint (telemetry : Telemetry) : Except TelemetryFault Unit :=
  match telemetry.endpoint with
  | none => .ok ()
  | some endpoint =>
    match Http.Target.parse (endpoint ++ tracesPath) with
    | .ok _ => .ok ()
    | .error cause => .error (.exporter telemetry.service endpoint cause)

/-- Sets telemetry up in a process that may have it already. -/
def install (telemetry : Telemetry) (isInstalled : Bool) : Except TelemetryFault Unit :=
  match telemetry.checkEndpoint with
  | .error fault => .error fault
  | .ok () => if isInstalled then .error .alreadyInstalled else .ok ()

end Telemetry

end ChatGateway
