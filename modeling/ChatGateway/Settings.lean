import ChatGateway.Failure
import ChatGateway.Files.Path
import ChatGateway.Listen
import ChatGateway.Text.Blank

/-!
# Settings

The settings of the service, read from named variables. In production every variable
without an obvious meaning when absent must be set; elsewhere it has a default. Four
variables are optional everywhere, and one that holds only blanks counts as absent.

The variables are looked at in a fixed order, and the first one at fault decides.
-/

namespace ChatGateway

/-- Which responder answers questions. -/
inductive ResponderKind where
  | http
  | echo
  deriving DecidableEq, Repr

/-- How questions are answered. -/
structure ResponderSettings where
  kind : ResponderKind
  /-- Where the classifier answers. -/
  url : String
  /-- Where the classifier tells whether it is well. -/
  healthUrl : Option String
  timeoutSeconds : Nat
  deriving DecidableEq, Repr

/-- The linguistic resources that are installed before the service starts. -/
structure ResourceSettings where
  /-- Where the bundle comes from; without it none is fetched. -/
  bundleUrl : Option String
  dataDirectory : String
  bundleName : String
  deriving DecidableEq, Repr

/-- The path of the bundle. -/
def ResourceSettings.bundlePath (settings : ResourceSettings) : String :=
  Files.join settings.dataDirectory settings.bundleName

/-- What is logged and where traces go. -/
structure ObservabilitySettings where
  logLevel : String
  traceEndpoint : Option String
  deriving DecidableEq, Repr

/-- All settings of the service. -/
structure Settings where
  common : ListenAddress
  responder : ResponderSettings
  resources : ResourceSettings
  observability : ObservabilitySettings
  /-- The directory of the page's assets. -/
  staticDirectory : String
  deriving DecidableEq, Repr

/-- What is wrong with the variables. -/
inductive SettingsFault where
  /-- A variable that production requires is absent. -/
  | missing (key : String)
  | unknownKind (kind : String)
  | badTimeout (text : String)
  deriving DecidableEq, Repr

namespace SettingsFault

/-- The fault in words. -/
def message : SettingsFault → String
  | missing key => key ++ " is required in production but not set"
  | unknownKind kind => "RESPONDER_KIND must be 'http' or 'echo', got '" ++ kind ++ "'"
  | badTimeout text =>
    "RESPONDER_TIMEOUT_SECS must be a positive number of seconds, got '" ++ text ++ "'"

/-- The failure of a start with such settings. -/
def failure (fault : SettingsFault) : Failure := .settings ⟨fault.message, []⟩

end SettingsFault

/-- The kind that a text names, blanks around it and case aside. -/
def ResponderKind.parse (text : String) : Except SettingsFault ResponderKind :=
  let name := Text.lower (Text.trim text)
  if name = "http" then .ok .http
  else if name = "echo" then .ok .echo
  else .error (.unknownKind name)

/-- The name of a kind. -/
def ResponderKind.name : ResponderKind → String
  | http => "http"
  | echo => "echo"

/-- A positive number of seconds, blanks around it aside. -/
def parseTimeout (text : String) : Except SettingsFault Nat :=
  match Text.boundedNatural? Text.wordLimit (Text.trim text) with
  | some (seconds + 1) => .ok (seconds + 1)
  | _ => .error (.badTimeout text)

/-- The values of the variables that are set. -/
abbrev Lookup := String → Option String

namespace Lookup

/-- Whether the variables are those of production. -/
def isProduction (lookup : Lookup) : Bool := lookup "ENVIRONMENT" = some "prod"

/-- A variable that production requires and that has a default elsewhere. -/
def required (lookup : Lookup) (key standard : String) : Except SettingsFault String :=
  match lookup key with
  | some value => .ok value
  | none => if lookup.isProduction then .error (.missing key) else .ok standard

/-- A variable that may be absent; blank counts as absent. -/
def optional (lookup : Lookup) (key : String) : Option String :=
  (lookup key).filter fun value => !Text.isBlankText value

end Lookup

namespace Settings

/-- The settings that the variables give. The page's assets are by default those that were
installed with the program, under `home`. -/
def read (home : String) (common : ListenAddress) (lookup : Lookup) :
    Except SettingsFault Settings := do
  let kind ← ResponderKind.parse (← lookup.required "RESPONDER_KIND" "http")
  let url ← lookup.required "RESPONDER_URL" "http://classifier:5005/classify"
  let timeoutSeconds ← parseTimeout (← lookup.required "RESPONDER_TIMEOUT_SECS" "30")
  let dataDirectory ← lookup.required "RESOURCE_DATA_DIR" "data"
  let bundleName ← lookup.required "RESOURCE_BUNDLE_NAME" "punkt.zip"
  let staticDirectory ← lookup.required "STATIC_DIR" (home ++ "/static")
  return {
    common
    responder := { kind, url, healthUrl := lookup.optional "RESPONDER_HEALTH_URL", timeoutSeconds }
    resources := { bundleUrl := lookup.optional "RESOURCE_BUNDLE_URL", dataDirectory, bundleName }
    observability := {
      logLevel := (lookup.optional "LOG_LEVEL").getD "info"
      traceEndpoint := lookup.optional "OTLP_ENDPOINT" }
    staticDirectory }

end Settings

end ChatGateway
