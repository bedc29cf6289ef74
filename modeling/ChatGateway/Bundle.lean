import ChatGateway.Failure
import ChatGateway.Files.Tree
import ChatGateway.Http.Client
import ChatGateway.Settings

/-!
# Installing the bundle

The bundle of linguistic resources is installed once: if something is at its path already,
nothing happens. Otherwise it is fetched, written next to its path, and moved into place, so
that a bundle that is cut off never stands at the path.

An installation is taken apart into the steps that others can notice, and `Installer.run`
performs them one after another.
-/

namespace ChatGateway

/-- How an installation ends well. -/
inductive BundleOutcome where
  | alreadyPresent
  /-- Fetched and installed, with its number of octets. -/
  | downloaded (size : Nat)
  /-- There is nowhere to fetch it from. -/
  | skipped
  deriving DecidableEq, Repr

/-- Why an installation fails. -/
inductive BundleFault where
  | download (url : String) (cause : Http.FetchFault)
  | storage (path : String) (cause : Files.FileFault)
  deriving DecidableEq, Repr

namespace BundleFault

/-- The fault in words. -/
def message : BundleFault → String
  | download url cause => "Failed to download resource bundle from " ++ url ++ ": " ++ cause.message
  | storage path cause => "Failed to write resource bundle to " ++ path ++ ": " ++ cause.message

/-- What is behind the fault, in words. -/
def causeText : BundleFault → String
  | download _ cause => cause.message
  | storage _ cause => cause.message

/-- The failure of a start that met the fault. -/
def failure (fault : BundleFault) : Failure := .internal ⟨fault.message, [fault.causeText]⟩

end BundleFault

/-- The bundle to install: where it comes from and its path. -/
structure Installer where
  url : Option String
  path : String
  deriving DecidableEq, Repr

namespace Installer

/-- The bundle that the settings name. -/
def ofSettings (settings : ResourceSettings) : Installer := ⟨settings.bundleUrl, settings.bundlePath⟩

/-- Where the bundle is written before it is moved into place. -/
def stagingPath (installer : Installer) : String := installer.path ++ ".part"

/-- What an installation does next. -/
inductive Stage where
  | check
  | fetch (url : String)
  | makeParents (content : Bytes)
  | truncate (content : Bytes)
  | fill (place : Files.Place) (content : Bytes)
  | rename (content : Bytes)

/-- How far an installation has come. -/
inductive Progress where
  | running (stage : Stage)
  | ended (result : Except BundleFault BundleOutcome)

/-- How many steps follow at most. -/
def Progress.left : Progress → Nat
  | running .check => 6
  | running (.fetch _) => 5
  | running (.makeParents _) => 4
  | running (.truncate _) => 3
  | running (.fill _ _) => 2
  | running (.rename _) => 1
  | ended _ => 0

/-- What installations share: the files and the network, the requests that were sent, and the
events, latest first. -/
structure Site (σ : Type) where
  volume : Files.Volume
  network : σ
  sent : List Http.Outbound := []
  log : List LogEvent := []

/-- Logs an event. -/
def Site.note {σ : Type} (site : Site σ) (event : LogEvent) : Site σ :=
  { site with log := event :: site.log }

/-- The part of the program that speaks. -/
def target : String := "chatbot_service::services::bootstrap"

/-- The event of a bundle that is there. -/
def presentEvent (installer : Installer) : LogEvent where
  level := .debug
  target := target
  message := "Resource bundle already present"
  fields := [("path", .text installer.path)]

/-- The event of a bundle that comes from nowhere. -/
def skippedEvent : LogEvent where
  level := .info
  target := target
  message := "No resource bundle URL configured, skipping download"

/-- The event of a bundle that was installed. -/
def downloadedEvent (installer : Installer) (size : Nat) : LogEvent where
  level := .info
  target := target
  message := "Downloaded resource bundle"
  fields := [("url", .text (installer.url.getD "")), ("path", .text installer.path),
    ("bytes", .number size)]

/-- The content of a fetched bundle: all of it came, and the answer blames nobody. -/
def contentOf : Except Http.FetchFault Http.Final → Except Http.FetchFault Bytes
  | .error fault => .error fault
  | .ok ⟨received, url⟩ =>
    if received.status.isClientError || received.status.isServerError then
      .error (.refused received url)
    else if received.complete then .ok received.body
    else .error .unreadable

variable {σ : Type}

/-- Ends because of the files. -/
def storageFault (installer : Installer) (fault : Files.FileFault) : Progress :=
  .ended (.error (.storage installer.path fault))

/-- Performs one step. -/
def step (installer : Installer) (network : Http.Network σ) (stage : Stage) (site : Site σ) :
    Progress × Site σ :=
  match stage with
  | .check =>
    if site.volume.hasEntry installer.path then
      (.ended (.ok .alreadyPresent), site.note installer.presentEvent)
    else
      match installer.url with
      | none => (.ended (.ok .skipped), site.note skippedEvent)
      | some url => (.running (.fetch url), site)
  | .fetch url =>
    let fetched := Http.Client.send network "GET" url [] [] site.network
    let site := { site with network := fetched.state, sent := site.sent ++ fetched.sent }
    match contentOf fetched.result with
    | .error fault => (.ended (.error (.download url fault)), site)
    | .ok content => (.running (.makeParents content), site)
  | .makeParents content =>
    match site.volume.enclose installer.path with
    | (.error fault, volume) => (installer.storageFault fault, { site with volume })
    | (.ok (), volume) => (.running (.truncate content), { site with volume })
  | .truncate content =>
    match site.volume.truncate installer.stagingPath with
    | .error fault => (installer.storageFault fault, site)
    | .ok (place, volume) => (.running (.fill place content), { site with volume })
  | .fill place content =>
    (.running (.rename content), { site with volume := site.volume.fill place content })
  | .rename content =>
    match site.volume.rename installer.stagingPath installer.path with
    | .error fault => (installer.storageFault fault, site)
    | .ok volume =>
      let site := { site with volume }
      (.ended (.ok (.downloaded content.length)), site.note (installer.downloadedEvent content.length))

/-- Every step brings an installation nearer to its end. -/
theorem left_step_lt (installer : Installer) (network : Http.Network σ) (stage : Stage)
    (site : Site σ) : (installer.step network stage site).1.left < (Progress.running stage).left := by
  cases stage with
  | check =>
    simp only [step]
    split
    · simp [Progress.left]
    · split <;> simp [Progress.left]
  | fill place content => simp [step, Progress.left]
  | fetch url =>
    simp only [step]
    split <;> simp [Progress.left]
  | makeParents content =>
    simp only [step]
    split <;> simp [Progress.left, storageFault]
  | truncate content =>
    simp only [step]
    split <;> simp [Progress.left, storageFault]
  | rename content =>
    simp only [step]
    split <;> simp [Progress.left, storageFault]

/-- Performs the steps that follow. -/
def finish (installer : Installer) (network : Http.Network σ) (progress : Progress)
    (site : Site σ) : Except BundleFault BundleOutcome × Site σ :=
  match progress with
  | .ended result => (result, site)
  | .running stage =>
    let next := installer.step network stage site
    installer.finish network next.1 next.2
termination_by progress.left
decreasing_by exact installer.left_step_lt network stage site

/-- Performs a whole installation. -/
def run (installer : Installer) (network : Http.Network σ) (site : Site σ) :
    Except BundleFault BundleOutcome × Site σ :=
  installer.finish network (.running .check) site

end Installer

end ChatGateway
