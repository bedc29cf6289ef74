import ChatGateway.Application.Selection
import ChatGateway.Bundle
import ChatGateway.Gateway.Router

/-!
# Starting and stopping

The service starts in three stages: the responder is made, the bundle is installed, and a
listener is opened. A stage that fails ends the start, so that nothing of a later stage has
happened. Once started, the service answers requests until it is told to stop.
-/

namespace ChatGateway

/-- Opens listeners: the port on which the one for an address listens. -/
abbrev Sockets := ListenAddress → Except OsFault Nat

/-- The first port that needs no privilege. -/
def firstFreePort : Nat := 1024

/-- The listeners of a process without privileges; for port zero it gets a free one. -/
def Sockets.unprivileged : Sockets := fun address =>
  if address.port = 0 then .ok firstFreePort
  else if address.port < firstFreePort then .error .accessDenied
  else .ok address.port

namespace Application

/-- A service that has started: its responder, the port on which it listens, and the directory
of its page's assets. -/
structure Ready (σ : Type) where
  responder : Responder σ
  port : Nat
  assets : String

/-- How a start ends, what it leaves behind, and the ports of the listeners that it opened. -/
structure Start (σ : Type) where
  result : Except Failure (Ready σ)
  site : Installer.Site σ
  opened : List Nat := []

/-- The event of an installed bundle. -/
def installedEvent (size : Nat) : LogEvent where
  level := .info
  target := target
  message := "Resource bundle installed"
  fields := [("bytes", .number size)]

/-- The event of a bundle that cannot be installed. -/
def uninstalledEvent (fault : BundleFault) : LogEvent where
  level := .error
  target := target
  message := "Failed to prepare resource bundle: " ++ fault.message

/-- The event of a listener that cannot be opened. -/
def unboundEvent (address : ListenAddress) (fault : OsFault) : LogEvent where
  level := .error
  target := target
  message := "Failed to bind HTTP listener to " ++ address.text ++ ": " ++ fault.message

/-- The event of a service that has started. -/
def listeningEvent (responder : String) (port : Nat) : LogEvent where
  level := .info
  target := target
  message := "Chatbot service listening"
  fields := [("port", .number port), ("responder", .text responder)]

/-- The event of a service that is told to stop. -/
def stopEvent : LogEvent where
  level := .info
  target := target
  message := "Shutdown signal received"

/-- The failure of a start that met a fault of the system. -/
def systemFailure (fault : OsFault) : Failure := .internal ⟨fault.message, []⟩

variable {σ : Type}

/-- Opens the listener. -/
def listen (settings : Settings) (sockets : Sockets) (responder : Responder σ)
    (site : Installer.Site σ) : Start σ :=
  match sockets settings.common with
  | .error fault => ⟨.error (systemFailure fault), site.note (unboundEvent settings.common fault), []⟩
  | .ok port =>
    ⟨.ok ⟨responder, port, settings.staticDirectory⟩, site.note (listeningEvent responder.name port),
      [port]⟩

/-- Installs the bundle and opens the listener for a responder that is made. -/
def startWith (settings : Settings) (network : Http.Network σ) (sockets : Sockets)
    (responder : Responder σ) (site : Installer.Site σ) : Start σ :=
  match (Installer.ofSettings settings.resources).run network site with
  | (.error fault, site) => ⟨.error fault.failure, site.note (uninstalledEvent fault), []⟩
  | (.ok (.downloaded size), site) =>
    listen settings sockets responder (site.note (installedEvent size))
  | (.ok _, site) => listen settings sockets responder site

/-- Starts the service. -/
def start (settings : Settings) (network : Http.Network σ) (sockets : Sockets)
    (site : Installer.Site σ) : Start σ :=
  match selectResponder network settings.responder with
  | .error fault => ⟨.error fault.failure, site, []⟩
  | .ok (responder, event) => startWith settings network sockets responder (site.note event)

/-- What the service needs besides its responder: identifiers, and when files were changed. -/
structure Supplies where
  ids : Nat → Uuid
  changed : Files.Place → Nat

/-- The gateway of a started service. -/
def Ready.gateway (ready : Ready σ) (supplies : Supplies) (volume : Files.Volume) : Gateway where
  responder := ready.responder.name
  assets := { volume, directory := ready.assets, changed := supplies.changed }

/-- Answers the requests that come until the service is told to stop, with the measurements that are
set up. -/
def Ready.serve (ready : Ready σ) (supplies : Supplies) (requests : List Http.Request)
    (site : Installer.Site σ) (measurements : Metrics.Measurements := {}) :
    List Http.Response × World σ :=
  let (responses, world) := (ready.gateway supplies site.volume).serveAll ⟨ready.responder, supplies.ids⟩
    requests { responder := site.network, measurements, log := site.log }
  (responses, { world with log := stopEvent :: world.log })

end Application

end ChatGateway
