import ChatGateway.Classifier
import ChatGateway.Echo
import ChatGateway.Settings

/-!
# The responder of the settings

The settings name the responder that answers questions; a classifier needs an address.
-/

namespace ChatGateway.Application

/-- The part of the program that starts and stops the service. -/
def target : String := "chatbot_service::startup"

/-- The event of a classifier that is ready to be asked. -/
def classifierEvent (url : String) : LogEvent where
  level := .info
  target := target
  message := "Initialized HTTP responder"
  fields := [("url", .text url)]

/-- The event of a responder that echoes. -/
def echoEvent : LogEvent where
  level := .info
  target := target
  message := "Initialized echo responder"

/-- The responder that the settings name, and the event of it. -/
def selectResponder {σ : Type} (network : Http.Network σ) (settings : ResponderSettings) :
    Except ResponderFault (Responder σ × LogEvent) :=
  match settings.kind with
  | .echo => .ok (Echo.responder σ, echoEvent)
  | .http =>
    match Classifier.ofUrls settings.url settings.healthUrl with
    | .error fault => .error fault
    | .ok classifier => .ok (classifier.responder network none, classifierEvent classifier.url)

end ChatGateway.Application
