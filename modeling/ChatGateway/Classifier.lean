import ChatGateway.Envelope
import ChatGateway.Http.Client
import ChatGateway.Responder
import ChatGateway.Text.Blank
import ChatGateway.Trace.Context

/-!
# The classifier

A responder that asks a classifier over the network. The question is posted in its envelope
under the id of the request and the identity of the current span; the answer is accepted only
from a successful response. Nothing is asked twice. If an address for it is known, the
classifier is well when that address answers with success.
-/

namespace ChatGateway

/-- Where a classifier is found. -/
structure Classifier where
  url : String
  healthUrl : Option String := none
  deriving DecidableEq, Repr

namespace Classifier

/-- The classifier at an address, which must not be blank. -/
def ofUrls (url : String) (healthUrl : Option String) : Except ResponderFault Classifier :=
  if Text.isBlankText url then .error (.notConfigured "Classifier URL is empty")
  else .ok ⟨url, healthUrl⟩

/-- The event of a classifier that answers without success. -/
def refusedEvent (url : String) (status : Http.Status) : LogEvent where
  level := .warn
  target := "chatbot_service::services::responders::http"
  message := "Classifier returned non-success status"
  fields := [("url", .text url), ("status", .number status)]

/-- The answer that a body holds, if all of it came. -/
def answerIn (received : Http.Received) : Except ResponderFault String :=
  match received.complete, Answer.reader.decode received.body with
  | true, .ok answer => .ok answer.answer
  | _, _ => .error (.invalidResponse Http.FetchFault.unreadable.message)

/-- What a fetched response means for a question. -/
def interpret : Except Http.FetchFault Http.Final → Except ResponderFault String
  | .error fault => .error (.network fault.message)
  | .ok final =>
    if final.received.status.isSuccess then answerIn final.received
    else .error (.unsuccessful final.received.status)

/-- What a fetched response means for the classifier's health. -/
def verdict : Except Http.FetchFault Http.Final → Except ResponderFault Unit
  | .error fault => .error (.network fault.message)
  | .ok final =>
    if final.received.status.isSuccess then .ok () else .error (.unsuccessful final.received.status)

/-- What is logged about a fetched response. -/
def eventsOf (url : String) : Except Http.FetchFault Http.Final → List LogEvent
  | .error _ => []
  | .ok final =>
    if final.received.status.isSuccess then [] else [refusedEvent url final.received.status]

variable {σ : Type}

/-- Posts a question. -/
def post (classifier : Classifier) (network : Http.Network σ) (current : Option Trace.SpanContext)
    (question : String) (id : Option String) (state : σ) : Http.Fetched σ :=
  let headers := Trace.write (Http.Headers.ofTexts [("content-type", "application/json")]) current id
  Http.Client.send network "POST" classifier.url headers (Question.document ⟨question⟩) state

/-- Asks how the classifier is, at the address for it. -/
def inquire (network : Http.Network σ) (current : Option Trace.SpanContext) (url : String)
    (state : σ) : Http.Fetched σ :=
  Http.Client.send network "GET" url (Trace.write [] current none) [] state

/-- The responder that asks the classifier while a span is current. -/
def responder (classifier : Classifier) (network : Http.Network σ)
    (current : Option Trace.SpanContext) : Responder σ where
  name := "http"
  answer question id state :=
    let fetched := classifier.post network current question id state
    { result := interpret fetched.result, state := fetched.state
      events := eventsOf classifier.url fetched.result }
  health state :=
    match classifier.healthUrl with
    | none => { result := .ok (), state }
    | some url =>
      let fetched := inquire network current url state
      { result := verdict fetched.result, state := fetched.state }

end Classifier

end ChatGateway
