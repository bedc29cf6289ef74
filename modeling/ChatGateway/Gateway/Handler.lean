import ChatGateway.Envelope
import ChatGateway.Gateway.Extract
import ChatGateway.Gateway.Task
import ChatGateway.Site.Page

/-!
# Handlers

What each route answers: the page, a reply to a question, the health of the responder in two
forms, and the measurements.
-/

namespace ChatGateway.Handler

/-- Answers with a failure and logs it. -/
def fail (failure : Failure) : Task Http.Response := .log failure.event (.done failure.response)

/-- The chat page. -/
def page : Service := fun _ => .done (.page (Site.page Site.title))

/-- The part of the program that speaks while questions are answered. -/
def target : String := "chatbot_service::handlers::chat"

/-- The event of a question that was answered. -/
def servedEvent (responder : String) (question : Question) (answer : String) : LogEvent where
  level := .debug
  target := target
  message := "Prediction served"
  fields := [("responder", .text responder), ("message_len", .number question.message.utf8ByteSize),
    ("answer_len", .number answer.utf8ByteSize)]

/-- The event of a question that the responder failed to answer. -/
def failedEvent (responder : String) (fault : ResponderFault) : LogEvent where
  level := .error
  target := target
  message := "Responder failed"
  fields := [("responder", .text responder), ("error", .text fault.message)]

/-- Answers a question with what the responder said. -/
def answerWith (responder : String) (question : Question) (reply : Reply String) :
    Task Http.Response :=
  .logAll reply.events <| .measure (.answered responder reply.seconds) <|
    match reply.result with
    | .ok answer =>
      .measure (.predicted ⟨responder, "ok"⟩) <| .log (servedEvent responder question answer) <|
        .done (.json 200 (Answer.document ⟨answer⟩))
    | .error fault =>
      .measure (.predicted ⟨responder, fault.kind⟩) <| .log (failedEvent responder fault) <|
        fail fault.failure

/-- Reads a question from the request and asks the responder. -/
def predict (responder : String) : Service := fun request =>
  match Extract.read Question.reader request with
  | .error refusal => fail (refusal.failure request.body)
  | .ok question => .ask question.message request.id (answerWith responder question)

/-- The name under which the service reports. -/
def serviceName : String := "chatbot-service"

/-- The version that the service reports. -/
def serviceVersion : String := "0.1.0"

/-- The document about the responder's health. -/
def healthDocument : Except ResponderFault Unit → Bytes
  | .ok () =>
    Json.writeObject
      [("service", serviceName), ("status", "ok"), ("version", serviceVersion)]
  | .error fault =>
    Json.writeObject
      [("error", fault.message), ("service", serviceName), ("status", "unhealthy")]

/-- The status that tells whether the responder is well. -/
def healthStatus : Except ResponderFault Unit → Http.Status
  | .ok () => 200
  | .error _ => 503

/-- Tells about the responder's health. -/
def health : Service := fun _ =>
  .probe fun reply => .logAll reply.events <|
    .done (.json (healthStatus reply.result) (healthDocument reply.result))

/-- Tells by the status alone whether the responder is well. -/
def ready : Service := fun _ =>
  .probe fun reply => .logAll reply.events <| .done (.empty (healthStatus reply.result))

/-- Shows the measurements. -/
def metrics : Service := fun _ => .showMetrics fun text => .done (.text 200 text)

end ChatGateway.Handler
