import ChatGateway.Http.Message
import ChatGateway.Json.Writer
import ChatGateway.Log

/-!
# Failures and their answers

Every way in which the gateway fails, with what the client is told: a status and an object
with the member `error`, and a member `details` where the message itself is withheld from
`error`. Of the cause of a failure only the outermost message is ever shown.
-/

namespace ChatGateway

/-- A message and the messages of the causes behind it, outermost first. -/
structure Cause where
  message : String
  behind : List String := []
  deriving DecidableEq, Repr

/-- A failure. -/
inductive Failure where
  | badRequest (cause : Cause)
  | notFound (cause : Cause)
  | internal (cause : Cause)
  | badGateway (text : String)
  | unavailable
  | settings (cause : Cause)
  deriving DecidableEq, Repr

namespace Failure

/-- The failure in words. -/
def message : Failure → String
  | badRequest cause => "Bad request: " ++ cause.message
  | notFound cause => "Not found: " ++ cause.message
  | internal cause => "Internal server error: " ++ cause.message
  | badGateway text => "Bad Gateway: " ++ text
  | unavailable => "Service Unavailable"
  | settings cause => "Configuration error: " ++ cause.message

/-- The status of the answer. -/
def status : Failure → Http.Status
  | badRequest _ => 400
  | notFound _ => 404
  | internal _ | settings _ => 500
  | badGateway _ => 502
  | unavailable => 503

/-- The member `error` of the answer. -/
def summary : Failure → String
  | badRequest cause | notFound cause => cause.message
  | internal _ => "Internal server error"
  | badGateway text => "Bad Gateway: " ++ text
  | unavailable => "Service unavailable"
  | settings _ => "Configuration error"

/-- The member `details` of the answer, if it has one. -/
def details : Failure → Option String
  | internal cause | settings cause => some cause.message
  | _ => none

/-- The document of the answer. -/
def document (failure : Failure) : Bytes :=
  Json.writeObject
    (("error", failure.summary) :: (failure.details.map fun text => ("details", text)).toList)

/-- The answer. -/
def response (failure : Failure) : Http.Response := .json failure.status failure.document

/-- The event that is logged when a failure is answered. -/
def event (failure : Failure) : LogEvent where
  level := if failure.status.isServerError then .error else .warn
  target := "service_core::error"
  message := if failure.status.isServerError then "Request failed" else "Request rejected"
  fields := [("status", .number failure.status), ("error", .text failure.message)]

end Failure

end ChatGateway
