import ChatGateway.Failure
import ChatGateway.Http.MediaType
import ChatGateway.Json.Reader

/-!
# Reading bodies

A handler wants a value of some type from the body of a request. The body must be announced
as a JSON document, must not be too long, and must start with such a value. Every refusal
becomes one kind of failure, a bad request.
-/

namespace ChatGateway.Extract

/-- The greatest number of octets of a body. -/
def bodyLimit : Nat := 2 * 1024 * 1024

/-- Why no value is had from a body. -/
inductive Refusal where
  | notAnnounced
  | tooLong
  | unreadable (fault : Json.Fault)

/-- The refusal in words. -/
def Refusal.message (body : Bytes) : Refusal → String
  | notAnnounced => "Expected request with \x60Content-Type: application/json\x60"
  | tooLong => "Failed to buffer the request body: length limit exceeded"
  | unreadable fault =>
    (if fault.reason.category = .mistyped then
      "Failed to deserialize the JSON body into the target type: "
    else "Failed to parse the request body as JSON: ") ++ fault.locatedMessage body

/-- Reads a value from the body of a request. -/
def read {α : Type} (reader : Json.Reader α) (request : Http.Request) : Except Refusal α :=
  if !Http.MediaType.announcesJson request.headers then .error .notAnnounced
  else if bodyLimit < request.body.length then .error .tooLong
  else (reader.decodeFront request.body).mapError .unreadable

/-- The failure of a request whose body was refused. -/
def Refusal.failure (body : Bytes) (refusal : Refusal) : Failure :=
  .badRequest ⟨"Json parse error: " ++ refusal.message body, []⟩

end ChatGateway.Extract
