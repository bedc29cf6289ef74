import ChatGateway.Gateway.Task

/-!
# Endpoints

An endpoint serves the methods that it knows: reading, which also serves requests for the
header alone, and posting. Any other method is refused with a list of those known. Every
answer leaves with its length, which is that of the body even where the body is withheld.
-/

namespace ChatGateway

/-- The services of a path by method. -/
structure Endpoint where
  get : Option Service := none
  post : Option Service := none

namespace Endpoint

/-- Gives an answer its length. -/
def measured (response : Http.Response) : Http.Response :=
  { response with
    headers := response.headers.setMissing "content-length"
      (Bytes.ofText (Text.decimal response.body.length)) }

/-- Gives an answer its length and withholds its body. -/
def headerOnly (response : Http.Response) : Http.Response :=
  { measured response with body := [] }

/-- The methods that the endpoint knows. -/
def allowed (endpoint : Endpoint) : List String :=
  (if endpoint.get.isSome then ["GET", "HEAD"] else []) ++
    (if endpoint.post.isSome then ["POST"] else [])

/-- The answer to a method that the endpoint does not know. -/
def refusal (endpoint : Endpoint) : Http.Response :=
  measured ⟨405, Http.Headers.ofTexts [("allow", ",".intercalate endpoint.allowed)], []⟩

/-- The answer to a request for a path without an endpoint. -/
def absent : Http.Response := measured (.empty 404)

/-- Serves a request by its method. -/
def serve (endpoint : Endpoint) : Service := fun request =>
  let known : Option (Task Http.Response) := match request.method with
    | "GET" => endpoint.get.map fun (service : Service) => (service request).map measured
    | "HEAD" => endpoint.get.map fun (service : Service) => (service request).map headerOnly
    | "POST" => endpoint.post.map fun (service : Service) => (service request).map measured
    | _ => none
  known.getD (.done endpoint.refusal)

end Endpoint

end ChatGateway
