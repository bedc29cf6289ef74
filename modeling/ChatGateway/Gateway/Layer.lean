import ChatGateway.Gateway.Task
import ChatGateway.Trace.Context

/-!
# Layers

A layer turns a service into one that does something more for every request. The layers
here give each request an id, set the security fields of each answer, count the requests of
each route, and open a span for the log.
-/

namespace ChatGateway

/-- A service around a service. -/
abbrev Layer := Service → Service

namespace Layer

/-! ## Request ids -/

/-- The id that a request brings along: its first one, if that is visible and not empty. -/
def givenId? (headers : Http.Headers) : Option String :=
  ((headers.get? Trace.requestIdField).bind Http.visibleText?).filter (!·.isEmpty)

/-- Serves a request under an id, which the answer carries as well. -/
def underId (inner : Service) (id : String) (request : Http.Request) : Task Http.Response :=
  let headers := Trace.setLegal request.headers Trace.requestIdField id
  (inner { request with headers, id := some id }).map fun response =>
    { response with headers := Trace.setLegal response.headers Trace.requestIdField id }

/-- Gives every request an id: its own, or a new one. -/
def requestId : Layer := fun inner request =>
  match givenId? request.headers with
  | some id => underId inner id request
  | none => .drawId fun uuid => underId inner uuid.text request

/-! ## Security fields -/

/-- Whether a path is that of the page or of its assets. -/
def isPagePath (path : String) : Bool := path = "/" || "/static/".toList.isPrefixOf path.toList

/-- What the page may load: its own script, style and images, and its own service. -/
def pagePolicy : String :=
  "default-src 'self'; script-src 'self'; style-src 'self'; img-src 'self' data:; " ++
    "connect-src 'self'; frame-ancestors 'none'"

/-- Nothing may be loaded. -/
def strictPolicy : String := "default-src 'none'; frame-ancestors 'none'"

/-- The policy for a path. -/
def policy (path : String) : String := if isPagePath path then pagePolicy else strictPolicy

/-- Sets the security fields of an answer to a request for a path. -/
def secure (path : String) (response : Http.Response) : Http.Response :=
  let headers := response.headers
    |>.setText "x-content-type-options" "nosniff"
    |>.setText "x-frame-options" "DENY"
    |>.setText "referrer-policy" "no-referrer"
    |>.setText "content-security-policy" (policy path)
  { response with headers }

/-- Sets the security fields of every answer. -/
def security : Layer := fun inner request =>
  (inner request).map (secure request.target.path)

/-! ## Counting requests -/

/-- The label of requests that no route serves. -/
def noRoute : String := "unmatched"

/-- Counts every request with its method, route and status, and takes its duration. -/
def count : Layer := fun inner request =>
  (inner request).bind fun response =>
    let served : Metrics.Served := ⟨request.method, request.route.getD noRoute, response.status⟩
    .measure (.served served) (.measure (.timed served) (.done response))

/-! ## Spans -/

/-- The span of a request. -/
def spanOf (request : Http.Request) : LogSpan where
  name := "http_request"
  fields := [
    ("request_id",
      ((request.headers.get? Trace.requestIdField).bind Http.visibleText?).getD "-"),
    ("method", request.method), ("uri", request.target.text), ("version", "HTTP/1.1")]

/-- The event of an answer that puts the blame on the server. -/
def failedEvent (status : Http.Status) : LogEvent where
  level := .error
  target := "tower_http::trace::on_failure"
  message := "response failed"
  fields := [("classification", .text ("Status code: " ++ status.text)), ("latency", .duration)]

/-- Opens a span for every request and logs the answers that failed. -/
def trace : Layer := fun inner request =>
  ((inner request).bind fun response =>
    if response.status.isServerError then .log (failedEvent response.status) (.done response)
    else .done response).within (spanOf request)

end Layer

end ChatGateway
