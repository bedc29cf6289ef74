import ChatGateway.Gateway.Endpoint
import ChatGateway.Gateway.Handler
import ChatGateway.Gateway.Layer
import ChatGateway.Http.StaticFiles

/-!
# The gateway

Which path is served by what, and the layers around it: every request gets an id, is logged
in a span, and is answered with the security fields; requests to the five routes are counted.
-/

namespace ChatGateway

/-- What a path is served by. -/
inductive Route where
  | page
  | predict
  | health
  | ready
  | metrics
  /-- The files of the page; the path below their directory. -/
  | assets (path : String)
  deriving DecidableEq, Repr

namespace Route

/-- The path under which the page's files are found. -/
def assetsPath : String := "/static"

/-- The route of a path. -/
def ofPath? (path : String) : Option Route :=
  if path = "/" then some .page
  else if path = "/predict" then some .predict
  else if path = "/health" then some .health
  else if path = "/ready" then some .ready
  else if path = "/metrics" then some .metrics
  else if path = assetsPath then some (.assets "/")
  else if (assetsPath ++ "/").toList.isPrefixOf path.toList then
    some (.assets (String.ofList (path.toList.drop assetsPath.length)))
  else none

/-- The template under which requests to the route are counted; the files have none. -/
def template? : Route → Option String
  | page => some "/"
  | predict => some "/predict"
  | health => some "/health"
  | ready => some "/ready"
  | metrics => some "/metrics"
  | assets _ => none

end Route

/-- A gateway: the name of its responder and the files of its page. -/
structure Gateway where
  responder : String
  assets : Http.Assets

namespace Gateway

/-- Serves a file of the page. -/
def serveFile (gateway : Gateway) (path : String) : Service := fun request =>
  let below := { request with target := { request.target with path } }
  let (response, event) := Http.StaticFiles.answer gateway.assets below
  .logAll event.toList (.done (Endpoint.measured response))

/-- The endpoint of a route that is counted. -/
def endpoint (gateway : Gateway) : Route → Endpoint
  | .page => { get := some Handler.page }
  | .predict => { post := some (Handler.predict gateway.responder) }
  | .health => { get := some Handler.health }
  | .ready => { get := some Handler.ready }
  | .metrics => { get := some Handler.metrics }
  | .assets _ => {}

/-- Serves a request by its path, without the layers that all requests pass. -/
def dispatch (gateway : Gateway) : Service := fun request =>
  match Route.ofPath? request.target.path with
  | none => .done Endpoint.absent
  | some (.assets path) => gateway.serveFile path request
  | some route =>
    Layer.count (gateway.endpoint route).serve { request with route := route.template? }

/-- The service of the gateway. -/
def service (gateway : Gateway) : Service :=
  Layer.requestId (Layer.trace (Layer.security gateway.dispatch))

/-- Serves one request after another. -/
def serveAll {σ : Type} (gateway : Gateway) (around : Surroundings σ) :
    List Http.Request → World σ → List Http.Response × World σ
  | [], world => ([], world)
  | request :: rest, world =>
    let (response, world) := (gateway.service request).run around world
    let (responses, world) := gateway.serveAll around rest world
    (response :: responses, world)

end Gateway

end ChatGateway
