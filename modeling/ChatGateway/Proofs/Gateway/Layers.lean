import ChatGateway.Gateway.Router
import ChatGateway.Proofs.Gateway.Notices
import ChatGateway.Proofs.Http.Fields

/-!
# What the layers add

Each layer calls the service inside it exactly once. What a layer adds to the run of that
service is stated for any service: the id that is chosen beforehand and written on the answer,
the span around all events, the event of a failed answer, the security fields, and the two
measurements of a counted route.
-/

namespace ChatGateway

variable {σ : Type}

namespace Layer

/-- The id under which a request with these fields is served in a world. -/
def idIn (around : Surroundings σ) (world : World σ) (headers : Http.Headers) : String :=
  (givenId? headers).getD (around.ids world.drawn).text

/-- What is noticed of choosing the id: a draw, unless the request brings an id. -/
def idNotices (around : Surroundings σ) (world : World σ) (headers : Http.Headers) :
    List (Notice σ) :=
  if (givenId? headers).isSome then [] else [.drew (around.ids world.drawn)]

/-- The world in which the service inside the id layer is called. -/
def idWorld (around : Surroundings σ) (world : World σ) (headers : Http.Headers) : World σ :=
  (idNotices around world headers).foldl Notice.applyTo world

/-- The request as the service inside the id layer sees it. -/
def identified (id : String) (request : Http.Request) : Http.Request :=
  { request with
    headers := Trace.setLegal request.headers Trace.requestIdField id
    id := some id }

/-- The answer as the id layer lets it out. -/
def stamped (id : String) (response : Http.Response) : Http.Response :=
  { response with headers := Trace.setLegal response.headers Trace.requestIdField id }

variable (around : Surroundings σ) (inner : Service) (request : Http.Request) (world : World σ)

/-- The outermost layer runs the service on the identified request and names the id in its answer. -/
theorem run_requestId :
    let id := idIn around world request.headers
    let started := idWorld around world request.headers
    (requestId inner request).run around world =
      (stamped id ((inner (identified id request)).run around started).1,
        ((inner (identified id request)).run around started).2) := by
  cases h : givenId? request.headers with
  | some id =>
    simp only [requestId, h, idIn, idWorld, idNotices, Option.getD_some, Option.isSome_some,
      if_true, List.foldl_nil]
    exact Task.run_map around _ _ world
  | none =>
    simp only [requestId, h, idIn, idWorld, idNotices, Option.getD_none, Option.isSome_none,
      Bool.false_eq_true, if_false, List.foldl_cons, List.foldl_nil]
    exact Task.run_map around _ _ _

/-- What is noticed of choosing an id comes before what the service inside notices. -/
theorem notices_requestId :
    (requestId inner request).notices around world =
      idNotices around world request.headers ++
        (inner (identified (idIn around world request.headers) request)).notices around
          (idWorld around world request.headers) := by
  cases h : givenId? request.headers with
  | some id =>
    simp only [requestId, h, idIn, idWorld, idNotices, Option.getD_some, Option.isSome_some,
      if_true, List.foldl_nil, List.nil_append]
    exact Task.notices_map around _ _ world
  | none =>
    simp only [requestId, h, idIn, idWorld, idNotices, Option.getD_none, Option.isSome_none,
      Bool.false_eq_true, if_false, List.foldl_cons, List.foldl_nil, List.singleton_append]
    exact congrArg _ (Task.notices_map around _ _ _)

/-- What is noticed of an answer beyond the service that gave it: an event if it failed. -/
def failureNotices (status : Http.Status) : List (Notice σ) :=
  if status.isServerError then [.logged (failedEvent status)] else []

/-- The layer of spans leaves the answer as it is. -/
theorem run_trace_fst :
    ((trace inner request).run around world).1 = ((inner request).run around world).1 := by
  rw [trace, Task.run_within_fst, Task.run_bind]
  split <;> rfl

/-- The layer of spans puts everything inside its span, and notes a failure last. -/
theorem notices_trace :
    (trace inner request).notices around world =
      ((inner request).notices around world ++
        failureNotices ((inner request).run around world).1.status).map
          (Notice.within (spanOf request)) := by
  rw [trace, Task.notices_within, Task.notices_bind, failureNotices]
  split <;> rfl

/-- The layer of security fields changes the answer alone. -/
theorem run_security :
    (security inner request).run around world =
      (secure request.target.path ((inner request).run around world).1,
        ((inner request).run around world).2) :=
  Task.run_map around _ _ world

/-- Setting security fields is not noticed. -/
theorem notices_security :
    (security inner request).notices around world = (inner request).notices around world :=
  Task.notices_map around _ _ world

/-- What the counting layer counts of a request that is answered with a status. -/
def servedAs (status : Http.Status) : Metrics.Served :=
  ⟨request.method, request.route.getD noRoute, status⟩

/-- The layer that counts leaves the answer as it is. -/
theorem run_count_fst :
    ((count inner request).run around world).1 = ((inner request).run around world).1 := by
  rw [count, Task.run_bind]
  rfl

/-- The layer that counts notices the status that the request was served with, and how long it took,
after all else. -/
theorem notices_count :
    (count inner request).notices around world =
      (inner request).notices around world ++
        [.measured (.served (servedAs request ((inner request).run around world).1.status)),
          .measured (.timed (servedAs request ((inner request).run around world).1.status))] := by
  rw [count, Task.notices_bind]
  rfl

end Layer

namespace Gateway

/-- A service inside the layers that all requests pass. -/
def layered (inner : Service) : Service := Layer.requestId (Layer.trace (Layer.security inner))

/-- The service of the gateway is its dispatch inside four layers. -/
theorem service_eq_layered (gateway : Gateway) : gateway.service = layered gateway.dispatch := rfl

variable (around : Surroundings σ) (inner : Service) (request : Http.Request) (world : World σ)

/-- The answer of a service leaves the layers with security fields and the id. -/
theorem run_layered_fst :
    let id := Layer.idIn around world request.headers
    ((layered inner request).run around world).1 =
      Layer.stamped id (Layer.secure request.target.path
        ((inner (Layer.identified id request)).run around
          (Layer.idWorld around world request.headers)).1) := by
  simp only [layered, Layer.run_requestId, Layer.run_trace_fst, Layer.run_security]
  rfl

/-- What is noticed of a service inside the layers: the choice of the id, and inside the span
of the identified request what the service does and whether it failed. -/
theorem notices_layered :
    let seen := Layer.identified (Layer.idIn around world request.headers) request
    let started := Layer.idWorld around world request.headers
    (layered inner request).notices around world =
      Layer.idNotices around world request.headers ++
        ((inner seen).notices around started ++
          Layer.failureNotices ((inner seen).run around started).1.status).map
            (Notice.within (Layer.spanOf seen)) := by
  simp only [layered, Layer.notices_requestId, Layer.notices_trace, Layer.notices_security,
    Layer.run_security]
  rfl

end Gateway

namespace Notice

variable {test : Notice σ → Bool}

/-- Counting a request adds no notice of services. -/
theorem OfServices.filter_count (h : OfServices test) (around : Surroundings σ) (inner : Service)
    (request : Http.Request) (world : World σ) :
    ((Layer.count inner request).notices around world).filter test =
      ((inner request).notices around world).filter test := by
  rw [Layer.notices_count, List.filter_append]
  simp [h.served, h.timed]

/-- The layers that all requests pass add no steady notice. -/
theorem Steady.filter_layered (h : Steady test) (around : Surroundings σ) (inner : Service)
    (request : Http.Request) (world : World σ) :
    ((Gateway.layered inner request).notices around world).filter test =
      ((inner (Layer.identified (Layer.idIn around world request.headers) request)).notices around
        (Layer.idWorld around world request.headers)).filter test := by
  have draws : (Layer.idNotices around world request.headers).filter test = [] := by
    unfold Layer.idNotices
    split <;> simp [h.drew]
  have failure (status : Http.Status) : (Layer.failureNotices status).filter test = [] := by
    unfold Layer.failureNotices
    split <;> simp [h.logged]
  rw [Gateway.notices_layered, List.filter_append, draws, List.nil_append, h.filter_within,
    List.filter_append, failure, List.append_nil]

end Notice

end ChatGateway
