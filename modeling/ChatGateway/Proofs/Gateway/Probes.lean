import ChatGateway.Application.Selection
import ChatGateway.Proofs.Classifier.Health
import ChatGateway.Proofs.Gateway.Quiet
import ChatGateway.Proofs.Gateway.RouteCounts
import ChatGateway.Proofs.Settings.Reading

/-!
# What the probes tell

Two paths tell whether the responder is well, one with a document and one by the status alone. A visit to
either asks the responder for its health once, and the answer is what the responder says. Beyond that
only the request itself leaves a trace: an id is chosen for it, it is counted, and it is logged.

Which responder that is, and what its health depends on, follows from the settings. A responder that
echoes is always well, and so is a classifier without an address for its health; otherwise the last
answer at that address decides.
-/

namespace ChatGateway

variable {σ : Type}

/-- The paths that tell whether the responder is well. -/
inductive Probe where
  | health
  | ready
  deriving DecidableEq, Repr

namespace Probe

/-- The route of a probe. -/
def route : Probe → Route
  | health => .health
  | ready => .ready

/-- The path under which a probe is asked. -/
def path : Probe → String
  | health => "/health"
  | ready => "/ready"

/-- The service behind a probe. -/
def service : Probe → Service
  | health => Handler.health
  | ready => Handler.ready

/-- What is answered if the responder says this of its health. -/
def answerTo : Probe → Except ResponderFault Unit → Http.Response
  | health, result => .json (Handler.healthStatus result) (Handler.healthDocument result)
  | ready, result => .empty (Handler.healthStatus result)

/-- Both probes ask the responder about its health, note its events and answer by the result. -/
theorem service_eq (probe : Probe) (request : Http.Request) :
    probe.service request =
      .probe fun reply => .logAll reply.events (.done (probe.answerTo reply.result)) := by
  cases probe <;> rfl

/-- Both probes have the status that the result of the responder gives. -/
theorem status_answerTo (probe : Probe) (result : Except ResponderFault Unit) :
    (probe.answerTo result).status = Handler.healthStatus result := by
  cases probe <;> rfl

/-- What a probe does where the responder is in a state: the responder is asked for its health, and the
request is counted. -/
def notices (probe : Probe) (around : Surroundings σ) (state : σ) : List (Notice σ) :=
  let outcome := around.responder.health state
  .probed outcome :: (outcome.events.map .logged ++
    Notice.ofLabels ⟨"GET", probe.path, Handler.healthStatus outcome.result⟩)

/-- A probe calls the responder once, about its health. -/
theorem filter_callsResponder_notices (probe : Probe) (around : Surroundings σ) (state : σ) :
    (probe.notices around state).filter Notice.callsResponder =
      [.probed (around.responder.health state)] := by
  rw [notices, List.filter_cons_of_pos rfl, List.filter_append, Notice.filter_callsResponder_logged]
  rfl

end Probe

namespace Gateway

/-- A request to a probe is counted and reaches the probe. -/
theorem dispatch_of_probe (gateway : Gateway) {probe : Probe} {request : Http.Request}
    (method : request.method = "GET") (path : request.target.path = probe.path) :
    gateway.dispatch request =
      Layer.count (fun request => (probe.service request).map Endpoint.measured)
        { request with route := some probe.path } := by
  have route : Route.ofPath? request.target.path = some probe.route := by
    rw [path]
    cases probe <;> decide
  cases probe <;> simp only [dispatch, route, Probe.route, Layer.count, Endpoint.serve, method] <;> rfl

/-- A request to a probe, and the world in which it is served, where the responder is in this state. -/
structure Visit (probe : Probe) (state : σ) where
  request : Http.Request
  world : World σ
  method : request.method = "GET"
  path : request.target.path = probe.path
  found : world.responder = state

namespace Visit

variable {probe : Probe} {state : σ} (visit : Visit probe state) (gateway : Gateway)
  (around : Surroundings σ)

/-- The answer to the visit and the world that it leaves. -/
def served : Http.Response × World σ := (gateway.service visit.request).run around visit.world

/-- What is noticed of the visit. -/
def notices : List (Notice σ) := (gateway.service visit.request).notices around visit.world

/-- The request as the endpoint sees it. -/
def seen : Http.Request :=
  Layer.identified (Layer.idIn around visit.world visit.request.headers) visit.request

/-- A visit reaches its probe and is counted. -/
theorem dispatch_seen :
    gateway.dispatch (visit.seen around) =
      Layer.count (fun request => (probe.service request).map Endpoint.measured)
        { visit.seen around with route := some probe.path } :=
  gateway.dispatch_of_probe visit.method visit.path

/-- The endpoint answers what the responder says, -/
theorem run_dispatch :
    ((gateway.dispatch (visit.seen around)).run around
      (Layer.idWorld around visit.world visit.request.headers)).1 =
        Endpoint.measured (probe.answerTo (around.responder.health state).result) := by
  -- Choosing an id leaves the responder in the state in which the visit finds it.
  rw [dispatch_seen, Layer.run_count_fst, Task.run_map, probe.service_eq, Task.run, Task.run_logAll,
    responder_idWorld, visit.found]
  rfl

/-- which it asks once. -/
theorem notices_dispatch :
    (gateway.dispatch (visit.seen around)).notices around
      (Layer.idWorld around visit.world visit.request.headers) = probe.notices around state := by
  have answered := visit.run_dispatch gateway around
  rw [dispatch_seen, Layer.run_count_fst] at answered
  have method : (visit.seen around).method = "GET" := visit.method
  rw [dispatch_seen, Layer.notices_count, answered, Task.notices_map, probe.service_eq, Task.notices,
    Task.notices_logAll, responder_idWorld, visit.found]
  simp only [Layer.servedAs, method, Option.getD_some, Task.notices, List.append_nil]
  rw [Probe.notices, ← probe.status_answerTo]
  rfl

/-- A visit is answered with what the probe says of the health, in the layers of the gateway. -/
theorem served_fst :
    (visit.served gateway around).1 =
      Layer.stamped (Layer.idIn around visit.world visit.request.headers)
        (Layer.secure visit.request.target.path
          (Endpoint.measured (probe.answerTo (around.responder.health state).result))) := by
  rw [← visit.run_dispatch gateway around]
  exact run_layered_fst around gateway.dispatch visit.request visit.world

/-- The layers keep the status and the body. -/
theorem status_served :
    (visit.served gateway around).1.status =
      Handler.healthStatus (around.responder.health state).result := by
  rw [served_fst, ← probe.status_answerTo]
  rfl

/-- The layers leave the body that the probe gives. -/
theorem body_served :
    (visit.served gateway around).1.body = (probe.answerTo (around.responder.health state).result).body := by
  rw [served_fst]
  rfl

/-- A visit asks the responder for its health and does nothing else to it. All that is noticed besides is
that an id is chosen and that the request is counted and logged; no measurement of questions is taken. -/
structure OnlyProbes : Prop where
  calls : (visit.notices gateway around).filter Notice.callsResponder =
    [.probed (around.responder.health state)]
  notices : visit.notices gateway around =
    Layer.idNotices around visit.world visit.request.headers ++
      (probe.notices around state ++
        Layer.failureNotices (Handler.healthStatus (around.responder.health state).result)).map
          (Notice.within (Layer.spanOf (visit.seen around)))
  responder : (visit.served gateway around).2.responder = (around.responder.health state).state
  registry : (visit.served gateway around).2.measurements.registry = visit.world.measurements.registry

/-- A visit calls the responder once, about its health. -/
theorem filter_callsResponder_notices :
    (visit.notices gateway around).filter Notice.callsResponder =
      [.probed (around.responder.health state)] := by
  rw [notices, service_eq_layered, Notice.ofServices_callsResponder.steady.filter_layered]
  change ((gateway.dispatch (visit.seen around)).notices around _).filter Notice.callsResponder = _
  rw [notices_dispatch, probe.filter_callsResponder_notices]

/-- A visit asks the responder about its health and does nothing else with it. -/
theorem onlyProbes : visit.OnlyProbes gateway around := by
  constructor
  case calls => exact visit.filter_callsResponder_notices gateway around
  case notices =>
    rw [notices, service_eq_layered, notices_layered]
    change _ ++ ((gateway.dispatch (visit.seen around)).notices around _ ++
      Layer.failureNotices ((gateway.dispatch (visit.seen around)).run around _).1.status).map _ = _
    rw [notices_dispatch, run_dispatch, ← probe.status_answerTo]
    rfl
  case responder =>
    rw [served, Task.run_snd_eq_foldl, Notice.responder_foldl_applyTo]
    exact congrArg (fun calls => (calls.foldl Notice.applyTo visit.world).responder)
      (visit.filter_callsResponder_notices gateway around)
  case registry =>
    have unposted : ¬ PostsQuestion (visit.seen around) := by
      intro posts
      have get : (visit.seen around).method = "GET" := visit.method
      rw [posts.method] at get
      contradiction
    rw [served, Task.run_snd_eq_foldl, Notice.registry_foldl_filter, service_eq_layered,
      Notice.ofServices_ofQuestion.steady.filter_layered]
    exact congrArg (fun notices => (notices.foldl Notice.applyTo visit.world).measurements.registry)
      (Task.filter_notices_of_isQuiet around (gateway.isQuiet_dispatch unposted) _)

end Visit

end Gateway

/-- The responder that the settings name, while a span is current. -/
def ResponderSettings.chosen (settings : ResponderSettings) (network : Http.Network σ)
    (current : Option Trace.SpanContext) : Responder σ :=
  match settings.kind with
  | .echo => Echo.responder σ
  | .http => (Classifier.mk settings.url settings.healthUrl).responder network current

namespace ResponderSettings

variable {settings : ResponderSettings}

/-- The program selects the responder that the settings name. -/
theorem chosen_of_selectResponder {network : Http.Network σ} {responder : Responder σ} {event : LogEvent}
    (h : Application.selectResponder network settings = .ok (responder, event)) :
    responder = settings.chosen network none := by
  cases kind : settings.kind with
  | echo =>
    simp only [Application.selectResponder, kind] at h
    cases h
    simp only [chosen, kind]
  | http =>
    simp only [Application.selectResponder, kind, Classifier.ofUrls] at h
    split at h
    · contradiction
    · rename_i classifier made
      split at made
      · contradiction
      · cases made
        cases h
        simp only [chosen, kind]

variable (network : Http.Network σ) (current : Option Trace.SpanContext)

/-- A responder that has nobody to ask is well. -/
theorem health_of_quiet (quiet : settings.kind = .echo ∨ settings.healthUrl = none) (state : σ) :
    (settings.chosen network current).health state = { result := .ok (), state } := by
  cases kind : settings.kind with
  | echo =>
    simp only [chosen, kind]
    rfl
  | http =>
    have without : settings.healthUrl = none := quiet.resolve_left (by simp [kind])
    simp only [chosen, kind]
    exact Classifier.health_of_none network current state ⟨settings.url, settings.healthUrl⟩ without

/-- A classifier with an address for its health is asked there. -/
theorem health_recording (kind : settings.kind = .http) {url : String}
    (address : settings.healthUrl = some url) (state : σ) (before : List Http.Outbound) :
    let fetched := Classifier.inquire network current url state
    (settings.chosen network.recording current).health (state, before) =
      { result := Classifier.verdict fetched.result, state := (fetched.state, before ++ fetched.sent) } := by
  simp only [chosen, kind]
  exact Classifier.health_recording network current state ⟨settings.url, settings.healthUrl⟩ address before

/-- What is said of the health does not depend on the bodies of the answers. -/
theorem health_withBodies (bodies : Http.Received → Bytes × Bool) (state : σ) :
    (settings.chosen (network.withBodies bodies) current).health state =
      (settings.chosen network current).health state := by
  cases kind : settings.kind with
  | echo => simp only [chosen, kind]
  | http =>
    simp only [chosen, kind]
    exact Classifier.health_withBodies network current state _ bodies

end ResponderSettings

namespace Gateway

/-- The members of the document that tells that the responder is well. -/
def wellMembers : List (String × String) :=
  [("service", "chatbot-service"), ("status", "ok"), ("version", "0.1.0")]

/-- The members of the document that tells what is wrong with the responder. -/
def unwellMembers (fault : ResponderFault) : List (String × String) :=
  [("error", fault.message), ("service", "chatbot-service"), ("status", "unhealthy")]

/-- The status is the good one exactly if the responder is well. -/
theorem healthStatus_eq_ok_iff (result : Except ResponderFault Unit) :
    Handler.healthStatus result = 200 ↔ result = .ok () := by
  cases result <;> simp [Handler.healthStatus]

/-- The answers of both probes tell the same, and that is what the responder said. -/
structure Agree (result : Except ResponderFault Unit) (health ready : Http.Response) : Prop where
  alike : health.status = 200 ∧ Json.Holds health.body wellMembers ↔ ready.status = 200
  well : ready.status = 200 ↔ result = .ok ()
  unwell : ready.status ≠ 200 → ∃ fault, result = .error fault ∧
    health.status = 503 ∧ Json.Holds health.body (unwellMembers fault) ∧
    ready.status = 503 ∧ ready.body = []

/-- Visits of both probes agree if they find the responder in the same state. -/
theorem agree_visits {state : σ} (gateway : Gateway) (around : Surroundings σ)
    (health : Visit .health state) (ready : Visit .ready state) :
    Agree (around.responder.health state).result (health.served gateway around).1
      (ready.served gateway around).1 := by
  have told := health.status_served gateway around
  have document := health.body_served gateway around
  have status := ready.status_served gateway around
  have empty := ready.body_served gateway around
  cases said : (around.responder.health state).result with
  | ok well =>
    rw [said] at told document status
    have holds : Json.Holds (health.served gateway around).1.body wellMembers := by
      rw [document]
      exact Json.decode_writeObject wellMembers
    constructor
    case alike => exact ⟨fun _ => status, fun _ => ⟨told, holds⟩⟩
    case well => exact ⟨fun _ => rfl, fun _ => status⟩
    case unwell => exact fun other => absurd status other
  | error fault =>
    rw [said] at told document status empty
    constructor
    case alike =>
      rw [told, status]
      simp [healthStatus_eq_ok_iff]
    case well => rw [status, healthStatus_eq_ok_iff]
    case unwell =>
      intro _
      refine ⟨fault, rfl, told, ?_, status, empty⟩
      rw [document]
      exact Json.decode_writeObject (unwellMembers fault)

/-- What the probes tell, and whom they ask, follows from the settings of the responder. The network keeps
what it is asked behind what it was asked before. -/
structure Follows (settings : ResponderSettings) (network : Http.Network σ)
    (current : Option Trace.SpanContext) (state : σ) (before : List Http.Outbound)
    (health ready : Http.Response × World (σ × List Http.Outbound)) : Prop where
  /-- Nobody is asked about a responder that echoes, or without an address for the health. -/
  quiet : settings.kind = .echo ∨ settings.healthUrl = none →
    health.1.status = 200 ∧ ready.1.status = 200 ∧
      health.2.responder = (state, before) ∧ ready.2.responder = (state, before)
  asked : ∀ url, settings.kind = .http → settings.healthUrl = some url →
    (health.1.status = 200 ↔ Classifier.IsWell network current url state) ∧
      (ready.1.status = 200 ↔ Classifier.IsWell network current url state) ∧
      ∃ sent, Classifier.Inquires url sent ∧
        health.2.responder.2 = before ++ sent ∧ ready.2.responder.2 = before ++ sent

section Probing

variable {network : Http.Network σ} {current : Option Trace.SpanContext} {state : σ}
  {before : List Http.Outbound} {around : Surroundings (σ × List Http.Outbound)} (gateway : Gateway)
  (health : Visit .health (state, before)) (ready : Visit .ready (state, before))

/-- Visits of both probes follow the settings of the responder. -/
theorem follows_visits {settings : ResponderSettings}
    (chosen : around.responder = settings.chosen network.recording current) :
    Follows settings network current state before (health.served gateway around)
      (ready.served gateway around) := by
  constructor
  case quiet =>
    intro quiet
    have said := ResponderSettings.health_of_quiet network.recording current quiet (state, before)
    rw [health.status_served, ready.status_served, (health.onlyProbes gateway around).responder,
      (ready.onlyProbes gateway around).responder, chosen, said]
    exact ⟨rfl, rfl, rfl, rfl⟩
  case asked =>
    intro url kind address
    have said := ResponderSettings.health_recording network current kind address state before
    rw [health.status_served, ready.status_served, (health.onlyProbes gateway around).responder,
      (ready.onlyProbes gateway around).responder, chosen, said, healthStatus_eq_ok_iff,
      Classifier.verdict_inquire_eq_ok_iff]
    exact ⟨.rfl, .rfl, _, Classifier.inquires_inquire network current url state, rfl, rfl⟩

/-- Both probes tell what the responder of the settings says of its health, and have no other effect. The
responder is well if it has nobody to ask, and otherwise exactly if the last answer at the address for its
health is a success, whatever its body is. That address is the variable for it, unless it is blank. -/
theorem probes_tell_health {home : String} {common : ListenAddress} {lookup : Lookup}
    {settings : Settings} (read : Settings.read home common lookup = .ok settings)
    (chosen : around.responder = settings.responder.chosen network.recording current) :
    Agree (around.responder.health (state, before)).result (health.served gateway around).1
        (ready.served gateway around).1 ∧
      health.OnlyProbes gateway around ∧ ready.OnlyProbes gateway around ∧
      Follows settings.responder network current state before (health.served gateway around)
        (ready.served gateway around) ∧
      (∀ bodies, (settings.responder.chosen (network.recording.withBodies bodies) current).health
        (state, before) = around.responder.health (state, before)) ∧
      (settings.responder.healthUrl = none ↔ ∀ text, lookup "RESPONDER_HEALTH_URL" = some text →
        ∀ c ∈ text.toList, Text.isBlank c) ∧
      (∀ url, settings.responder.healthUrl = some url ↔ lookup "RESPONDER_HEALTH_URL" = some url ∧
        ∃ c ∈ url.toList, Text.isBlank c = false) ∧
      ∀ made event, Application.selectResponder network.recording settings.responder = .ok (made, event) →
        made = settings.responder.chosen network.recording none := by
  have address := (Settings.read_eq_ok_iff.mp read).2.healthUrl
  refine ⟨agree_visits gateway around health ready, health.onlyProbes gateway around,
    ready.onlyProbes gateway around, follows_visits gateway health ready chosen, ?_, ?_, ?_, ?_⟩
  · intro bodies
    rw [chosen]
    exact ResponderSettings.health_withBodies network.recording current bodies (state, before)
  · rw [(lookup.eq_optional_iff _).mpr address, lookup.optional_eq_none_iff, lookup.says_nothing_iff]
  · exact address
  · intro made event selected
    exact ResponderSettings.chosen_of_selectResponder selected

end Probing

/-- Where the classifier cannot be reached at the address for its health, both probes tell so. -/
theorem probes_tell_health_of_unreachable :
    let lookup : Lookup := fun key =>
      if key = "RESPONDER_HEALTH_URL" then some "http://[::1]/health" else none
    let settings : Settings := {
      common := {}
      responder := ⟨.http, "http://classifier:5005/classify", some "http://[::1]/health", 30⟩
      resources := ⟨none, "data", "punkt.zip"⟩
      observability := ⟨"info", none⟩
      staticDirectory := "/srv/static" }
    let network := Http.Network.unreachable Unit
    let around : Surroundings (Unit × List Http.Outbound) :=
      ⟨settings.responder.chosen network.recording none, fun _ => ⟨0⟩⟩
    let start : World (Unit × List Http.Outbound) := { responder := ((), []) }
    let health : Visit .health ((), []) :=
      ⟨⟨"GET", { path := "/health" }, [], [], none, none⟩, start, rfl, rfl, rfl⟩
    let ready : Visit .ready ((), []) :=
      ⟨⟨"GET", { path := "/ready" }, [], [], none, none⟩, start, rfl, rfl, rfl⟩
    Settings.read "/srv" {} lookup = .ok settings ∧
      (health.served echoing around).1.status = 503 ∧ (ready.served echoing around).1.status = 503 := by
  intro lookup settings network around start health ready
  have read : Settings.read "/srv" {} lookup = .ok settings := by decide
  have chosen : around.responder = settings.responder.chosen network.recording none := rfl
  obtain ⟨agree, -, -, follows, -⟩ := probes_tell_health echoing health ready read chosen
  have ill : ¬ Classifier.IsWell network none "http://[::1]/health" () := by
    intro well
    obtain ⟨_, _, _, ⟨_, _, _, _, _, answered, _⟩, _⟩ := well
    cases answered
  have failed : (ready.served echoing around).1.status ≠ 200 :=
    fun well => ill ((follows.asked _ rfl rfl).2.1.mp well)
  obtain ⟨_, _, told, _, other, _⟩ := agree.unwell failed
  exact ⟨read, told, other⟩

end Gateway

end ChatGateway
