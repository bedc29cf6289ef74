import ChatGateway.Proofs.Gateway.Quiet
import ChatGateway.Proofs.Metrics.Shown

/-!
# Accounting for a run

Serving a request either leaves the measurements of questions alone, or asks the responder once
and records that call, and then what the responder gave decides the status. So after any run of
requests the registry accounts for the calls of the responder, the statuses of the answers can be
read off it, and the measurements show it.
-/

namespace ChatGateway

variable {σ : Type}

namespace Handler

variable (around : Surroundings σ) (world : World σ)

/-- The notices of one question: the call, its duration and its outcome. -/
def questionNotices (responder message : String) (id : Option String) (outcome : Outcome σ String) :
    List (Notice σ) :=
  [.asked message id outcome, .measured (.answered responder outcome.seconds),
    .measured (.predicted ⟨responder, Metrics.outcomeLabel outcome.result⟩)]

/-- The notices of a question record its call. -/
theorem registry_foldl_questionNotices (responder message : String) (id : Option String)
    (outcome : Outcome σ String) (world : World σ) :
    ((questionNotices responder message id outcome).foldl Notice.applyTo world).measurements.registry =
      world.measurements.registry.map fun registry =>
        registry.record responder outcome.result outcome.seconds := by
  cases h : world.measurements.registry <;>
    simp [questionNotices, Notice.applyTo, Metrics.Measurements.take, h, Metrics.Registry.record]

/-- A question is noticed as one call with its duration and its outcome. -/
theorem filter_notices_ask (responder : String) (question : Question) (id : Option String) :
    ((Task.ask question.message id (answerWith responder question)).notices around world).filter
        Notice.ofQuestion =
      questionNotices responder question.message id
        (around.responder.answer question.message id world.responder) := by
  generalize houtcome : around.responder.answer question.message id world.responder = outcome
  rw [Task.notices, houtcome, List.filter_cons_of_pos rfl, answerWith, Task.notices_logAll,
    List.filter_append, Notice.filter_ofQuestion_logged]
  cases h : outcome.result with
  | ok answer =>
    simp only [Task.replyOf, h, questionNotices]
    rfl
  | error fault =>
    simp only [Task.replyOf, h, questionNotices]
    rfl

end Handler

namespace Gateway

variable {request : Http.Request} (gateway : Gateway) (around : Surroundings σ) (world : World σ)

/-- The status with which a client learns what the responder gave. -/
def replyStatus : Except ResponderFault String → Http.Status
  | .ok _ => 200
  | .error fault => faultStatus fault

/-- No reply of the responder refuses the request. -/
theorem replyStatus_ne_refused (result : Except ResponderFault String) : replyStatus result ≠ 400 := by
  rcases result with fault | answer
  · cases fault <;> simp [replyStatus, faultStatus]
  · simp [replyStatus]

/-- A response that tells what the responder gave has the status for it. -/
theorem Wraps.status {response : Http.Response} {result : Except ResponderFault String}
    (h : Wraps response result) : response.status = replyStatus result := by
  cases result with
  | ok answer => exact h.1
  | error fault => exact h.1

/-- What serving a request does to the measurements of questions: nothing, and then a posted request
was refused; or it records the one call that decides the status. -/
inductive Records (gateway : Gateway) (around : Surroundings σ) (world : World σ)
    (request : Http.Request) : List (Except ResponderFault String) → Prop
  | nothing
    (refused : PostsQuestion request →
      ((gateway.service request).run around world).1.status = 400)
    (quiet : ((gateway.service request).notices around world).filter Notice.ofQuestion = []) :
    Records gateway around world request []
  | call {message : String} {id : Option String} {outcome : Outcome σ String}
    (posts : PostsQuestion request)
    (status : ((gateway.service request).run around world).1.status = replyStatus outcome.result)
    (noticed : ((gateway.service request).notices around world).filter Notice.ofQuestion =
      Handler.questionNotices gateway.responder message id outcome) :
    Records gateway around world request [outcome.result]

/-- A question that is posted is noticed as one call with its duration and its outcome. -/
theorem filter_notices_of_ok (posts : PostsQuestion request) {question : Question}
    (h : Extract.read Question.reader request = .ok question) :
    let id := Layer.idIn around world request.headers
    ((gateway.service request).notices around world).filter Notice.ofQuestion =
      Handler.questionNotices gateway.responder question.message (some id)
        (around.responder.answer question.message (some id) world.responder) := by
  intro id
  rw [service_eq_layered, Notice.ofServices_ofQuestion.steady.filter_layered,
    dispatch_of_posts gateway (posts.identified id), Notice.ofServices_ofQuestion.filter_count,
    Task.notices_map]
  change ((Handler.predict gateway.responder (routed id request)).notices around _).filter _ = _
  rw [Handler.predict_of_ok ((read_routed id request).trans h), Handler.filter_notices_ask,
    responder_idWorld]
  rfl

/-- A question that is posted is recorded with what the responder gave. -/
theorem registry_of_ok (posts : PostsQuestion request) {question : Question}
    (h : Extract.read Question.reader request = .ok question) :
    let outcome := around.responder.answer question.message
      (some (Layer.idIn around world request.headers)) world.responder
    ((gateway.service request).run around world).2.measurements.registry =
      world.measurements.registry.map fun registry =>
        registry.record gateway.responder outcome.result outcome.seconds := by
  intro outcome
  rw [Task.run_snd_eq_foldl, Notice.registry_foldl_filter,
    filter_notices_of_ok gateway around world posts h, Handler.registry_foldl_questionNotices]

/-- What a request records is what it recorded of its questions. -/
theorem exists_records (request : Http.Request) :
    ∃ results, Records gateway around world request results := by
  let id := Layer.idIn around world request.headers
  by_cases posts : PostsQuestion request
  · cases h : Extract.read Question.reader request with
    | error refusal =>
      refine ⟨[], .nothing (fun _ => ?_) ?_⟩
      · rw [run_of_error gateway around world posts h]
        rfl
      · rw [service_eq_layered, Notice.ofServices_ofQuestion.steady.filter_layered]
        have seen : Extract.read Question.reader (Layer.identified id request) = .error refusal :=
          (read_routed id request).trans h
        exact Task.filter_notices_of_isQuiet around
          (gateway.isQuiet_dispatch_of_refused (posts.identified id) seen) _
    | ok question =>
      let outcome := around.responder.answer question.message (some id) world.responder
      have status : ((gateway.service request).run around world).1.status =
          replyStatus outcome.result := (wraps_of_read gateway around world posts h rfl).status
      exact ⟨_, .call posts status (filter_notices_of_ok gateway around world posts h)⟩
  · refine ⟨[], .nothing (fun posts => absurd posts ‹_›) ?_⟩
    rw [service_eq_layered, Notice.ofServices_ofQuestion.steady.filter_layered]
    have unposted : ¬ PostsQuestion (Layer.identified id request) := fun other =>
      posts ⟨other.method, other.path⟩
    exact Task.filter_notices_of_isQuiet around (gateway.isQuiet_dispatch unposted) _

namespace Records

open Metrics

variable {gateway around world} {results : List (Except ResponderFault String)}

/-- What is recorded is what the responder was noticed to give. -/
theorem filterMap_result? (h : Records gateway around world request results) :
    ((gateway.service request).notices around world).filterMap Notice.result? = results := by
  rw [← Notice.filterMap_result?_filter]
  cases h with
  | nothing refused quiet =>
    rw [quiet]
    rfl
  | call posts status noticed =>
    rw [noticed]
    rfl

/-- Serving a request keeps the account of the registry. -/
theorem accounts (h : Records gateway around world request results)
    {before : List (Except ResponderFault String)} {registry : Registry}
    (kept : registry.Accounts gateway.responder before)
    (known : world.measurements.registry = some registry) :
    ∃ later : Registry,
      ((gateway.service request).run around world).2.measurements.registry = some later ∧
        later.Accounts gateway.responder (before ++ results) := by
  rw [Task.run_snd_eq_foldl, Notice.registry_foldl_filter]
  cases h with
  | nothing refused quiet =>
    rw [quiet, List.append_nil]
    exact ⟨registry, known, kept⟩
  | @call message id outcome posts status noticed =>
    rw [noticed, Handler.registry_foldl_questionNotices, known]
    exact ⟨_, rfl, kept.record outcome.result outcome.seconds⟩

end Records

/-- What is noticed while one request after another is served. -/
def noticesAll (gateway : Gateway) (around : Surroundings σ) :
    List Http.Request → World σ → List (Notice σ)
  | [], _ => []
  | request :: rest, world => (gateway.service request).notices around world ++
    gateway.noticesAll around rest ((gateway.service request).run around world).2

/-- The statuses of the answers to posted questions. -/
def postedStatuses (requests : List Http.Request) (responses : List Http.Response) :
    List Http.Status :=
  (requests.zip responses).filterMap fun (request, response) =>
    if request.method = "POST" ∧ request.target.path = "/predict" then some response.status else none

/-- The statuses of posted questions are collected one by one. -/
theorem postedStatuses_cons (request : Http.Request) (response : Http.Response)
    (requests : List Http.Request) (responses : List Http.Response) :
    postedStatuses (request :: requests) (response :: responses) =
      if request.method = "POST" ∧ request.target.path = "/predict" then
        response.status :: postedStatuses requests responses
      else postedStatuses requests responses := by
  simp only [postedStatuses, List.zip_cons_cons, List.filterMap_cons]
  split <;> simp_all

/-- A request adds to the statuses of questions that were not refused those of its calls. -/
theorem Records.statuses {gateway : Gateway} {around : Surroundings σ} {world : World σ}
    {results : List (Except ResponderFault String)} (h : Records gateway around world request results)
    (requests : List Http.Request) (responses : List Http.Response) :
    (postedStatuses (request :: requests)
        (((gateway.service request).run around world).1 :: responses)).filter (· ≠ 400) =
      results.map replyStatus ++ (postedStatuses requests responses).filter (· ≠ 400) := by
  rw [postedStatuses_cons]
  cases h with
  | nothing refused quiet =>
    split
    · rename_i posted
      rw [refused ⟨posted.1, posted.2⟩]
      rfl
    · rfl
  | @call message id outcome posts status noticed =>
    rw [if_pos ⟨posts.method, posts.path⟩, status,
      List.filter_cons_of_pos (by simp [replyStatus_ne_refused])]
    rfl

/-- Serving requests keeps the account of the registry, and its calls decide the statuses of all
posted questions that were not refused. -/
theorem accounts_serveAll_of_accounts (requests : List Http.Request) {world : World σ}
    {before : List (Except ResponderFault String)} {registry : Metrics.Registry}
    (kept : registry.Accounts gateway.responder before)
    (known : world.measurements.registry = some registry) :
    let served := gateway.serveAll around requests world
    let results := (gateway.noticesAll around requests world).filterMap Notice.result?
    (∃ later : Metrics.Registry, served.2.measurements.registry = some later ∧
      later.Accounts gateway.responder (before ++ results)) ∧
    (postedStatuses requests served.1).filter (· ≠ 400) = results.map replyStatus := by
  induction requests generalizing world before registry with
  | nil =>
    refine ⟨⟨registry, known, ?_⟩, rfl⟩
    rwa [noticesAll, List.filterMap_nil, List.append_nil]
  | cons request rest ih =>
    obtain ⟨results, records⟩ := exists_records gateway around world request
    obtain ⟨between, recorded, keptOn⟩ := records.accounts kept known
    obtain ⟨⟨later, found, accounts⟩, statuses⟩ := ih keptOn recorded
    simp only [serveAll, noticesAll, List.filterMap_append, records.filterMap_result?]
    refine ⟨⟨later, found, ?_⟩, ?_⟩
    · rwa [← List.append_assoc]
    · rw [records.statuses, statuses, List.map_append]

/-- What is measured does not depend on choosing an id. -/
theorem measurements_idWorld (headers : Http.Headers) :
    (Layer.idWorld around world headers).measurements = world.measurements := by
  unfold Layer.idWorld Layer.idNotices
  split <;> rfl

/-- Reading the measurements brings their text. -/
theorem run_metrics (method : request.method = "GET") (path : request.target.path = "/metrics") :
    let response := ((gateway.service request).run around world).1
    response.status = 200 ∧ response.body = Bytes.ofText world.measurements.text := by
  have route : Route.ofPath? (Layer.identified (Layer.idIn around world request.headers)
      request).target.path = some .metrics := by
    change Route.ofPath? request.target.path = some .metrics
    rw [path]
    decide
  rw [service_eq_layered, run_layered_fst, dispatch, route]
  simp only [Layer.run_count_fst, Endpoint.serve, Layer.identified, method]
  rw [← measurements_idWorld around world request.headers]
  exact ⟨rfl, rfl⟩

/-- The labels of what a responder gave agree with the statuses it was answered with. -/
theorem count_outcomeLabel (results : List (Except ResponderFault String)) :
    let labels := results.map Metrics.outcomeLabel
    let statuses := results.map replyStatus
    labels.count "ok" = statuses.count 200 ∧
      labels.count "network" + labels.count "upstream" + labels.count "invalid_response" =
        statuses.count 502 ∧
      labels.count "not_configured" = statuses.count 500 := by
  induction results with
  | nil => exact ⟨rfl, rfl, rfl⟩
  | cons result rest ih =>
    simp only [List.map_cons, List.count_cons] at ih ⊢
    rcases result with fault | answer
    · cases fault <;>
        simp [Metrics.outcomeLabel, ResponderFault.kind, replyStatus, faultStatus] <;> omega
    · simp [Metrics.outcomeLabel, replyStatus]
      omega

/-- The measurements of a responder agree with its calls and with the statuses of the answers. -/
structure Agrees (name : String) (calls : Nat) (posted : List Http.Status)
    (registry : Metrics.Registry) : Prop where
  total : ∀ responder,
    registry.outcomesOf responder = Metrics.observedFor responder registry.latencies
  calls : ∀ responder, Metrics.observedFor responder registry.latencies =
    if name = responder then calls else 0
  ok : registry.predictions.count ⟨name, "ok"⟩ = posted.count 200
  badGateway : registry.predictions.count ⟨name, "network"⟩ +
    registry.predictions.count ⟨name, "upstream"⟩ +
      registry.predictions.count ⟨name, "invalid_response"⟩ = posted.count 502
  notConfigured : registry.predictions.count ⟨name, "not_configured"⟩ = posted.count 500
  labels : ∀ entry ∈ registry.predictions.entries, entry.1.responder = name ∧
    entry.1.outcome ∈ ["ok", "network", "upstream", "invalid_response", "not_configured"]

/-- An account agrees with the calls and the statuses. -/
theorem agrees_of_accounts {name : String} {results : List (Except ResponderFault String)}
    {posted : List Http.Status} {registry : Metrics.Registry} (h : registry.Accounts name results)
    (statuses : posted.filter (· ≠ 400) = results.map replyStatus) :
    Agrees name results.length posted registry := by
  have counted {status : Http.Status} (served : status ≠ 400) :
      (results.map replyStatus).count status = posted.count status := by
    rw [← statuses, List.count_filter (by simp [served])]
  obtain ⟨ok, badGateway, notConfigured⟩ := count_outcomeLabel results
  refine ⟨h.balanced, h.observedFor, ?_, ?_, ?_, h.named⟩
  · rw [h.counted, ok, counted (by decide)]
  · rw [h.counted, h.counted, h.counted, badGateway, counted (by decide)]
  · rw [h.counted, notConfigured, counted (by decide)]

/-- A run of requests is accounted for: the registry agrees with it, the text of the measurements has
a line for each of its counts for whoever reads it next, and no request but a question that is not
refused adds to it. -/
structure Accountable (gateway : Gateway) (around : Surroundings σ) (world : World σ)
    (requests : List Http.Request) : Prop where
  agrees : ∃ registry : Metrics.Registry,
    (gateway.serveAll around requests world).2.measurements.registry = some registry ∧
    Agrees gateway.responder
      ((gateway.noticesAll around requests world).filterMap Notice.result?).length
      (postedStatuses requests (gateway.serveAll around requests world).1) registry ∧
    ∀ request : Http.Request, request.method = "GET" → request.target.path = "/metrics" →
      let shown := ((gateway.service request).run around
        (gateway.serveAll around requests world).2).1
      shown.status = 200 ∧ ∃ text, shown.body = Bytes.ofText text ∧
        registry.ShownIn gateway.responder text
  others : ∀ (request : Http.Request) (world : World σ),
    ¬ PostsQuestion request ∨ ((gateway.service request).run around world).1.status = 400 →
      ((gateway.service request).notices around world).filterMap Notice.result? = [] ∧
        ((gateway.service request).run around world).2.measurements.registry =
          world.measurements.registry

/-- A request that posts no question, or is refused, is no call and changes no registry. -/
theorem quiet_of_refused
    (h : ¬ PostsQuestion request ∨ ((gateway.service request).run around world).1.status = 400) :
    ((gateway.service request).notices around world).filterMap Notice.result? = [] ∧
      ((gateway.service request).run around world).2.measurements.registry =
        world.measurements.registry := by
  obtain ⟨results, records⟩ := exists_records gateway around world request
  cases records with
  | nothing refused quiet =>
    rw [← Notice.filterMap_result?_filter, Task.run_snd_eq_foldl, Notice.registry_foldl_filter, quiet]
    exact ⟨rfl, rfl⟩
  | call posts status noticed =>
    rcases h with unposted | refused
    · exact absurd posts unposted
    · exact absurd (status.symm.trans refused) (replyStatus_ne_refused _)

/-- From the moment the measurements are set up, every run of requests is accounted for, whatever the
recorder shows and whether one could be installed or not. -/
theorem accountable_serveAll (responder : Responder σ) (assets : Http.Assets) (ids : Nat → Uuid)
    (world : World σ) (installed : Option Metrics.Recorder) (requests : List Http.Request) :
    let bare : Metrics.Measurements := { world.measurements with recorder := none, registry := none }
    Accountable ⟨responder.name, assets⟩ ⟨responder, ids⟩
      { world with measurements := bare.start installed } requests := by
  intro bare
  let gateway : Gateway := ⟨responder.name, assets⟩
  let around : Surroundings σ := ⟨responder, ids⟩
  let started : World σ := { world with measurements := bare.start installed }
  have known : started.measurements.registry = some {} := rfl
  obtain ⟨⟨registry, found, accounts⟩, statuses⟩ :=
    gateway.accounts_serveAll_of_accounts around requests
      (Metrics.Registry.accounts_empty responder.name) known
  refine ⟨⟨registry, found, agrees_of_accounts accounts statuses, fun request method path => ?_⟩,
    fun request world => quiet_of_refused gateway around world⟩
  obtain ⟨ok, body⟩ := gateway.run_metrics around
    (gateway.serveAll around requests started).2 method path
  exact ⟨ok, _, body, accounts.shownIn_text found⟩

end Gateway

end ChatGateway
