import ChatGateway.Proofs.Gateway.Accounting
import ChatGateway.Proofs.Gateway.Bounded

/-!
# Counting the requests of each route

Serving a request for one of the five templates counts it once and times it once, under its method,
the template and the status of the answer that leaves the gateway; serving any other request counts
nothing. So after any run of requests the counts are the numbers of such requests, and no series has
any other route.
-/

namespace ChatGateway

variable {σ : Type}

namespace Metrics.Measurements

/-- The tallies of requests, counted and timed. -/
def requestTallies (m : Measurements) : Tally Served × Tally Served := (m.served, m.timed)

/-- The labels of the series of requests, counted and timed. -/
def requestSeries (m : Measurements) : List Served := m.served.keys ++ m.timed.keys

end Metrics.Measurements

namespace Notice

/-- Whether a request is counted or timed. -/
def ofRequest : Notice σ → Bool
  | measured sample => sample.isOfRequest
  | _ => false

/-- Whether a request is counted or timed is not about the layers that all requests pass. -/
theorem steady_ofRequest : Steady (ofRequest : Notice σ → Bool) where
  found _ notice := by cases notice <;> rfl
  same _ notice counted := by
    cases notice with
    | logged event => contradiction
    | _ => rfl
  drew _ := rfl
  logged _ := rfl

/-- Only counting and timing requests changes the tallies of requests. -/
theorem requestTallies_foldl_filter (notices : List (Notice σ)) (world : World σ) :
    (notices.foldl applyTo world).measurements.requestTallies =
      ((notices.filter ofRequest).foldl applyTo world).measurements.requestTallies := by
  refine foldl_applyTo_filter (·.measurements.requestTallies) ofRequest ?_ ?_ notices world
  · intro notice first second counted same
    obtain ⟨served, timed⟩ := Prod.mk.inj same
    cases notice with
    | measured sample =>
      cases sample <;>
        simp [applyTo, Metrics.Measurements.take, Metrics.Measurements.requestTallies, served, timed]
    | _ => exact same
  · intro notice world other
    cases notice with
    | measured sample => cases sample <;> first | rfl | contradiction
    | _ => rfl

/-- The notices of counting and timing a request under its labels. -/
def ofLabels (labels : Metrics.Served) : List (Notice σ) :=
  [measured (.served labels), measured (.timed labels)]

/-- Labels are counted and timed alike, and nothing else is touched. -/
theorem foldl_ofLabels (labels : List Metrics.Served) (world : World σ) :
    (labels.flatMap ofLabels).foldl applyTo world =
      { world with
        measurements :=
          { world.measurements with
            served := labels.foldl Metrics.Tally.add world.measurements.served
            timed := labels.foldl Metrics.Tally.add world.measurements.timed } } := by
  induction labels generalizing world with
  | nil => rfl
  | cons first rest ih =>
    rw [List.flatMap_cons, List.foldl_append, ih]
    rfl

/-- What the tallies of requests become is told by the labels. -/
theorem requestTallies_foldl_ofLabels (labels : List Metrics.Served) (world : World σ) :
    ((labels.flatMap ofLabels).foldl applyTo world).measurements.requestTallies =
      (labels.foldl Metrics.Tally.add world.measurements.served,
        labels.foldl Metrics.Tally.add world.measurements.timed) := by
  rw [foldl_ofLabels]
  rfl

end Notice

namespace Gateway

/-- The labels under which an answered request is counted, if its path is a template. -/
def labels? (request : Http.Request) (response : Http.Response) : Option Metrics.Served :=
  if request.target.path ∈ Route.templates then
    some ⟨request.method, request.target.path, response.status⟩
  else none

/-- The labels under which the requests of a run are counted, in order. -/
def labelsOf (requests : List Http.Request) (responses : List Http.Response) :
    List Metrics.Served :=
  (requests.zip responses).filterMap fun served => labels? served.1 served.2

/-- The labels of a run are those of its first request and then of the rest. -/
theorem labelsOf_cons (request : Http.Request) (response : Http.Response)
    (requests : List Http.Request) (responses : List Http.Response) :
    labelsOf (request :: requests) (response :: responses) =
      (labels? request response).toList ++ labelsOf requests responses := by
  rw [labelsOf, List.zip_cons_cons, List.filterMap_cons]
  cases labels? request response <;> rfl

variable (gateway : Gateway) (around : Surroundings σ) (request : Http.Request) (world : World σ)

/-- Of a request for a template it is noticed once that it is counted and timed, under the status
that it is answered with; of other requests neither is noticed. -/
theorem filter_ofRequest_service :
    ((gateway.service request).notices around world).filter Notice.ofRequest =
      (labels? request ((gateway.service request).run around world).1).toList.flatMap
        Notice.ofLabels := by
  let seen := Layer.identified (Layer.idIn around world request.headers) request
  have path : seen.target.path = request.target.path := rfl
  rw [service_eq_layered, Notice.steady_ofRequest.filter_layered, run_layered_fst, labels?, ← path]
  split
  · rename_i template
    obtain ⟨route, dispatched⟩ := gateway.dispatch_of_template template
    have answers := gateway.answers_endpoint route { seen with route := some seen.target.path }
    -- The endpoint measures no request, so what is found are the two notices of counting it.
    rw [dispatched, Layer.run_count_fst, Layer.notices_count, List.filter_append,
      List.filter_eq_nil_iff.mpr]
    · rfl
    · intro notice noticed counted
      cases notice with
      | measured sample =>
        have silent := answers.takes_of_measured noticed
        exact absurd counted (by simp [Notice.ofRequest, silent])
      | _ => contradiction
  · rename_i other
    rcases gateway.dispatch_of_not_template other with absent | ⟨below, file⟩
    · rw [absent]
      rfl
    · rw [file, serveFile, Task.notices_logAll]
      simp [Notice.ofRequest, Task.notices]

/-- A run notices of its requests what each of them is counted and timed under. -/
theorem filter_ofRequest_noticesAll (requests : List Http.Request) :
    (gateway.noticesAll around requests world).filter Notice.ofRequest =
      (labelsOf requests (gateway.serveAll around requests world).1).flatMap Notice.ofLabels := by
  induction requests generalizing world with
  | nil => rfl
  | cons request rest ih =>
    rw [noticesAll, List.filter_append, filter_ofRequest_service, ih]
    simp only [serveAll, labelsOf_cons, List.flatMap_append]

/-- The world that a run leaves is the first one with all notices applied. -/
theorem serveAll_snd_eq_foldl (requests : List Http.Request) :
    (gateway.serveAll around requests world).2 =
      (gateway.noticesAll around requests world).foldl Notice.applyTo world := by
  induction requests generalizing world with
  | nil => rfl
  | cons request rest ih =>
    rw [noticesAll, List.foldl_append, ← Task.run_snd_eq_foldl]
    exact ih _

/-- A run answers every request. -/
theorem length_serveAll (requests : List Http.Request) :
    (gateway.serveAll around requests world).1.length = requests.length := by
  induction requests generalizing world with
  | nil => rfl
  | cons request rest ih => exact congrArg Nat.succ (ih _)

/-- A run adds the labels of its requests to both tallies. -/
theorem requestTallies_serveAll (requests : List Http.Request) :
    let labels := labelsOf requests (gateway.serveAll around requests world).1
    (gateway.serveAll around requests world).2.measurements.requestTallies =
      (labels.foldl Metrics.Tally.add world.measurements.served,
        labels.foldl Metrics.Tally.add world.measurements.timed) := by
  intro labels
  rw [serveAll_snd_eq_foldl, Notice.requestTallies_foldl_filter, filter_ofRequest_noticesAll,
    Notice.requestTallies_foldl_ofLabels]

/-- How many of the answered requests have this method and a path that is this route, one of the
templates, and are answered with this status. -/
def occurrences (labels : Metrics.Served) (requests : List Http.Request)
    (responses : List Http.Response) : Nat :=
  (requests.zip responses).countP fun served =>
    served.1.method = labels.method ∧ served.1.target.path = labels.route ∧
      labels.route ∈ Route.templates ∧ served.2.status = labels.status

/-- A request has labels exactly if its path is a template, and they are its method, path and status. -/
theorem labels?_eq_some_iff (request : Http.Request) (response : Http.Response)
    (labels : Metrics.Served) :
    labels? request response = some labels ↔ request.method = labels.method ∧
      request.target.path = labels.route ∧ labels.route ∈ Route.templates ∧
        response.status = labels.status := by
  obtain ⟨method, route, status⟩ := labels
  rw [labels?]
  split
  · rename_i template
    simp only [Option.some.injEq, Metrics.Served.mk.injEq]
    grind
  · rename_i other
    grind

/-- The labels of a run occur as often as there are such requests. -/
theorem count_labelsOf (labels : Metrics.Served) (requests : List Http.Request)
    (responses : List Http.Response) :
    (labelsOf requests responses).count labels = occurrences labels requests responses := by
  rw [labelsOf, List.count_eq_countP, List.countP_filterMap, occurrences]
  refine List.countP_congr fun served _ => ?_
  rw [decide_eq_true_eq, ← labels?_eq_some_iff]
  cases labels? served.1 served.2 <;> simp

/-- A run of requests is counted: each count, and each number of timed requests, grows by the number
of requests with its labels, and requests for anything but a template change neither. -/
structure CountsRequests (gateway : Gateway) (around : Surroundings σ) (world : World σ)
    (requests : List Http.Request) : Prop where
  answered : (gateway.serveAll around requests world).1.length = requests.length
  served : ∀ labels,
    (gateway.serveAll around requests world).2.measurements.served.count labels =
      world.measurements.served.count labels +
        occurrences labels requests (gateway.serveAll around requests world).1
  timed : ∀ labels,
    (gateway.serveAll around requests world).2.measurements.timed.count labels =
      world.measurements.timed.count labels +
        occurrences labels requests (gateway.serveAll around requests world).1
  /-- A new series belongs to a template, and so never to requests without a route. -/
  series : ∀ labels ∈ (gateway.serveAll around requests world).2.measurements.requestSeries,
    labels ∈ world.measurements.requestSeries ∨
      labels.route ∈ Route.templates ∧ labels.route ≠ Layer.noRoute
  others : ∀ (request : Http.Request) (world : World σ), request.target.path ∉ Route.templates →
    ((gateway.service request).run around world).2.measurements.requestTallies =
      world.measurements.requestTallies

/-- The series of a run are those before it and those with the labels of one of its requests. -/
theorem mem_requestSeries_serveAll (requests : List Http.Request) (labels : Metrics.Served) :
    labels ∈ (gateway.serveAll around requests world).2.measurements.requestSeries ↔
      labels ∈ world.measurements.requestSeries ∨
        labels ∈ labelsOf requests (gateway.serveAll around requests world).1 := by
  obtain ⟨served, timed⟩ := Prod.mk.inj (gateway.requestTallies_serveAll around world requests)
  rw [Metrics.Measurements.requestSeries, served, timed, List.mem_append,
    Metrics.Tally.mem_keys_foldl_add, Metrics.Tally.mem_keys_foldl_add,
    Metrics.Measurements.requestSeries, List.mem_append]
  tauto

/-- A request whose path is no template leaves the tallies of requests as they are. -/
theorem requestTallies_run_of_not_template (h : request.target.path ∉ Route.templates) :
    ((gateway.service request).run around world).2.measurements.requestTallies =
      world.measurements.requestTallies := by
  rw [Task.run_snd_eq_foldl, Notice.requestTallies_foldl_filter, filter_ofRequest_service, labels?,
    if_neg h]
  rfl

/-- Every run of requests is counted. -/
theorem countsRequests_serveAll (requests : List Http.Request) :
    CountsRequests gateway around world requests := by
  obtain ⟨served, timed⟩ := Prod.mk.inj (gateway.requestTallies_serveAll around world requests)
  refine ⟨gateway.length_serveAll around world requests, fun labels => ?_, fun labels => ?_,
    fun labels listed => ?_,
    fun request world => gateway.requestTallies_run_of_not_template around request world⟩
  · rw [served, Metrics.Tally.count_foldl_add, count_labelsOf]
  · rw [timed, Metrics.Tally.count_foldl_add, count_labelsOf]
  · rw [mem_requestSeries_serveAll] at listed
    refine listed.imp_right fun counted => ?_
    obtain ⟨answered, _, found⟩ := List.mem_filterMap.mp counted
    have template := ((labels?_eq_some_iff _ _ labels).mp found).2.2.1
    have unrouted : Layer.noRoute ∉ Route.templates := by decide
    exact ⟨template, fun none => unrouted (none ▸ template)⟩

end Gateway

end ChatGateway
