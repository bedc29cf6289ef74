import ChatGateway.Proofs.Gateway.RouteCounts
import Mathlib.Data.Finite.Prod
import Mathlib.Data.Set.Finite.Basic

/-!
# How many series requests can cause

Each series of requests has a method, a route and a status. The routes are the five templates and
the statuses are six, whatever clients ask for, but the method is the one that the client wrote. So
the series that clients can cause are bounded exactly if there are finitely many methods to choose
from, and with all tokens as methods they are not.
-/

namespace ChatGateway.Gateway

variable {σ : Type}

section Labels

variable (gateway : Gateway) (around : Surroundings σ) (request : Http.Request) (world : World σ)

/-- A request for a template is answered with one of the statuses of the counted routes. -/
theorem status_mem_of_template (h : request.target.path ∈ Route.templates) :
    ((gateway.service request).run around world).1.status ∈ countedStatuses := by
  let seen := Layer.identified (Layer.idIn around world request.headers) request
  obtain ⟨route, dispatched⟩ := gateway.dispatch_of_template
    (show seen.target.path ∈ Route.templates from h)
  have answers := gateway.answers_endpoint route { seen with route := some seen.target.path }
  rw [service_eq_layered, run_layered_fst, dispatched, Layer.run_count_fst]
  exact answers.run_fst around _

/-- The labels that clients can cause who choose among these methods. -/
def seriesOf (methods : Set String) : Set Metrics.Served :=
  {labels | labels.method ∈ methods ∧ labels.route ∈ Route.templates ∧
    labels.status ∈ countedStatuses}

/-- All labels of a run are among those. -/
theorem mem_seriesOf {methods : Set String} {requests : List Http.Request}
    (chosen : ∀ request ∈ requests, request.method ∈ methods) :
    ∀ labels ∈ labelsOf requests (gateway.serveAll around requests world).1,
      labels ∈ seriesOf methods := by
  induction requests generalizing world with
  | nil => exact nofun
  | cons request rest ih =>
    rw [List.forall_mem_cons] at chosen
    intro labels listed
    simp only [serveAll, labelsOf_cons, List.mem_append, Option.mem_toList] at listed
    rcases listed with now | later
    · obtain ⟨method, path, template, status⟩ := (labels?_eq_some_iff _ _ labels).mp now
      refine ⟨method ▸ chosen.1, template, status ▸ ?_⟩
      exact gateway.status_mem_of_template around request world (path ▸ template)
    · exact ih _ chosen.2 labels later

end Labels

/-- Finitely many methods make finitely many series. -/
theorem finite_seriesOf {methods : Set String} (h : methods.Finite) : (seriesOf methods).Finite := by
  have routes : {route | route ∈ Route.templates}.Finite := List.finite_toSet _
  have statuses : {status | status ∈ countedStatuses}.Finite := List.finite_toSet _
  refine ((h.prod (routes.prod statuses)).image fun (method, route, status) =>
    (⟨method, route, status⟩ : Metrics.Served)).subset ?_
  rintro ⟨method, route, status⟩ ⟨known, template, answered⟩
  exact ⟨(method, route, status), ⟨known, template, answered⟩, rfl⟩

/-- Whatever the responder, and whatever clients ask for with these methods, all series that a run
adds belong to one finite set. -/
def BoundedSeries (methods : Set String) : Prop :=
  ∃ bound : Set Metrics.Served, bound.Finite ∧
    ∀ {σ : Type} (gateway : Gateway) (around : Surroundings σ) (world : World σ)
      (requests : List Http.Request), (∀ request ∈ requests, request.method ∈ methods) →
      ∀ labels ∈ (gateway.serveAll around requests world).2.measurements.requestSeries,
        labels ∈ world.measurements.requestSeries ∨ labels ∈ bound

/-- A request for the page, with a method of the client's choice. -/
def visiting (method : String) : Http.Request where
  method
  target := { path := "/" }
  headers := []
  body := []

/-- Every method that a client may choose makes a series of its own. -/
theorem BoundedSeries.finite {methods : Set String} (h : BoundedSeries methods) :
    methods.Finite := by
  obtain ⟨bound, finite, within⟩ := h
  refine (finite.image Metrics.Served.method).subset fun method known => ?_
  let start : World Unit := { responder := () }
  let served := echoing.serveAll echoingSurroundings [visiting method] start
  have answered : served.1 =
      [((echoing.service (visiting method)).run echoingSurroundings start).1] := rfl
  obtain ⟨labels, found⟩ : ∃ labels, labels? (visiting method)
      ((echoing.service (visiting method)).run echoingSurroundings start).1 = some labels :=
    ⟨_, if_pos (show "/" ∈ Route.templates by decide)⟩
  have listed : labels ∈ served.2.measurements.requestSeries := by
    rw [mem_requestSeries_serveAll, answered, labelsOf_cons, found]
    exact .inr List.mem_cons_self
  have bounded := within echoing echoingSurroundings start [visiting method] (by simpa [visiting])
    labels listed
  refine ⟨labels, bounded.resolve_left nofun, ?_⟩
  exact ((labels?_eq_some_iff _ _ labels).mp found).1.symm

/-- The series that clients can cause are bounded exactly if they choose among finitely many
methods. -/
theorem boundedSeries_iff (methods : Set String) : BoundedSeries methods ↔ methods.Finite := by
  refine ⟨BoundedSeries.finite, fun finite => ⟨seriesOf methods, finite_seriesOf finite, ?_⟩⟩
  intro σ gateway around world requests chosen labels listed
  rw [mem_requestSeries_serveAll] at listed
  exact listed.imp_right (gateway.mem_seriesOf around world chosen labels)

/-- There is a token of every length. -/
theorem infinite_tokens : {method : String | Http.isToken method = true}.Infinite := by
  refine Set.infinite_of_injective_forall_mem
    (f := fun n : Nat => String.ofList (List.replicate (n + 1) 'A')) ?_ fun n => ?_
  · intro m n same
    simpa using congrArg String.length same
  · have letter : Http.isTokenChar 'A' = true := by decide
    simp [Http.isToken, letter]

/-- With all tokens as methods, clients can cause series without bound. -/
theorem not_boundedSeries_of_tokens :
    ¬ BoundedSeries {method | Http.isToken method = true} := by
  rw [boundedSeries_iff]
  exact infinite_tokens

end ChatGateway.Gateway
