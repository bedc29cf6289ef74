import ChatGateway.Proofs.Gateway.Bounded
import ChatGateway.Proofs.Gateway.Prediction
import ChatGateway.Proofs.Gateway.Routes

/-!
# What is quiet about questions

Serving a request is quiet if nobody is asked a question and nothing about questions is measured.
That is so for every request that posts no question, whatever its method and path, and for every
posted one that is refused.
-/

namespace ChatGateway

variable {σ α β : Type}

namespace Notice

/-- Whether a question is asked or measured. -/
def ofQuestion : Notice σ → Bool
  | asked .. | measured (.predicted _) | measured (.answered ..) => true
  | _ => false

/-- What the responder gave, if it was asked. -/
def result? : Notice σ → Option (Except ResponderFault String)
  | asked _ _ outcome => some outcome.result
  | _ => none

/-- What is not of a question measures none. -/
theorem measuresQuestion_of_not_ofQuestion {notice : Notice σ} (h : notice.ofQuestion = false) :
    notice.measuresQuestion = false := by
  cases notice with
  | measured sample => cases sample <;> first | rfl | exact h
  | _ => rfl

/-- What is not of a question has no result of one. -/
theorem result?_of_not_ofQuestion {notice : Notice σ} (h : notice.ofQuestion = false) :
    notice.result? = none := by
  cases notice with
  | asked => contradiction
  | _ => rfl

/-- Questions are noticed of services. -/
theorem ofServices_ofQuestion : OfServices (ofQuestion : Notice σ → Bool) where
  found _ notice := by cases notice <;> rfl
  same _ notice question := by
    cases notice with
    | logged event => contradiction
    | _ => rfl
  drew _ := rfl
  logged _ := rfl
  served _ := rfl
  timed _ := rfl

/-- Events that are noted are not of a question. -/
@[simp]
theorem filter_ofQuestion_logged (events : List LogEvent) :
    (events.map logged : List (Notice σ)).filter ofQuestion = [] := by
  induction events with
  | nil => rfl
  | cons event rest ih => exact ih

/-- Only notices of questions change the registry. -/
theorem registry_foldl_filter (notices : List (Notice σ)) (world : World σ) :
    (notices.foldl applyTo world).measurements.registry =
      ((notices.filter ofQuestion).foldl applyTo world).measurements.registry := by
  refine foldl_applyTo_filter (·.measurements.registry) ofQuestion ?_ ?_ notices world
  · intro notice first second question same
    cases notice with
    | measured sample => cases sample <;> simp [applyTo, Metrics.Measurements.take, same]
    | _ => exact same
  · exact fun notice world other => registry_applyTo world (measuresQuestion_of_not_ofQuestion other)

/-- What the responder gave is noticed with the questions. -/
theorem filterMap_result?_filter (notices : List (Notice σ)) :
    (notices.filter ofQuestion).filterMap result? = notices.filterMap result? := by
  induction notices with
  | nil => rfl
  | cons notice rest ih =>
    cases question : notice.ofQuestion with
    | false =>
      rw [List.filter_cons_of_neg (by simp [question]),
        List.filterMap_cons_none (result?_of_not_ofQuestion question), ih]
    | true => rw [List.filter_cons_of_pos question, List.filterMap_cons, List.filterMap_cons, ih]

end Notice

namespace Task

/-- The task neither asks nor measures a question. -/
def IsQuiet : Task α → Prop
  | done _ => True
  | drawId next => ∀ id, (next id).IsQuiet
  | ask .. => False
  | probe next => ∀ reply, (next reply).IsQuiet
  | measure sample next => (Notice.measured sample : Notice Unit).measuresQuestion = false ∧ next.IsQuiet
  | log _ next => next.IsQuiet
  | showMetrics next => ∀ text, (next text).IsQuiet

/-- Two quiet tasks in turn are quiet. -/
theorem isQuiet_bind {task : Task α} {f : α → Task β} (h : task.IsQuiet)
    (hf : ∀ a, (f a).IsQuiet) : (task.bind f).IsQuiet := by
  induction task with
  | done a => exact hf a
  | drawId next ih => exact fun id => ih id (h id)
  | ask question id next ih => exact h.elim
  | probe next ih => exact fun reply => ih reply (h reply)
  | measure sample next ih => exact ⟨h.1, ih h.2⟩
  | log event next ih => exact ih h
  | showMetrics next ih => exact fun text => ih text (h text)

/-- A quiet task stays so if what it brings is changed. -/
theorem isQuiet_map {task : Task α} (f : α → β) (h : task.IsQuiet) : (task.map f).IsQuiet :=
  isQuiet_bind h fun _ => trivial

/-- A quiet task stays so if events are noted before it. -/
theorem isQuiet_logAll (events : List LogEvent) {task : Task α} (h : task.IsQuiet) :
    (logAll events task).IsQuiet := by
  induction events with
  | nil => exact h
  | cons event rest ih => exact ih

/-- No question is noticed of a quiet task. -/
theorem filter_notices_of_isQuiet (around : Surroundings σ) {task : Task α} (h : task.IsQuiet)
    (world : World σ) : (task.notices around world).filter Notice.ofQuestion = [] := by
  induction task generalizing world with
  | done a => rfl
  | drawId next ih => exact ih _ (h _) _
  | ask question id next ih => exact h.elim
  | probe next ih => exact ih _ (h _) _
  | measure sample next ih =>
    rw [notices, List.filter_cons_of_neg]
    · exact ih h.2 _
    · cases sample <;> simp_all [IsQuiet, Notice.ofQuestion, Notice.measuresQuestion]
  | log event next ih => exact ih h _
  | showMetrics next ih => exact ih _ (h _) _

end Task

namespace Layer

/-- Counting requests is no measurement of questions. -/
theorem isQuiet_count {inner : Service} {request : Http.Request} (h : (inner request).IsQuiet) :
    (count inner request).IsQuiet :=
  Task.isQuiet_bind h fun _ => ⟨rfl, rfl, trivial⟩

end Layer

/-- An endpoint is quiet if all its services are that serve the method. -/
theorem Endpoint.isQuiet_serve {endpoint : Endpoint} {request : Http.Request}
    (get : ∀ service, endpoint.get = some service → (service request).IsQuiet)
    (post : ∀ service, endpoint.post = some service → request.method = "POST" →
      (service request).IsQuiet) : (endpoint.serve request).IsQuiet := by
  rcases endpoint.serve_cases request with refused | ⟨service, change, known | ⟨known, posted⟩, _, served⟩
  · rw [refused]
    trivial
  · rw [served]
    exact Task.isQuiet_map change (get service known)
  · rw [served]
    exact Task.isQuiet_map change (post service known posted)

namespace Handler

/-- Nobody is asked for the page, the health or the measurements. -/
theorem isQuiet_page (request : Http.Request) : (page request).IsQuiet := trivial

/-- The health is quiet. -/
theorem isQuiet_health (request : Http.Request) : (health request).IsQuiet :=
  fun reply => Task.isQuiet_logAll reply.events trivial

/-- Readiness is quiet. -/
theorem isQuiet_ready (request : Http.Request) : (ready request).IsQuiet :=
  fun reply => Task.isQuiet_logAll reply.events trivial

/-- The measurements are quiet. -/
theorem isQuiet_metrics (request : Http.Request) : (metrics request).IsQuiet := fun _ => trivial

end Handler

namespace Gateway

variable {request : Http.Request} (gateway : Gateway) (around : Surroundings σ) (world : World σ)

/-- A request that posts no question is served quietly. -/
theorem isQuiet_dispatch (unposted : ¬ PostsQuestion request) : (gateway.dispatch request).IsQuiet := by
  unfold dispatch
  split
  · trivial
  · exact Task.isQuiet_logAll _ trivial
  · rename_i route notAssets found
    apply Layer.isQuiet_count
    apply Endpoint.isQuiet_serve
    · intro service known
      cases route with
      | predict => contradiction
      | assets path => exact absurd rfl (notAssets path)
      | page => cases known; exact Handler.isQuiet_page _
      | health => cases known; exact Handler.isQuiet_health _
      | ready => cases known; exact Handler.isQuiet_ready _
      | metrics => cases known; exact Handler.isQuiet_metrics _
    · intro service known method
      cases route with
      | predict => exact absurd ⟨method, Route.eq_of_template? found rfl⟩ unposted
      | _ => contradiction

/-- A question that is refused is served quietly. -/
theorem isQuiet_dispatch_of_refused (posts : PostsQuestion request) {refusal : Extract.Refusal}
    (h : Extract.read Question.reader request = .error refusal) :
    (gateway.dispatch request).IsQuiet := by
  have refused : Extract.read Question.reader { request with route := Route.predict.template? } =
      .error refusal := h
  rw [dispatch_of_posts gateway posts]
  apply Layer.isQuiet_count
  apply Task.isQuiet_map
  rw [Handler.predict_of_error refused]
  trivial

end Gateway

end ChatGateway
