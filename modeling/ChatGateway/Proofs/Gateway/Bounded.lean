import ChatGateway.Proofs.Gateway.Layers

/-!
# What services may do

A task is bounded if, whatever it learns on the way, it takes only measurements of some kind and
brings only results of some kind. Bounds are shown along the steps of the task and hold of every
run of it.

The services of the counted routes measure no requests themselves, and each of their answers has
one of six statuses.
-/

namespace ChatGateway

variable {σ α β : Type}

/-- Whether a measurement is about a request. -/
def Metrics.Sample.isOfRequest : Metrics.Sample → Bool
  | served _ | timed _ => true
  | predicted _ | answered .. => false

namespace Task

/-- Whatever the task learns, it takes only such measurements and brings only such results. -/
def Bounded (takes : Metrics.Sample → Prop) (brings : α → Prop) : Task α → Prop
  | done a => brings a
  | drawId next => ∀ id, (next id).Bounded takes brings
  | ask _ _ next => ∀ reply, (next reply).Bounded takes brings
  | probe next => ∀ reply, (next reply).Bounded takes brings
  | measure sample next => takes sample ∧ next.Bounded takes brings
  | log _ next => next.Bounded takes brings
  | showMetrics next => ∀ text, (next text).Bounded takes brings

namespace Bounded

variable {takes : Metrics.Sample → Prop} {brings : α → Prop} {later : β → Prop} {task : Task α}

/-- Tasks within the bounds may follow one another. -/
theorem bind (h : task.Bounded takes brings) {f : α → Task β}
    (hf : ∀ a, brings a → (f a).Bounded takes later) : (task.bind f).Bounded takes later := by
  induction task with
  | done a => exact hf a h
  | drawId next ih => exact fun id => ih id (h id)
  | ask question id next ih => exact fun reply => ih reply (h reply)
  | probe next ih => exact fun reply => ih reply (h reply)
  | measure sample next ih => exact ⟨h.1, ih h.2⟩
  | log event next ih => exact ih h
  | showMetrics next ih => exact fun text => ih text (h text)

/-- What a task brings may be changed within the bounds. -/
theorem map (h : task.Bounded takes brings) {f : α → β} (hf : ∀ a, brings a → later (f a)) :
    (task.map f).Bounded takes later :=
  h.bind hf

/-- A note in the log is no measurement. -/
theorem logAll (h : task.Bounded takes brings) (events : List LogEvent) :
    (Task.logAll events task).Bounded takes brings := by
  induction events with
  | nil => exact h
  | cons event rest ih => exact ih

/-- What a run brings is within the bounds. -/
theorem run_fst (h : task.Bounded takes brings) (around : Surroundings σ) (world : World σ) :
    brings (task.run around world).1 := by
  induction task generalizing world with
  | done a => exact h
  | drawId next ih => exact ih _ (h _) _
  | ask question id next ih => exact ih _ (h _) _
  | probe next ih => exact ih _ (h _) _
  | measure sample next ih => exact ih h.2 _
  | log event next ih => exact ih h _
  | showMetrics next ih => exact ih _ (h _) _

/-- So is every measurement that is noticed. -/
theorem takes_of_measured (h : task.Bounded takes brings) {around : Surroundings σ}
    {world : World σ} {sample : Metrics.Sample}
    (taken : .measured sample ∈ task.notices around world) : takes sample := by
  induction task generalizing world with
  | done a => contradiction
  | drawId next ih => exact ih _ (h _) ((List.mem_cons.mp taken).resolve_left nofun)
  | ask question id next ih => exact ih _ (h _) ((List.mem_cons.mp taken).resolve_left nofun)
  | probe next ih => exact ih _ (h _) ((List.mem_cons.mp taken).resolve_left nofun)
  | measure now next ih =>
    rcases List.mem_cons.mp taken with same | later
    · cases same
      exact h.1
    · exact ih h.2 later
  | log event next ih => exact ih h ((List.mem_cons.mp taken).resolve_left nofun)
  | showMetrics next ih => exact ih _ (h _) ((List.mem_cons.mp taken).resolve_left nofun)

end Bounded

end Task

/-- An endpoint refuses a request, or serves it by the service for its method; then the answer is
that of the service, with a length and perhaps without its body. -/
theorem Endpoint.serve_cases (endpoint : Endpoint) (request : Http.Request) :
    endpoint.serve request = .done endpoint.refusal ∨
      ∃ (service : Service) (change : Http.Response → Http.Response),
        (endpoint.get = some service ∨ endpoint.post = some service ∧ request.method = "POST") ∧
        (∀ response, (change response).status = response.status) ∧
        endpoint.serve request = (service request).map change := by
  unfold serve
  simp only
  split
  · cases known : endpoint.get with
    | none => exact .inl rfl
    | some service => exact .inr ⟨service, measured, .inl rfl, fun _ => rfl, rfl⟩
  · cases known : endpoint.get with
    | none => exact .inl rfl
    | some service => exact .inr ⟨service, headerOnly, .inl rfl, fun _ => rfl, rfl⟩
  · cases known : endpoint.post with
    | none => exact .inl rfl
    | some service => exact .inr ⟨service, measured, .inr ⟨rfl, by assumption⟩, fun _ => rfl, rfl⟩
  · exact .inl rfl

/-- The statuses with which the counted routes answer. -/
def Gateway.countedStatuses : List Http.Status := [200, 400, 405, 500, 502, 503]

/-- The task measures no request and is answered with one of the statuses of counted routes. -/
abbrev Task.Answers (task : Task Http.Response) : Prop :=
  task.Bounded (·.isOfRequest = false) (·.status ∈ Gateway.countedStatuses)

namespace Handler

open Gateway (countedStatuses)

/-- The page is answered whatever is asked for there. -/
theorem answers_page (request : Http.Request) : (page request).Answers := by
  change (200 : Http.Status) ∈ countedStatuses
  decide

/-- Every failure of the responder has a status that is counted. -/
theorem status_failure_mem (fault : ResponderFault) : fault.failure.status ∈ countedStatuses := by
  cases fault <;> simp [ResponderFault.failure, Failure.status, countedStatuses]

/-- A reply is answered within the bounds, whether it is an answer or a failure. -/
theorem answers_answerWith (responder : String) (question : Question) (reply : Reply String) :
    (answerWith responder question reply).Answers := by
  apply Task.Bounded.logAll
  refine ⟨rfl, ?_⟩
  cases reply.result with
  | ok answer => exact ⟨rfl, show (200 : Http.Status) ∈ countedStatuses by decide⟩
  | error fault => exact ⟨rfl, status_failure_mem fault⟩

/-- A question is answered within the bounds, whether it is read or refused. -/
theorem answers_predict (responder : String) (request : Http.Request) :
    (predict responder request).Answers := by
  unfold predict
  split
  · change (400 : Http.Status) ∈ countedStatuses
    decide
  · rename_i question _
    exact answers_answerWith responder question

/-- Both statuses of health are counted. -/
theorem healthStatus_mem (result : Except ResponderFault Unit) :
    healthStatus result ∈ countedStatuses := by
  cases result <;> simp [healthStatus, countedStatuses]

/-- Health is answered within the bounds. -/
theorem answers_health (request : Http.Request) : (health request).Answers := by
  intro reply
  apply Task.Bounded.logAll
  exact healthStatus_mem reply.result

/-- Readiness is answered within the bounds. -/
theorem answers_ready (request : Http.Request) : (ready request).Answers := by
  intro reply
  apply Task.Bounded.logAll
  exact healthStatus_mem reply.result

/-- The measurements are answered within the bounds. -/
theorem answers_metrics (request : Http.Request) : (metrics request).Answers := by
  intro text
  change (200 : Http.Status) ∈ countedStatuses
  decide

end Handler

/-- Every endpoint of the gateway answers so, whatever the method. -/
theorem Gateway.answers_endpoint (gateway : Gateway) (route : Route) (request : Http.Request) :
    ((gateway.endpoint route).serve request).Answers := by
  rcases (gateway.endpoint route).serve_cases request with refused | ⟨service, change, known, kept, served⟩
  · rw [refused]
    change (405 : Http.Status) ∈ countedStatuses
    decide
  · have answers : (service request).Answers := by
      cases route <;> simp only [endpoint, reduceCtorEq, Option.some.injEq, false_and, or_false,
        false_or] at known
      case page => exact known ▸ Handler.answers_page request
      case predict => exact known.1 ▸ Handler.answers_predict gateway.responder request
      case health => exact known ▸ Handler.answers_health request
      case ready => exact known ▸ Handler.answers_ready request
      case metrics => exact known ▸ Handler.answers_metrics request
    rw [served]
    exact answers.map fun response status => (kept response).symm ▸ status

end ChatGateway
