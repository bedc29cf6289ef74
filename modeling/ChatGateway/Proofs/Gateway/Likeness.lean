import ChatGateway.Proofs.Gateway.Routes
import ChatGateway.Proofs.Gateway.Prediction

/-!
# Tasks that are alike

Two tasks are alike if they take the same course whenever they are told alike: they ask the same
questions, take measurements that are alike, and bring results in a given relation. What counts as
being told alike is chosen; drawing identifiers and logging do not count at all.

The gateway serves two requests alike that differ only in their ids. So neither the id that a request
brings nor the one that is drawn for it has any other effect than to be passed on.
-/

namespace ChatGateway

variable {α β γ δ : Type}

/-- Which replies, measurements, texts and ids are alike. -/
structure Likeness where
  replies : ∀ {α : Type}, Reply α → Reply α → Prop
  samples : Metrics.Sample → Metrics.Sample → Prop
  texts : String → String → Prop
  ids : Option String → Option String → Prop
  /-- Replies that are alike bring the same result. -/
  result : ∀ {α : Type} {first second : Reply α}, replies first second →
    first.result = second.result
  refl : ∀ sample, samples sample sample
  /-- Their durations are measured alike. -/
  answered : ∀ {α : Type} {first second : Reply α} (name : String), replies first second →
    samples (.answered name first.seconds) (.answered name second.seconds)

namespace Task

/-- Told alike, the tasks ask the same questions, measure alike, and bring results in the relation. -/
inductive Alike (like : Likeness) (brings : α → β → Prop) : Task α → Task β → Prop
  | done {a : α} {b : β} (related : brings a b) : Alike like brings (.done a) (.done b)
  | drawLeft {next : Uuid → Task α} {other : Task β}
    (later : ∀ id, Alike like brings (next id) other) : Alike like brings (.drawId next) other
  | drawRight {other : Task α} {next : Uuid → Task β}
    (later : ∀ id, Alike like brings other (next id)) : Alike like brings other (.drawId next)
  | logLeft {event : LogEvent} {next : Task α} {other : Task β}
    (later : Alike like brings next other) : Alike like brings (.log event next) other
  | logRight {event : LogEvent} {other : Task α} {next : Task β}
    (later : Alike like brings other next) : Alike like brings other (.log event next)
  | ask {question : String} {id id' : Option String} {next : Reply String → Task α}
    {next' : Reply String → Task β} (ids : like.ids id id')
    (later : ∀ reply reply', like.replies reply reply' →
      Alike like brings (next reply) (next' reply')) :
    Alike like brings (.ask question id next) (.ask question id' next')
  | probe {next : Reply Unit → Task α} {next' : Reply Unit → Task β}
    (later : ∀ reply reply', like.replies reply reply' →
      Alike like brings (next reply) (next' reply')) :
    Alike like brings (.probe next) (.probe next')
  | measure {sample sample' : Metrics.Sample} {next : Task α} {next' : Task β}
    (samples : like.samples sample sample') (later : Alike like brings next next') :
    Alike like brings (.measure sample next) (.measure sample' next')
  | showMetrics {next : String → Task α} {next' : String → Task β}
    (later : ∀ text text', like.texts text text' → Alike like brings (next text) (next' text')) :
    Alike like brings (.showMetrics next) (.showMetrics next')

namespace Alike

variable {like : Likeness} {brings : α → β → Prop} {later : γ → δ → Prop} {task : Task α}
  {other : Task β}

/-- Tasks that are alike and go on alike are alike as a whole. -/
theorem bind (h : task.Alike like brings other) {f : α → Task γ} {g : β → Task δ}
    (hf : ∀ a b, brings a b → (f a).Alike like later (g b)) :
    (task.bind f).Alike like later (other.bind g) := by
  induction h with
  | done related => exact hf _ _ related
  | drawLeft _ ih => exact .drawLeft ih
  | drawRight _ ih => exact .drawRight ih
  | logLeft _ ih => exact .logLeft ih
  | logRight _ ih => exact .logRight ih
  | ask ids _ ih => exact .ask ids ih
  | probe _ ih => exact .probe ih
  | measure samples _ ih => exact .measure samples ih
  | showMetrics _ ih => exact .showMetrics ih

/-- What tasks bring that are alike may be changed if it stays related. -/
theorem map (h : task.Alike like brings other) {f : α → γ} {g : β → δ}
    (hf : ∀ a b, brings a b → later (f a) (g b)) :
    (task.map f).Alike like later (other.map g) :=
  h.bind fun a b related => .done (hf a b related)

/-- A weaker relation between what the tasks bring will do. -/
theorem mono (h : task.Alike like brings other) {brings' : α → β → Prop}
    (weaker : ∀ a b, brings a b → brings' a b) : task.Alike like brings' other := by
  have mapped := h.map (f := fun a => a) (g := fun b => b) weaker
  rwa [Task.map, Task.map, Task.bind_done, Task.bind_done] at mapped

/-- Spans change only what is logged. -/
theorem within (h : task.Alike like brings other) (span span' : LogSpan) :
    (task.within span).Alike like brings (other.within span') := by
  induction h with
  | done related => exact .done related
  | drawLeft _ ih => exact .drawLeft ih
  | drawRight _ ih => exact .drawRight ih
  | logLeft _ ih => exact .logLeft ih
  | logRight _ ih => exact .logRight ih
  | ask ids _ ih => exact .ask ids ih
  | probe _ ih => exact .probe ih
  | measure samples _ ih => exact .measure samples ih
  | showMetrics _ ih => exact .showMetrics ih

/-- Tasks are alike whatever is noted before them. -/
theorem logAll (h : task.Alike like brings other) (events events' : List LogEvent) :
    (Task.logAll events task).Alike like brings (Task.logAll events' other) := by
  induction events with
  | nil =>
    induction events' with
    | nil => exact h
    | cons event rest ih => exact .logRight ih
  | cons event rest ih => exact .logLeft ih

end Alike

end Task

namespace Http

/-- The responses have the same status and, if that is asked for, are the same. -/
def Response.Matches (exact : Prop) (first second : Response) : Prop :=
  first.status = second.status ∧ (exact → first = second)

/-- A response matches itself. -/
theorem Response.Matches.refl (exact : Prop) (response : Response) : response.Matches exact response :=
  ⟨rfl, fun _ => rfl⟩

/-- The requests differ at most in their ids, and in what the gateway notes on them. -/
structure Request.SameButId (first second : Request) : Prop where
  method : first.method = second.method
  target : first.target = second.target
  body : first.body = second.body
  headers : first.headers.erase Trace.requestIdField = second.headers.erase Trace.requestIdField

namespace Request.SameButId

variable {first second : Request}

/-- A request is the same as itself but for the id. -/
theorem refl (request : Request) : request.SameButId request := ⟨rfl, rfl, rfl, rfl⟩

/-- Requests that differ in their ids have the same values in every other field. -/
theorem values (same : SameButId first second) {name : String} (h : name ≠ Trace.requestIdField) :
    first.headers.values name = second.headers.values name := by
  rw [← first.headers.values_erase_of_ne h, same.headers, second.headers.values_erase_of_ne h]

/-- Requests that differ in their ids have the same first value in every other field. -/
theorem get? (same : SameButId first second) {name : String} (h : name ≠ Trace.requestIdField) :
    first.headers.get? name = second.headers.get? name :=
  Headers.get?_congr (same.values h)

end Request.SameButId

/-- Which file is served, and how, does not depend on the id of a request. -/
theorem StaticFiles.answer_congr (assets : Assets) {first second : Request}
    (same : first.SameButId second) : answer assets first = answer assets second := by
  have range := same.get? (show "range" ≠ Trace.requestIdField by decide)
  have dates (changed : Nat) :
      statusByDates? first.headers changed = statusByDates? second.headers changed := by
    rw [statusByDates?, statusByDates?, dateOf?, dateOf?, dateOf?, dateOf?,
      same.get? (show "if-unmodified-since" ≠ Trace.requestIdField by decide),
      same.get? (show "if-modified-since" ≠ Trace.requestIdField by decide)]
  have file (path : String) : answerFile assets first path = answerFile assets second path := by
    unfold answerFile
    rw [range, same.method]
    simp only [dates]
  simp only [answer, file, same.method, same.target]

end Http

/-- The path of an identified request, and all but its id, is as it was. -/
theorem Layer.sameButId_identified {first second : Http.Request} (same : first.SameButId second)
    (id id' : String) : (identified id first).SameButId (identified id' second) := by
  refine ⟨same.method, same.target, same.body, ?_⟩
  simp only [identified, Trace.erase_setLegal]
  exact same.headers

variable {like : Likeness} {exact : Prop} {first second : Http.Request}

namespace Handler

/-- Replies that are alike are answered alike. -/
theorem alike_answerWith (responder : String) (question : Question) {reply reply' : Reply String}
    (h : like.replies reply reply') :
    (answerWith responder question reply).Alike like (·.Matches exact ·)
      (answerWith responder question reply') := by
  apply Task.Alike.logAll
  refine .measure (like.answered responder h) ?_
  rw [← like.result h]
  cases reply.result with
  | ok answer => exact .measure (like.refl _) (.logLeft (.logRight (.done (.refl _ _))))
  | error fault =>
    exact .measure (like.refl _) (.logLeft (.logRight (.logLeft (.logRight (.done (.refl _ _))))))

/-- The same question is asked of two requests that differ only in their ids. -/
theorem alike_predict (responder : String) (same : first.SameButId second)
    (ids : like.ids first.id second.id) :
    (predict responder first).Alike like (·.Matches exact ·) (predict responder second) := by
  have read := Extract.read_congr Question.reader same.body
    (same.values (show "content-type" ≠ Trace.requestIdField by decide))
  unfold predict
  rw [read, same.body]
  cases Extract.read Question.reader second with
  | error refusal => exact .logLeft (.logRight (.done (.refl _ _)))
  | ok question => exact .ask ids fun reply reply' h => alike_answerWith responder question h

/-- Requests that differ in their ids are answered alike about the health. -/
theorem alike_health : (health first).Alike like (·.Matches exact ·) (health second) := by
  refine .probe fun reply reply' h => Task.Alike.logAll ?_ _ _
  rw [like.result h]
  exact .done (.refl _ _)

/-- Requests that differ in their ids are answered alike about readiness. -/
theorem alike_ready : (ready first).Alike like (·.Matches exact ·) (ready second) := by
  refine .probe fun reply reply' h => Task.Alike.logAll ?_ _ _
  rw [like.result h]
  exact .done (.refl _ _)

/-- The measurements are answered alike if what they show is. -/
theorem alike_metrics (shown : exact → ∀ text text', like.texts text text' → text = text') :
    (metrics first).Alike like (·.Matches exact ·) (metrics second) := by
  refine .showMetrics fun text text' h => .done ⟨rfl, fun asked => ?_⟩
  rw [shown asked text text' h]

end Handler

/-- An endpoint serves two requests alike if its services for their method do. -/
theorem Endpoint.alike_serve (endpoint : Endpoint) (method : first.method = second.method)
    (get : first.method = "GET" ∨ first.method = "HEAD" → ∀ service, endpoint.get = some service →
      (service first).Alike like (·.Matches exact ·) (service second))
    (post : ∀ service, endpoint.post = some service →
      (service first).Alike like (·.Matches exact ·) (service second)) :
    (endpoint.serve first).Alike like (·.Matches exact ·) (endpoint.serve second) := by
  have changed {change : Http.Response → Http.Response}
      (kept : ∀ response, (change response).status = response.status) (a b : Http.Response)
      (h : a.Matches exact b) : (change a).Matches exact (change b) :=
    ⟨(kept a).trans (h.1.trans (kept b).symm), fun asked => congrArg change (h.2 asked)⟩
  unfold serve
  rw [← method]
  simp only
  split
  · rename_i reading
    cases known : endpoint.get with
    | none => exact .done (.refl _ _)
    | some service => exact (get (.inl reading) service known).map (changed fun _ => rfl)
  · rename_i reading
    cases known : endpoint.get with
    | none => exact .done (.refl _ _)
    | some service => exact (get (.inr reading) service known).map (changed fun _ => rfl)
  · cases known : endpoint.post with
    | none => exact .done (.refl _ _)
    | some service => exact (post service known).map (changed fun _ => rfl)
  · exact .done (.refl _ _)

namespace Layer

/-- Requests of one method and route are counted alike. -/
theorem alike_count {inner : Service} (method : first.method = second.method)
    (route : first.route = second.route)
    (h : (inner first).Alike like (·.Matches exact ·) (inner second)) :
    (count inner first).Alike like (·.Matches exact ·) (count inner second) := by
  refine h.bind fun a b related => ?_
  rw [method, route, related.1]
  exact .measure (like.refl _) (.measure (like.refl _) (.done related))

/-- Services that are alike are so inside a span. -/
theorem alike_trace {inner : Service} {brings : Http.Response → Http.Response → Prop}
    (h : (inner first).Alike like brings (inner second)) :
    (trace inner first).Alike like brings (trace inner second) := by
  refine Task.Alike.within (h.bind fun a b related => ?_) _ _
  split
  · split
    · exact .logLeft (.logRight (.done related))
    · exact .logLeft (.done related)
  · split
    · exact .logRight (.done related)
    · exact .done related

end Layer

namespace Gateway

/-- The request reads the measurements. -/
def ReadsMetrics (request : Http.Request) : Prop :=
  request.target.path = "/metrics" ∧ (request.method = "GET" ∨ request.method = "HEAD")

variable (gateway : Gateway)

/-- A file is served in the same way under any id. -/
theorem serveFile_congr (path : String) (same : first.SameButId second) :
    gateway.serveFile path first = gateway.serveFile path second := by
  have below : Http.Request.SameButId { first with target := { first.target with path } }
      { second with target := { second.target with path } } := by
    refine ⟨same.method, ?_, same.body, same.headers⟩
    rw [same.target]
  simp only [serveFile, Http.StaticFiles.answer_congr gateway.assets below]

/-- Inside its layers the gateway serves two requests alike that differ only in their ids. -/
theorem alike_dispatch (same : first.SameButId second) (ids : like.ids first.id second.id)
    (shown : exact → ReadsMetrics first → ∀ text text', like.texts text text' → text = text') :
    (gateway.dispatch first).Alike like (·.Matches exact ·) (gateway.dispatch second) := by
  unfold dispatch
  rw [← same.target]
  split
  · exact .done (.refl _ _)
  · rename_i path _
    rw [gateway.serveFile_congr path same]
    exact Task.Alike.logAll (.done (.refl _ _)) _ _
  · rename_i route notAssets found
    refine Layer.alike_count ?_ rfl (Endpoint.alike_serve _ ?_ ?_ ?_)
    · exact same.method
    · exact same.method
    · intro reading service known
      cases route with
      | predict => contradiction
      | assets path => exact absurd rfl (notAssets path)
      | page => cases known; exact .done (.refl _ _)
      | health => cases known; exact Handler.alike_health
      | ready => cases known; exact Handler.alike_ready
      | metrics =>
        cases known
        exact Handler.alike_metrics fun asked => shown asked ⟨Route.eq_of_template? found rfl, reading⟩
    · intro service known
      cases route with
      | predict =>
        cases known
        exact Handler.alike_predict gateway.responder
          ⟨same.method, rfl, same.body, same.headers⟩ ids
      | _ => contradiction

/-- The answers are those to a request for the path under two ids, from responses that match. -/
def AnswersMatch (exact : Prop) (path id id' : String) (answer answer' : Http.Response) : Prop :=
  ∃ response response' : Http.Response, response.Matches exact response' ∧
    answer = Layer.stamped id (Layer.secure path response) ∧
    answer' = Layer.stamped id' (Layer.secure path response')

/-- Answers from the same response are the same up to the field of ids. -/
theorem AnswersMatch.same {path id id' : String} {answer answer' : Http.Response}
    (h : AnswersMatch exact path id id' answer answer') (asked : exact) :
    answer.status = answer'.status ∧ answer.body = answer'.body ∧
      answer.headers.erase Trace.requestIdField = answer'.headers.erase Trace.requestIdField := by
  obtain ⟨response, response', related, rfl, rfl⟩ := h
  obtain rfl := related.2 asked
  refine ⟨rfl, rfl, ?_⟩
  simp only [Layer.stamped, Trace.erase_setLegal]

/-- Under the same id they are the same. -/
theorem AnswersMatch.eq {path id id' : String} {answer answer' : Http.Response}
    (h : AnswersMatch exact path id id' answer answer') (asked : exact) (ids : id' = id) :
    answer = answer' := by
  obtain ⟨response, response', related, rfl, rfl⟩ := h
  rw [related.2 asked, ids]

/-- Under two ids that are alike, two requests that differ only in their ids are served alike. -/
theorem alike_underId (same : first.SameButId second) {id id' : String}
    (ids : like.ids (some id) (some id'))
    (shown : exact → ReadsMetrics first → ∀ text text', like.texts text text' → text = text') :
    (Layer.underId (Layer.trace (Layer.security gateway.dispatch)) id first).Alike like
      (AnswersMatch exact first.target.path id id')
      (Layer.underId (Layer.trace (Layer.security gateway.dispatch)) id' second) := by
  have identified := Layer.sameButId_identified same id id'
  have served := gateway.alike_dispatch identified ids shown
  have secured : (Layer.security gateway.dispatch (Layer.identified id first)).Alike like
      (fun a b => ∃ response response' : Http.Response, response.Matches exact response' ∧
        a = Layer.secure first.target.path response ∧
        b = Layer.secure first.target.path response')
      (Layer.security gateway.dispatch (Layer.identified id' second)) := by
    refine served.map fun a b related => ⟨a, b, related, rfl, ?_⟩
    rw [same.target]
    rfl
  refine (Layer.alike_trace secured).map ?_
  rintro _ _ ⟨response, response', related, rfl, rfl⟩
  exact ⟨response, response', related, rfl, rfl⟩

/-- The gateway serves two requests alike that differ only in their ids. -/
theorem alike_service (same : first.SameButId second) (ids : ∀ id id', like.ids id id')
    (shown : exact → ReadsMetrics first → ∀ text text', like.texts text text' → text = text') :
    (gateway.service first).Alike like
      (fun answer answer' => ∃ id id', AnswersMatch exact first.target.path id id' answer answer')
      (gateway.service second) := by
  have under (id id' : String) :
      (Layer.underId (Layer.trace (Layer.security gateway.dispatch)) id first).Alike like
        (fun answer answer' => ∃ id id', AnswersMatch exact first.target.path id id' answer answer')
        (Layer.underId (Layer.trace (Layer.security gateway.dispatch)) id' second) := by
    have alike := gateway.alike_underId same (ids (some id) (some id')) shown
    exact alike.mono fun _ _ related => ⟨id, id', related⟩
  unfold service Layer.requestId
  split
  · split
    · exact under _ _
    · exact .drawRight fun uuid => under _ _
  · split
    · exact .drawLeft fun uuid => under _ _
    · exact .drawLeft fun uuid => .drawRight fun uuid' => under _ _

end Gateway

end ChatGateway
