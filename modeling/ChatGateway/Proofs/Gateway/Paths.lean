import ChatGateway.Proofs.Gateway.Likeness
import ChatGateway.Proofs.Gateway.Quiet

/-!
# Paths of tasks

A task that is performed among others takes a path: one step after the other, each of which is
noticed. What is told to it on the way, such as the outcomes of calls, is up to the others. A run
without interruption is a path as well.

Whatever its path, a request is served under one id, and a question is asked at most once, under
this id. The answer and the measurements of a path are those of a run alone in which the responder
gives the same results.
-/

namespace ChatGateway

variable {σ α β γ : Type}

namespace Task

/-- One step of a task, with what is noticed of it. -/
inductive Moves : Task α → Notice σ → Task α → Prop
  | drawId (next : Uuid → Task α) (id : Uuid) : Moves (.drawId next) (.drew id) (next id)
  | ask (question : String) (id : Option String) (next : Reply String → Task α)
    (outcome : Outcome σ String) :
    Moves (.ask question id next) (.asked question id outcome) (next (replyOf outcome))
  | probe (next : Reply Unit → Task α) (outcome : Outcome σ Unit) :
    Moves (.probe next) (.probed outcome) (next (replyOf outcome))
  | measure (sample : Metrics.Sample) (next : Task α) :
    Moves (.measure sample next) (.measured sample) next
  | log (event : LogEvent) (next : Task α) : Moves (.log event next) (.logged event) next
  | showMetrics (next : String → Task α) (text : String) :
    Moves (.showMetrics next) (.shown text) (next text)

/-- Steps lead from a task to another; these are the notices of them. -/
inductive Leads : Task α → List (Notice σ) → Task α → Prop
  | here (task : Task α) : Leads task [] task
  | on {task between last : Task α} {notice : Notice σ} {rest : List (Notice σ)}
    (moves : Moves task notice between) (leads : Leads between rest last) :
    Leads task (notice :: rest) last

/-- A path may be continued by one more step. -/
theorem Leads.concat {task between last : Task α} {path : List (Notice σ)} {notice : Notice σ}
    (leads : Leads task path between) (moves : Moves between notice last) :
    Leads task (path ++ [notice]) last := by
  induction leads with
  | here task => exact .on moves (.here _)
  | on first _ ih => exact .on first (ih moves)

/-- A run is a path. -/
theorem leads_run (around : Surroundings σ) (task : Task α) (world : World σ) :
    task.Leads (task.notices around world) (.done (task.run around world).1) := by
  induction task generalizing world with
  | done a => exact .here _
  | drawId next ih => exact .on (.drawId next _) (ih _ _)
  | ask question id next ih => exact .on (.ask question id next _) (ih _ _)
  | probe next ih => exact .on (.probe next _) (ih _ _)
  | measure sample next ih => exact .on (.measure sample next) (ih _)
  | log event next ih => exact .on (.log event next) (ih _)
  | showMetrics next ih => exact .on (.showMetrics next _) (ih _ _)

section Parts

variable {path : List (Notice σ)}

/-- A task that is done takes no step. -/
theorem Leads.of_done {a : α} {last : Task α} (h : (Task.done a).Leads path last) :
    path = [] ∧ last = .done a := by
  cases h with
  | here => exact ⟨rfl, rfl⟩
  | on moves => nomatch moves

/-- A path that begins with a notice begins with a step that gives it. -/
theorem leads_cons_iff {task last : Task α} {notice : Notice σ} :
    task.Leads (notice :: path) last ↔ ∃ between, task.Moves notice between ∧ between.Leads path last := by
  constructor
  · intro h
    cases h with
    | on moves leads => exact ⟨_, moves, leads⟩
  · rintro ⟨between, moves, leads⟩
    exact .on moves leads

/-- A task that goes on takes the steps of its first part until that is done. -/
theorem Moves.of_bind {task : Task α} {f : α → Task β} {notice : Notice σ} {next : Task β}
    (h : (task.bind f).Moves notice next) :
    (∃ a, task = .done a) ∨ ∃ between, task.Moves notice between ∧ next = between.bind f := by
  cases task with
  | done a => exact .inl ⟨a, rfl⟩
  | drawId later => cases h with | drawId _ id => exact .inr ⟨_, .drawId later id, rfl⟩
  | ask question id later =>
    cases h with | ask _ _ _ outcome => exact .inr ⟨_, .ask question id later outcome, rfl⟩
  | probe later => cases h with | probe _ outcome => exact .inr ⟨_, .probe later outcome, rfl⟩
  | measure sample later => cases h with | measure => exact .inr ⟨_, .measure sample later, rfl⟩
  | log event later => cases h with | log => exact .inr ⟨_, .log event later, rfl⟩
  | showMetrics later =>
    cases h with | showMetrics _ text => exact .inr ⟨_, .showMetrics later text, rfl⟩

/-- A path of a task that goes on has a path of each part. -/
theorem Leads.of_bind {task : Task α} {f : α → Task β} {b : β}
    (h : (task.bind f).Leads path (.done b)) :
    ∃ (a : α) (before after : List (Notice σ)), path = before ++ after ∧
      task.Leads before (.done a) ∧ (f a).Leads after (.done b) := by
  induction path generalizing task with
  | nil =>
    cases task with
    | done a => exact ⟨a, [], [], rfl, .here _, h⟩
    | _ => nomatch h
  | cons notice rest ih =>
    obtain ⟨between, moves, leads⟩ := leads_cons_iff.mp h
    rcases moves.of_bind with ⟨a, rfl⟩ | ⟨between, step, rfl⟩
    · exact ⟨a, [], _, rfl, .here _, h⟩
    · obtain ⟨a, before, after, rfl, first, second⟩ := ih leads
      exact ⟨a, _, after, rfl, .on step first, second⟩

/-- Changing what is brought changes no path. -/
theorem Leads.of_map {task : Task α} {f : α → β} {b : β} (h : (task.map f).Leads path (.done b)) :
    ∃ a, task.Leads path (.done a) ∧ b = f a := by
  obtain ⟨a, before, after, rfl, first, second⟩ := h.of_bind
  obtain ⟨rfl, brought⟩ := second.of_done
  rw [List.append_nil]
  exact ⟨a, first, (Task.done.inj brought)⟩

/-- Inside a span the same steps are taken. -/
theorem Moves.of_within {span : LogSpan} {task next : Task α} {notice : Notice σ}
    (h : (task.within span).Moves notice next) :
    ∃ (inner : Notice σ) (between : Task α), task.Moves inner between ∧
      notice = inner.within span ∧ next = between.within span := by
  cases task with
  | done a => nomatch h
  | drawId later => cases h with | drawId _ id => exact ⟨_, _, .drawId later id, rfl, rfl⟩
  | ask question id later =>
    cases h with | ask _ _ _ outcome => exact ⟨_, _, .ask question id later outcome, rfl, rfl⟩
  | probe later => cases h with | probe _ outcome => exact ⟨_, _, .probe later outcome, rfl, rfl⟩
  | measure sample later => cases h with | measure => exact ⟨_, _, .measure sample later, rfl, rfl⟩
  | log event later => cases h with | log => exact ⟨_, _, .log event later, rfl, rfl⟩
  | showMetrics later =>
    cases h with | showMetrics _ text => exact ⟨_, _, .showMetrics later text, rfl, rfl⟩

/-- A path inside a span is one outside of it, with the span noted. -/
theorem Leads.of_within {span : LogSpan} {task : Task α} {a : α}
    (h : (task.within span).Leads path (.done a)) :
    ∃ inner : List (Notice σ), path = inner.map (Notice.within span) ∧
      task.Leads inner (.done a) := by
  induction path generalizing task with
  | nil =>
    cases task with
    | done a => exact ⟨[], rfl, h⟩
    | _ => nomatch h
  | cons notice rest ih =>
    obtain ⟨between, moves, leads⟩ := leads_cons_iff.mp h
    obtain ⟨inner, between, step, rfl, rfl⟩ := moves.of_within
    obtain ⟨later, rfl, rest⟩ := ih leads
    exact ⟨inner :: later, rfl, .on step rest⟩

/-- A path through events that are noted begins with them. -/
theorem Leads.of_logAll {events : List LogEvent} {task : Task α} {a : α}
    (h : (logAll events task).Leads path (.done a)) :
    ∃ rest : List (Notice σ), path = events.map .logged ++ rest ∧ task.Leads rest (.done a) := by
  induction events generalizing path with
  | nil => exact ⟨path, rfl, h⟩
  | cons event events ih =>
    cases h with
    | on moves leads =>
      cases moves
      obtain ⟨rest, rfl, later⟩ := ih leads
      exact ⟨rest, rfl, later⟩

/-- A task that is done has the empty path only. -/
@[simp]
theorem leads_done_iff {a b : α} : (Task.done a).Leads path (.done b) ↔ path = [] ∧ b = a := by
  constructor
  · intro h
    obtain ⟨rfl, same⟩ := h.of_done
    exact ⟨rfl, Task.done.inj same⟩
  · rintro ⟨rfl, rfl⟩
    exact .here _

/-- A path through a measurement begins with it. -/
@[simp]
theorem leads_measure_iff {sample : Metrics.Sample} {next : Task α} {a : α} :
    (Task.measure sample next).Leads path (.done a) ↔
      ∃ rest : List (Notice σ), path = .measured sample :: rest ∧ next.Leads rest (.done a) := by
  constructor
  · intro h
    cases h with | on moves leads => cases moves; exact ⟨_, rfl, leads⟩
  · rintro ⟨rest, rfl, leads⟩
    exact .on (.measure sample next) leads

/-- A path through an event begins with it. -/
@[simp]
theorem leads_log_iff {event : LogEvent} {next : Task α} {a : α} :
    (Task.log event next).Leads path (.done a) ↔
      ∃ rest : List (Notice σ), path = .logged event :: rest ∧ next.Leads rest (.done a) := by
  constructor
  · intro h
    cases h with | on moves leads => cases moves; exact ⟨_, rfl, leads⟩
  · rintro ⟨rest, rfl, leads⟩
    exact .on (.log event next) leads

end Parts

end Task

/-- A question that was asked, under which id, and what the responder gave. -/
structure Asked where
  question : String
  id : Option String
  result : Except ResponderFault String

namespace Notice

/-- The question that was asked, if one was. -/
def asked? : Notice σ → Option Asked
  | asked question id outcome => some ⟨question, id, outcome.result⟩
  | _ => none

/-- What is asked is the same inside a span. -/
@[simp]
theorem asked?_within (span : LogSpan) (notice : Notice σ) :
    (notice.within span).asked? = notice.asked? := by
  cases notice <;> rfl

/-- What is asked on a path is the same inside a span. -/
@[simp]
theorem filterMap_asked?_within (span : LogSpan) (notices : List (Notice σ)) :
    (notices.map (within span)).filterMap asked? = notices.filterMap asked? := by
  rw [List.filterMap_map]
  congr 1
  exact funext (asked?_within span)

/-- Nothing is asked by noting events. -/
@[simp]
theorem filterMap_asked?_logged (events : List LogEvent) :
    (events.map logged : List (Notice σ)).filterMap asked? = [] := by
  induction events with
  | nil => rfl
  | cons event rest ih => exact ih

end Notice

/-- On no path of a quiet task a question is asked. -/
theorem Task.Leads.asked?_of_isQuiet {task last : Task α} {path : List (Notice σ)}
    (h : task.Leads path last) (quiet : task.IsQuiet) : path.filterMap Notice.asked? = [] := by
  induction h with
  | here => rfl
  | on moves _ ih =>
    cases moves with
    | drawId next id => exact ih (quiet id)
    | ask => exact quiet.elim
    | probe next outcome => exact ih (quiet _)
    | measure sample next => exact ih quiet.2
    | log event next => exact ih quiet
    | showMetrics next text => exact ih (quiet text)

namespace Handler

/-- What the responder gave decides the answer, and nothing else is asked. -/
theorem leads_answerWith {responder : String} {question : Question} {outcome : Outcome σ String}
    {path : List (Notice σ)} {response : Http.Response}
    (h : (answerWith responder question (Task.replyOf outcome)).Leads path (.done response)) :
    path.filterMap Notice.asked? = [] ∧ response = answerTo outcome.result := by
  obtain ⟨rest, rfl, leads⟩ := h.of_logAll
  rw [List.filterMap_append, Notice.filterMap_asked?_logged, List.nil_append]
  cases given : outcome.result with
  | ok answer =>
    simp only [Task.replyOf, given, Task.leads_measure_iff, Task.leads_log_iff,
      Task.leads_done_iff] at leads
    obtain ⟨_, rfl, _, rfl, _, rfl, rfl, rfl⟩ := leads
    exact ⟨rfl, rfl⟩
  | error fault =>
    simp only [Task.replyOf, given, fail, Task.leads_measure_iff, Task.leads_log_iff,
      Task.leads_done_iff] at leads
    obtain ⟨_, rfl, _, rfl, _, rfl, _, rfl, rfl, rfl⟩ := leads
    exact ⟨rfl, rfl⟩

/-- A question that was read is asked once, under the id of the request. -/
theorem leads_predict {responder : String} {request : Http.Request} {question : Question}
    (read : Extract.read Question.reader request = .ok question) {path : List (Notice σ)}
    {response : Http.Response} (h : (predict responder request).Leads path (.done response)) :
    ∃ result, path.filterMap Notice.asked? = [⟨question.message, request.id, result⟩] ∧
      response = answerTo result := by
  rw [predict_of_ok read] at h
  cases h with
  | on moves leads =>
    cases moves with
    | ask _ _ _ outcome =>
      obtain ⟨silent, answered⟩ := leads_answerWith leads
      refine ⟨outcome.result, ?_, answered⟩
      rw [List.filterMap_cons, silent]
      rfl

end Handler

namespace Layer

/-- The id of a request with these fields, and what is noticed of choosing it. -/
inductive Chooses (headers : Http.Headers) : String → List (Notice σ) → Prop
  | given {id : String} (h : givenId? headers = some id) : Chooses headers id []
  | new (h : givenId? headers = none) (uuid : Uuid) : Chooses headers uuid.text [.drew uuid]

/-- Nothing is asked while an id is chosen. -/
theorem Chooses.asked? {headers : Http.Headers} {id : String} {draws : List (Notice σ)}
    (h : Chooses headers id draws) : draws.filterMap Notice.asked? = [] := by
  cases h <;> rfl

variable {inner : Service} {request : Http.Request} {path : List (Notice σ)}
  {response : Http.Response}

/-- Nothing is asked by noting a failure. -/
@[simp]
theorem filterMap_asked?_failureNotices (status : Http.Status) :
    (failureNotices status : List (Notice σ)).filterMap Notice.asked? = [] := by
  unfold failureNotices
  split <;> rfl

/-- First an id is chosen, and then the request is served under it. -/
theorem leads_requestId (h : (requestId inner request).Leads path (.done response)) :
    ∃ (id : String) (draws served : List (Notice σ)), path = draws ++ served ∧
      Chooses request.headers id draws ∧ (underId inner id request).Leads served (.done response) := by
  unfold requestId at h
  split at h
  · rename_i id given
    exact ⟨id, [], path, rfl, .given given, h⟩
  · rename_i given
    cases h with
    | on moves leads =>
      cases moves with
      | drawId _ uuid => exact ⟨uuid.text, [.drew uuid], _, rfl, .new given uuid, leads⟩

/-- Under an id the layers add the fields of the answer, a span, and the event of a failure. -/
theorem leads_underId {id : String}
    (h : (underId (trace (security inner)) id request).Leads path (.done response)) :
    ∃ (inside : List (Notice σ)) (answer : Http.Response),
      (inner (identified id request)).Leads inside (.done answer) ∧
      path = (inside ++ failureNotices answer.status).map (Notice.within (spanOf (identified id request))) ∧
      response = stamped id (secure request.target.path answer) := by
  obtain ⟨traced, inSpan, rfl⟩ := h.of_map
  obtain ⟨spanless, rfl, logged⟩ := inSpan.of_within
  obtain ⟨secured, inside, after, rfl, leads, failure⟩ := logged.of_bind
  obtain ⟨answer, served, rfl⟩ := leads.of_map
  have same : after = failureNotices answer.status ∧ traced = secure request.target.path answer := by
    unfold failureNotices
    change (if answer.status.isServerError then _ else _ : Task Http.Response).Leads _ _ at failure
    split at failure
    · rename_i failed
      simp only [Task.leads_log_iff, Task.leads_done_iff] at failure
      obtain ⟨_, rfl, rfl, rfl⟩ := failure
      rw [if_pos failed]
      exact ⟨rfl, rfl⟩
    · rename_i passed
      rw [if_neg passed]
      exact Task.leads_done_iff.mp failure
  obtain ⟨rfl, rfl⟩ := same
  exact ⟨inside, answer, served, rfl, rfl⟩

/-- Counting a request adds two measurements. -/
theorem leads_count (h : (count inner request).Leads path (.done response)) :
    ∃ inside : List (Notice σ), (inner request).Leads inside (.done response) ∧
      path = inside ++ [.measured (.served (servedAs request response.status)),
        .measured (.timed (servedAs request response.status))] := by
  obtain ⟨answer, inside, after, rfl, leads, counted⟩ := h.of_bind
  simp only [Task.leads_measure_iff, Task.leads_done_iff] at counted
  obtain ⟨_, rfl, _, rfl, rfl, rfl⟩ := counted
  exact ⟨inside, leads, rfl⟩

end Layer

namespace Gateway

variable (gateway : Gateway) {request : Http.Request} {path : List (Notice σ)}
  {response : Http.Response} {id : String}

/-- A posted question is asked once, under its id, and answered with what the responder gave. -/
theorem asked_of_carries (posts : PostsQuestion request) {message : String}
    (carries : Carries request message)
    (h : (Layer.underId (Layer.trace (Layer.security gateway.dispatch)) id request).Leads path
      (.done response)) :
    ∃ result, path.filterMap Notice.asked? = [⟨message, some id, result⟩] ∧
      response = Layer.stamped id (Layer.secure request.target.path
        (Endpoint.measured (Handler.answerTo result))) := by
  obtain ⟨inside, answer, leads, rfl, rfl⟩ := Layer.leads_underId h
  rw [dispatch_of_posts gateway (posts.identified id)] at leads
  obtain ⟨counted, served, rfl⟩ := Layer.leads_count leads
  obtain ⟨handled, handling, rfl⟩ := served.of_map
  have read : Extract.read Question.reader (routed id request) = .ok ⟨message⟩ :=
    (read_routed id request).trans ((carries_iff request message).mp carries)
  obtain ⟨result, asked, rfl⟩ := Handler.leads_predict read handling
  refine ⟨result, ?_, rfl⟩
  rw [Notice.filterMap_asked?_within, List.filterMap_append, List.filterMap_append, asked,
    Layer.filterMap_asked?_failureNotices]
  rfl

/-- Requests that carry no question are asked nothing about. -/
theorem asked_of_not_carries (h : PostsQuestion request → ∀ message, ¬ Carries request message)
    (leads : (Layer.underId (Layer.trace (Layer.security gateway.dispatch)) id request).Leads path
      (.done response)) : path.filterMap Notice.asked? = [] := by
  obtain ⟨inside, answer, served, rfl, rfl⟩ := Layer.leads_underId leads
  have quiet : (gateway.dispatch (Layer.identified id request)).IsQuiet := by
    by_cases posts : PostsQuestion request
    · cases read : Extract.read Question.reader request with
      | ok question => exact absurd ((carries_iff request question.message).mpr read) (h posts _)
      | error refusal =>
        exact gateway.isQuiet_dispatch_of_refused (posts.identified id)
          ((read_routed id request).trans read)
    · exact gateway.isQuiet_dispatch fun other => posts ⟨other.method, other.path⟩
  rw [Notice.filterMap_asked?_within, List.filterMap_append, served.asked?_of_isQuiet quiet,
    Layer.filterMap_asked?_failureNotices]
  rfl

end Gateway

end ChatGateway
