import ChatGateway.Gateway.Uuid
import ChatGateway.Http.Message
import ChatGateway.Metrics.Exposition
import ChatGateway.Responder

/-!
# Tasks

A task is the serving of one request, taken apart into the steps that others can notice:
drawing an identifier, asking the responder, measuring, logging, and reading the
measurements. Between two steps of a task those of other tasks may happen; `Task.run` performs
one task without such interruptions.
-/

namespace ChatGateway

/-- What a call of the responder brings back. -/
structure Reply (α : Type) where
  result : Except ResponderFault α
  /-- How long the call took. -/
  seconds : Float
  /-- What the responder logged. -/
  events : List LogEvent

/-- The steps of serving one request. -/
inductive Task (α : Type) where
  | done (a : α)
  | drawId (next : Uuid → Task α)
  | ask (question : String) (id : Option String) (next : Reply String → Task α)
  | probe (next : Reply Unit → Task α)
  | measure (sample : Metrics.Sample) (next : Task α)
  | log (event : LogEvent) (next : Task α)
  | showMetrics (next : String → Task α)

namespace Task

variable {α β : Type}

/-- Goes on with what a task brings. -/
def bind (task : Task α) (f : α → Task β) : Task β :=
  match task with
  | done a => f a
  | drawId next => .drawId fun id => (next id).bind f
  | ask question id next => .ask question id fun reply => (next reply).bind f
  | probe next => .probe fun reply => (next reply).bind f
  | measure sample next => .measure sample (next.bind f)
  | log event next => .log event (next.bind f)
  | showMetrics next => .showMetrics fun text => (next text).bind f

/-- Changes what a task brings. -/
def map (f : α → β) (task : Task α) : Task β := task.bind fun a => .done (f a)

/-- Puts the events of a task into a span. -/
def within (span : LogSpan) : Task α → Task α
  | done a => .done a
  | drawId next => .drawId fun id => (next id).within span
  | ask question id next => .ask question id fun reply => (next reply).within span
  | probe next => .probe fun reply => (next reply).within span
  | measure sample next => .measure sample (next.within span)
  | log event next => .log (event.within span) (next.within span)
  | showMetrics next => .showMetrics fun text => (next text).within span

/-- Logs events before a task. -/
def logAll (events : List LogEvent) (task : Task α) : Task α := events.foldr .log task

/-- Going on with nothing but the result changes no task. -/
@[simp]
theorem bind_done (task : Task α) : task.bind .done = task := by
  induction task <;> simp_all [bind]

end Task

/-- What tasks share: the responder's state, the measurements, the log with its latest event
first, and how many identifiers were drawn. -/
structure World (σ : Type) where
  responder : σ
  measurements : Metrics.Measurements := {}
  log : List LogEvent := []
  drawn : Nat := 0

/-- What surrounds the tasks and never changes: the responder and the source of identifiers. -/
structure Surroundings (σ : Type) where
  responder : Responder σ
  ids : Nat → Uuid

namespace Task

variable {σ α : Type}

/-- The reply that an outcome of the responder brings. -/
def replyOf (outcome : Outcome σ α) : Reply α := ⟨outcome.result, outcome.seconds, outcome.events⟩

/-- Performs a task without interruption. -/
def run (around : Surroundings σ) : Task α → World σ → α × World σ
  | done a, world => (a, world)
  | drawId next, world =>
    (next (around.ids world.drawn)).run around { world with drawn := world.drawn + 1 }
  | ask question id next, world =>
    let outcome := around.responder.answer question id world.responder
    (next (replyOf outcome)).run around { world with responder := outcome.state }
  | probe next, world =>
    let outcome := around.responder.health world.responder
    (next (replyOf outcome)).run around { world with responder := outcome.state }
  | measure sample next, world =>
    next.run around { world with measurements := world.measurements.take sample }
  | log event next, world => next.run around { world with log := event :: world.log }
  | showMetrics next, world => (next world.measurements.text).run around world

end Task

/-- Serves requests. -/
abbrev Service := Http.Request → Task Http.Response

end ChatGateway
