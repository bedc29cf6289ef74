import ChatGateway.Gateway.Task

/-!
# What is noticed of a task

Performing a task leaves a result and a world. The notices of a task are what happens on the
way, in order: identifiers drawn, calls of the responder with their outcomes, measurements,
events, and looks at the measurements. The world that is left is the first world with the
notices applied to it, so a statement about a whole run can be read off its notices.

Putting a task into a span changes the events among its notices and nothing else.
-/

namespace ChatGateway

variable {σ α β : Type}

/-- One step of a task as others notice it; a call of the responder carries its outcome. -/
inductive Notice (σ : Type) where
  | drew (id : Uuid)
  | asked (question : String) (id : Option String) (outcome : Outcome σ String)
  | probed (outcome : Outcome σ Unit)
  | measured (sample : Metrics.Sample)
  | logged (event : LogEvent)
  | shown (text : String)

namespace Notice

/-- Whether the responder is called. -/
def callsResponder : Notice σ → Bool
  | asked .. | probed _ => true
  | _ => false

/-- The notice of the same step inside a span. -/
def within (span : LogSpan) : Notice σ → Notice σ
  | logged event => logged (event.within span)
  | notice => notice

/-- The world after a step. -/
def applyTo (world : World σ) : Notice σ → World σ
  | drew _ => { world with drawn := world.drawn + 1 }
  | asked _ _ outcome => { world with responder := outcome.state }
  | probed outcome => { world with responder := outcome.state }
  | measured sample => { world with measurements := world.measurements.take sample }
  | logged event => { world with log := event :: world.log }
  | shown _ => world

/-- A call of the responder is one inside a span too. -/
@[simp]
theorem callsResponder_within (span : LogSpan) (notice : Notice σ) :
    (notice.within span).callsResponder = notice.callsResponder := by
  cases notice <;> rfl

/-- A call of the responder looks the same inside a span. -/
theorem within_of_callsResponder (span : LogSpan) {notice : Notice σ}
    (h : notice.callsResponder = true) : notice.within span = notice := by
  cases notice <;> first | rfl | simp [callsResponder] at h

/-- The test is about what services do, and not about what the layers around them add. -/
structure OfServices (test : Notice σ → Bool) : Prop where
  found : ∀ span notice, test (within span notice) = test notice
  same : ∀ span notice, test notice = true → within span notice = notice
  drew : ∀ id, test (.drew id) = false
  logged : ∀ event, test (.logged event) = false
  served : ∀ request, test (.measured (.served request)) = false
  timed : ∀ request, test (.measured (.timed request)) = false

/-- The test is about what the layers that all requests pass neither add nor change. -/
structure Steady (test : Notice σ → Bool) : Prop where
  found : ∀ span notice, test (within span notice) = test notice
  same : ∀ span notice, test notice = true → within span notice = notice
  drew : ∀ id, test (.drew id) = false
  logged : ∀ event, test (.logged event) = false

/-- What is about the services alone is not about the layers that all requests pass. -/
theorem OfServices.steady {test : Notice σ → Bool} (h : OfServices test) : Steady test :=
  ⟨h.found, h.same, h.drew, h.logged⟩

/-- Steady notices are found alike inside a span. -/
theorem Steady.filter_within {test : Notice σ → Bool} (h : Steady test) (span : LogSpan)
    (notices : List (Notice σ)) :
    (notices.map (within span)).filter test = notices.filter test := by
  induction notices with
  | nil => rfl
  | cons notice rest ih =>
    cases found : test notice with
    | false => simp [found, h.found, ih]
    | true => simp [found, ih, h.same span notice found]

/-- Whether the responder is called is about the services alone. -/
theorem ofServices_callsResponder : OfServices (callsResponder : Notice σ → Bool) where
  found := callsResponder_within
  same span _ := within_of_callsResponder span
  drew _ := rfl
  logged _ := rfl
  served _ := rfl
  timed _ := rfl

/-- Logged events are no calls of the responder. -/
@[simp]
theorem filter_callsResponder_logged (events : List LogEvent) :
    (events.map logged : List (Notice σ)).filter callsResponder = [] := by
  induction events with
  | nil => rfl
  | cons event rest ih => simp [callsResponder]

/-- Whether a measurement of questions is taken. -/
def measuresQuestion : Notice σ → Bool
  | measured (.predicted _) | measured (.answered ..) => true
  | _ => false

/-- A notice that measures a question does so inside a span too. -/
@[simp]
theorem measuresQuestion_within (span : LogSpan) (notice : Notice σ) :
    (notice.within span).measuresQuestion = notice.measuresQuestion := by
  cases notice <;> rfl

/-- Only measurements of questions change the registry of questions. -/
theorem registry_applyTo (world : World σ) {notice : Notice σ}
    (h : notice.measuresQuestion = false) :
    (notice.applyTo world).measurements.registry = world.measurements.registry := by
  cases notice with
  | measured sample => cases sample <;> first | rfl | simp [measuresQuestion] at h
  | _ => rfl

/-- A part of the world that some notices change alike, and the others do not change, is left as the
former leave it. -/
theorem foldl_applyTo_filter {β : Type} (part : World σ → β) (test : Notice σ → Bool)
    (alike : ∀ notice first second, test notice = true → part first = part second →
      part (applyTo first notice) = part (applyTo second notice))
    (kept : ∀ notice world, test notice = false → part (applyTo world notice) = part world)
    (notices : List (Notice σ)) (world : World σ) :
    part (notices.foldl applyTo world) = part ((notices.filter test).foldl applyTo world) := by
  have others (first second : World σ) (h : part first = part second) :
      part (notices.foldl applyTo first) = part ((notices.filter test).foldl applyTo second) := by
    induction notices generalizing first second with
    | nil => exact h
    | cons notice rest ih =>
      cases found : test notice with
      | false =>
        rw [List.filter_cons_of_neg (by simp [found])]
        exact ih _ _ ((kept notice first found).trans h)
      | true =>
        rw [List.filter_cons_of_pos found]
        exact ih _ _ (alike notice first second found h)
  exact others world world rfl

/-- Notices that measure no question leave the registry as it is. -/
theorem registry_foldl_applyTo (notices : List (Notice σ)) (world : World σ)
    (h : ∀ notice ∈ notices, notice.measuresQuestion = false) :
    (notices.foldl applyTo world).measurements.registry = world.measurements.registry := by
  induction notices generalizing world with
  | nil => rfl
  | cons notice rest ih =>
    rw [List.forall_mem_cons] at h
    rw [List.foldl_cons, ih (notice.applyTo world) h.2, registry_applyTo world h.1]

end Notice

namespace Task

variable (around : Surroundings σ)

/-- What is noticed of a task that is performed without interruption. -/
def notices : Task α → World σ → List (Notice σ)
  | done _, _ => []
  | drawId next, world =>
    let id := around.ids world.drawn
    .drew id :: (next id).notices { world with drawn := world.drawn + 1 }
  | ask question id next, world =>
    let outcome := around.responder.answer question id world.responder
    .asked question id outcome ::
      (next (replyOf outcome)).notices { world with responder := outcome.state }
  | probe next, world =>
    let outcome := around.responder.health world.responder
    .probed outcome :: (next (replyOf outcome)).notices { world with responder := outcome.state }
  | measure sample next, world =>
    .measured sample :: next.notices { world with measurements := world.measurements.take sample }
  | log event next, world => .logged event :: next.notices { world with log := event :: world.log }
  | showMetrics next, world =>
    .shown world.measurements.text :: (next world.measurements.text).notices world

/-- The world that a run leaves is the first one with all notices applied. -/
theorem run_snd_eq_foldl (task : Task α) (world : World σ) :
    (task.run around world).2 = (task.notices around world).foldl Notice.applyTo world := by
  induction task generalizing world with
  | done a => rfl
  | drawId next ih => exact ih _ _
  | ask question id next ih => exact ih _ _
  | probe next ih => exact ih _ _
  | measure sample next ih => exact ih _
  | log event next ih => exact ih _
  | showMetrics next ih => exact ih _ _

/-- A task that goes on is performed one part after the other. -/
theorem run_bind (task : Task α) (f : α → Task β) (world : World σ) :
    (task.bind f).run around world =
      (f (task.run around world).1).run around (task.run around world).2 := by
  induction task generalizing world with
  | done a => rfl
  | drawId next ih => exact ih _ _
  | ask question id next ih => exact ih _ _
  | probe next ih => exact ih _ _
  | measure sample next ih => exact ih _
  | log event next ih => exact ih _
  | showMetrics next ih => exact ih _ _

/-- What is noticed of two tasks in turn is what is noticed of the first and then of the second. -/
theorem notices_bind (task : Task α) (f : α → Task β) (world : World σ) :
    (task.bind f).notices around world = task.notices around world ++
      (f (task.run around world).1).notices around (task.run around world).2 := by
  induction task generalizing world with
  | done a => rfl
  | drawId next ih => exact congrArg _ (ih _ _)
  | ask question id next ih => exact congrArg _ (ih _ _)
  | probe next ih => exact congrArg _ (ih _ _)
  | measure sample next ih => exact congrArg _ (ih _)
  | log event next ih => exact congrArg _ (ih _)
  | showMetrics next ih => exact congrArg _ (ih _ _)

/-- Changing what a task brings changes nothing else of its run. -/
theorem run_map (task : Task α) (f : α → β) (world : World σ) :
    (task.map f).run around world =
      (f (task.run around world).1, (task.run around world).2) :=
  run_bind around task _ world

/-- Changing what a task brings is not noticed. -/
theorem notices_map (task : Task α) (f : α → β) (world : World σ) :
    (task.map f).notices around world = task.notices around world := by
  rw [map, notices_bind]
  exact List.append_nil _

/-- What is in the log changes neither what a task brings nor what is noticed of it; inside a
span the same is noticed, with the span at each event. -/
theorem within_anyLog (span : LogSpan) (task : Task α) (world : World σ) (log : List LogEvent) :
    ((task.within span).run around { world with log }).1 = (task.run around world).1 ∧
      (task.within span).notices around { world with log } =
        (task.notices around world).map (Notice.within span) := by
  induction task generalizing world log with
  | done a => exact ⟨rfl, rfl⟩
  | drawId next ih =>
    have h := ih (around.ids world.drawn) { world with drawn := world.drawn + 1 } log
    exact ⟨h.1, congrArg _ h.2⟩
  | ask question id next ih =>
    let outcome := around.responder.answer question id world.responder
    have h := ih (replyOf outcome) { world with responder := outcome.state } log
    exact ⟨h.1, congrArg _ h.2⟩
  | probe next ih =>
    let outcome := around.responder.health world.responder
    have h := ih (replyOf outcome) { world with responder := outcome.state } log
    exact ⟨h.1, congrArg _ h.2⟩
  | measure sample next ih =>
    have h := ih { world with measurements := world.measurements.take sample } log
    exact ⟨h.1, congrArg _ h.2⟩
  | log event next ih =>
    have h := ih { world with log := event :: world.log } (event.within span :: log)
    exact ⟨h.1, congrArg _ h.2⟩
  | showMetrics next ih =>
    have h := ih world.measurements.text world log
    exact ⟨h.1, congrArg _ h.2⟩

/-- A task brings the same inside a span. -/
theorem run_within_fst (span : LogSpan) (task : Task α) (world : World σ) :
    ((task.within span).run around world).1 = (task.run around world).1 :=
  (within_anyLog around span task world world.log).1

/-- What is noticed inside a span is what is noticed outside of it, with the span noted. -/
theorem notices_within (span : LogSpan) (task : Task α) (world : World σ) :
    (task.within span).notices around world =
      (task.notices around world).map (Notice.within span) :=
  (within_anyLog around span task world world.log).2

/-- Events that are noted first are in the log when the task begins. -/
theorem run_logAll (events : List LogEvent) (task : Task α) (world : World σ) :
    (logAll events task).run around world =
      task.run around { world with log := events.reverse ++ world.log } := by
  induction events generalizing world with
  | nil => rfl
  | cons event rest ih =>
    change (logAll rest task).run around { world with log := event :: world.log } = _
    rw [ih]
    simp

/-- Events that are noted first are noticed first. -/
theorem notices_logAll (events : List LogEvent) (task : Task α) (world : World σ) :
    (logAll events task).notices around world =
      events.map .logged ++
        task.notices around { world with log := events.reverse ++ world.log } := by
  induction events generalizing world with
  | nil => rfl
  | cons event rest ih =>
    change Notice.logged event ::
      (logAll rest task).notices around { world with log := event :: world.log } = _
    rw [ih]
    simp

end Task

end ChatGateway
