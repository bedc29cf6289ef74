import ChatGateway.Classifier
import ChatGateway.Proofs.Gateway.Likeness
import ChatGateway.Proofs.Http.IgnoredField

/-!
# Ids only correlate

Serving two requests from the same state that differ only in the ids that they bring ends in the
same answer up to the field of ids, and in the same measurements. That holds around every responder
that ignores the ids that it is called with. Echoing ignores them; so does asking a classifier
whose network ignores the field of ids, and then also the same requests are sent up to that field.
-/

namespace ChatGateway

variable {σ : Type}

/-- Whatever the ids, calls in states that are alike bring the same reply, and leave such states. -/
structure Responder.IgnoresIds (responder : Responder σ) (alike : σ → σ → Prop) : Prop where
  refl : ∀ state, alike state state
  answer : ∀ (question : String) (id id' : Option String) {state other : σ}, alike state other →
    let outcome := responder.answer question id state
    let outcome' := responder.answer question id' other
    Task.replyOf outcome = Task.replyOf outcome' ∧ alike outcome.state outcome'.state
  health : ∀ {state other : σ}, alike state other →
    Task.replyOf (responder.health state) = Task.replyOf (responder.health other) ∧
      alike (responder.health state).state (responder.health other).state

/-- Echoing does not look at ids. -/
theorem Echo.ignoresIds : (Echo.responder σ).IgnoresIds Eq :=
  ⟨fun _ => rfl, fun _ _ _ _ _ same => ⟨rfl, same⟩, fun same => ⟨rfl, same⟩⟩

namespace Classifier

variable (classifier : Classifier) {network : Http.Network σ} (current : Option Trace.SpanContext)
  {alike : σ → σ → Prop}

/-- Under any ids the same is posted, up to the field of ids. -/
theorem post_agrees (ignores : network.Ignores Trace.requestIdField alike) (question : String)
    (id id' : Option String) {state other : σ} (states : alike state other) :
    (classifier.post network current question id state).Agrees Trace.requestIdField alike
      (classifier.post network current question id' other) := by
  refine Http.Client.send_agrees ignores (by decide) (by decide) "POST" classifier.url ?_ _ states
  rw [Trace.erase_write, Trace.erase_write]

/-- On a network that ignores the field of ids, asking the classifier ignores ids. -/
theorem ignoresIds (ignores : network.Ignores Trace.requestIdField alike) :
    (classifier.responder network current).IgnoresIds alike where
  refl := ignores.refl
  answer question id id' state other states := by
    have posted := classifier.post_agrees current ignores question id id' states
    refine ⟨?_, posted.state⟩
    simp only [responder, Task.replyOf, posted.result]
  health {state other} states := by
    unfold responder
    cases classifier.healthUrl with
    | none => exact ⟨rfl, states⟩
    | some url =>
      have inquired := Http.Client.send_agrees ignores (by decide) (by decide) "GET" url
        (rfl : (Trace.write [] current none).erase Trace.requestIdField = _) [] states
      refine ⟨?_, inquired.state⟩
      simp only [Task.replyOf, inquire, inquired.result]

end Classifier

/-- Told the same except for ids, and with whatever ids. -/
def Likeness.exceptIds : Likeness where
  replies := Eq
  samples := Eq
  texts := Eq
  ids _ _ := True
  result := congrArg Reply.result
  refl _ := rfl
  answered name same := congrArg (Metrics.Sample.answered name) (congrArg Reply.seconds same)

/-- The worlds have alike responders and the same measurements. -/
structure World.Alike (alike : σ → σ → Prop) (first second : World σ) : Prop where
  responder : alike first.responder second.responder
  measurements : first.measurements = second.measurements

/-- Tasks that differ only in ids leave alike worlds around a responder that ignores ids. -/
theorem Task.Alike.run_exceptIds {α β : Type} {brings : α → β → Prop} {task : Task α}
    {other : Task β} (h : task.Alike .exceptIds brings other) {responder : Responder σ}
    {alike : σ → σ → Prop} (ignores : responder.IgnoresIds alike) (ids ids' : Nat → Uuid)
    {world world' : World σ} (worlds : world.Alike alike world') :
    let first := task.run ⟨responder, ids⟩ world
    let second := other.run ⟨responder, ids'⟩ world'
    brings first.1 second.1 ∧ first.2.Alike alike second.2 := by
  induction h generalizing world world' with
  | done related => exact ⟨related, worlds⟩
  | drawLeft _ ih => exact ih _ ⟨worlds.responder, worlds.measurements⟩
  | drawRight _ ih => exact ih _ ⟨worlds.responder, worlds.measurements⟩
  | logLeft _ ih => exact ih ⟨worlds.responder, worlds.measurements⟩
  | logRight _ ih => exact ih ⟨worlds.responder, worlds.measurements⟩
  | @ask question id id' _ _ _ _ ih =>
    obtain ⟨reply, states⟩ := ignores.answer question id id' worlds.responder
    exact ih _ _ reply ⟨states, worlds.measurements⟩
  | probe _ ih =>
    obtain ⟨reply, states⟩ := ignores.health worlds.responder
    exact ih _ _ reply ⟨states, worlds.measurements⟩
  | measure same _ ih =>
    refine ih ⟨worlds.responder, ?_⟩
    change world.measurements.take _ = world'.measurements.take _
    rw [same, worlds.measurements]
  | showMetrics _ ih =>
    exact ih _ _ (congrArg Metrics.Measurements.text worlds.measurements) worlds

namespace Gateway

/-- The answers are the same up to the field of ids, and so are the worlds up to what is alike. -/
structure SameExceptIds (alike : σ → σ → Prop) (first second : Http.Response × World σ) : Prop where
  status : first.1.status = second.1.status
  body : first.1.body = second.1.body
  headers : first.1.headers.erase Trace.requestIdField = second.1.headers.erase Trace.requestIdField
  measurements : first.2.measurements = second.2.measurements
  responder : alike first.2.responder second.2.responder

/-- To this responder, and to whoever asks the gateway around it, ids only correlate. -/
structure CorrelationOnly (responder : Responder σ) (alike : σ → σ → Prop) : Prop where
  answered : responder.IgnoresIds alike
  served : ∀ (gateway : Gateway) (ids ids' : Nat → Uuid) (world : World σ)
    {first second : Http.Request}, first.SameButId second →
      SameExceptIds alike ((gateway.service first).run ⟨responder, ids⟩ world)
        ((gateway.service second).run ⟨responder, ids'⟩ world)

/-- Around a responder that ignores ids they only correlate. -/
theorem correlationOnly_of_ignoresIds {responder : Responder σ} {alike : σ → σ → Prop}
    (ignores : responder.IgnoresIds alike) : CorrelationOnly responder alike where
  answered := ignores
  served gateway ids ids' world first second same := by
    have served : (gateway.service first).Alike .exceptIds (fun answer answer' =>
        ∃ id id', AnswersMatch True first.target.path id id' answer answer')
        (gateway.service second) :=
      gateway.alike_service same (fun _ _ => trivial) fun _ _ _ _ shown => shown
    obtain ⟨⟨id, id', answers⟩, worlds⟩ :=
      served.run_exceptIds ignores ids ids' ⟨ignores.refl world.responder, rfl⟩
    obtain ⟨status, body, headers⟩ := answers.same trivial
    exact ⟨status, body, headers, worlds.measurements, worlds.responder⟩

/-- Ids only correlate around the echoing responder, and around a classifier whose network ignores
the field of ids, also if it is recorded what is sent to it. -/
theorem ids_only_correlate (classifier : Classifier) {network : Http.Network σ}
    (current : Option Trace.SpanContext) {alike : σ → σ → Prop}
    (ignores : network.Ignores Trace.requestIdField alike) :
    CorrelationOnly (Echo.responder σ) Eq ∧
      CorrelationOnly (classifier.responder network current) alike ∧
      CorrelationOnly (classifier.responder network.recording current)
        (Http.Network.AlikeWithout Trace.requestIdField alike) :=
  ⟨correlationOnly_of_ignoresIds Echo.ignoresIds,
    correlationOnly_of_ignoresIds (classifier.ignoresIds current ignores),
    correlationOnly_of_ignoresIds (classifier.ignoresIds current ignores.recording)⟩

/-- A question with these values as ids. -/
def questionWithIds (values : List Bytes) : Http.Request where
  method := "POST"
  target := { path := "/predict" }
  headers := ⟨"content-type", Bytes.ofText "application/json"⟩ ::
    values.map fun value => ⟨Trace.requestIdField, value⟩
  body := Question.document ⟨" hi "⟩

/-- Requests that pose one question under different ids differ in nothing else. -/
theorem sameButId_questionWithIds (values values' : List Bytes) :
    (questionWithIds values).SameButId (questionWithIds values') := by
  have erased (values : List Bytes) : (questionWithIds values).headers.erase Trace.requestIdField =
      [⟨"content-type", Bytes.ofText "application/json"⟩] := by
    simp [questionWithIds, Http.Headers.erase, Trace.requestIdField]
  exact ⟨rfl, rfl, rfl, (erased values).trans (erased values').symm⟩

/-- A question without any id and the same question with two of them, the first of which is not
visible, are answered alike around a classifier that always answers. -/
theorem ids_only_correlate_of_two_ids :
    let network : Http.Network Unit :=
      .constant { status := 200, headers := [], body := Answer.document ⟨"hello"⟩ }
    let responder := Classifier.responder ⟨"http://[::1]/classify", none⟩ network.recording none
    let first := questionWithIds []
    let second := questionWithIds [[0xC3, 0xA9], Bytes.ofText "a"]
    network.Ignores Trace.requestIdField Eq ∧ first.SameButId second ∧
      SameExceptIds (Http.Network.AlikeWithout Trace.requestIdField Eq)
        ((echoing.service first).run ⟨responder, fun _ => ⟨0⟩⟩ { responder := ((), []) })
        ((echoing.service second).run ⟨responder, fun _ => ⟨1⟩⟩ { responder := ((), []) }) := by
  intro network responder first second
  have ignores : network.Ignores Trace.requestIdField Eq :=
    Http.Network.ignores_constant _ Trace.requestIdField
  have same : first.SameButId second := sameButId_questionWithIds _ _
  obtain ⟨_, _, correlation⟩ := ids_only_correlate ⟨"http://[::1]/classify", none⟩ none ignores
  exact ⟨ignores, same, correlation.served echoing _ _ _ same⟩

end Gateway

end ChatGateway
