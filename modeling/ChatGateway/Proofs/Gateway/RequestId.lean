import ChatGateway.Classifier
import ChatGateway.Proofs.Gateway.Prediction
import ChatGateway.Proofs.Http.Redirection

/-!
# One id for each request

A request is served under one id: the first that it brings, if that is visible and not empty,
and otherwise a new one. Whatever service is inside the layers, it is called on a request with
this id and no other, in a span with this id, and its answer leaves with this id and no other.
The responder is asked under this id, and all that the classifier's client sends on the way,
redirections included, carries it.
-/

namespace ChatGateway

variable {σ : Type}

namespace Layer

/-- The fields bring this value as an id: it is the first one, is not empty, and is visible. -/
structure Brings (headers : Http.Headers) (value : Bytes) : Prop where
  first : headers.get? Trace.requestIdField = some value
  notEmpty : value ≠ []
  visible : value.all Http.isVisible = true

/-- An id is taken from a request exactly if its octets are brought. -/
theorem givenId?_eq_some_iff (headers : Http.Headers) (id : String) :
    givenId? headers = some id ↔ Brings headers (Bytes.ofText id) := by
  have empty : Bytes.ofText id = [] ↔ id = "" := @Bytes.ofText_inj id ""
  rw [givenId?, Option.filter_eq_some_iff, Option.bind_eq_some_iff]
  constructor
  · intro given
    obtain ⟨⟨value, first, shown⟩, notEmpty⟩ := given
    have octets := Http.ofText_visibleText shown
    refine ⟨octets ▸ first, ?_, ?_⟩
    · rw [ne_eq, empty]
      simpa using notEmpty
    · rw [octets]
      exact Http.visible_of_visibleText shown
  · intro brings
    refine ⟨⟨Bytes.ofText id, brings.first, Http.visibleText?_ofText brings.visible⟩, ?_⟩
    have notEmpty := brings.notEmpty
    rw [ne_eq, empty] at notEmpty
    simpa using notEmpty

/-- A value that is brought is that of the id that is taken. -/
theorem Brings.givenId? {headers : Http.Headers} {value : Bytes} (h : Brings headers value) :
    ∃ id, givenId? headers = some id ∧ Bytes.ofText id = value := by
  have basic : ∀ b ∈ value, b < 0x80 := fun b hb =>
    Http.isVisible_basic (List.all_eq_true.mp h.visible b hb)
  have octets := Bytes.ofText_ofList_character basic
  exact ⟨_, (givenId?_eq_some_iff headers _).mpr (octets.symm ▸ h), octets⟩

variable (around : Surroundings σ) (world : World σ)

/-- The id of a request that brings one is that one. -/
theorem ofText_idIn {headers : Http.Headers} {value : Bytes} (h : Brings headers value) :
    Bytes.ofText (idIn around world headers) = value := by
  obtain ⟨id, given, octets⟩ := h.givenId?
  rw [idIn, given]
  exact octets

/-- A request that brings no id gets the next new one. -/
theorem idIn_of_brings_none {headers : Http.Headers} (h : ∀ value, ¬ Brings headers value) :
    idIn around world headers = (around.ids world.drawn).text := by
  cases given : givenId? headers with
  | none => rw [idIn, given]; rfl
  | some id => exact absurd ((givenId?_eq_some_iff headers id).mp given) (h _)

/-- Every id is visible. -/
theorem idIn_visible (headers : Http.Headers) :
    (Bytes.ofText (idIn around world headers)).all Http.isVisible = true := by
  cases given : givenId? headers with
  | none =>
    rw [idIn, given]
    exact Uuid.text_visible _
  | some id =>
    rw [idIn, given]
    exact ((givenId?_eq_some_iff headers id).mp given).visible

end Layer

/-- The responder is left as the calls of it leave it. -/
theorem Notice.responder_foldl_applyTo (notices : List (Notice σ)) (world : World σ) :
    (notices.foldl applyTo world).responder =
      ((notices.filter callsResponder).foldl applyTo world).responder := by
  refine foldl_applyTo_filter (·.responder) callsResponder ?_ ?_ notices world
  · intro notice first second calls same
    cases notice with
    | asked question id outcome => rfl
    | probed outcome => rfl
    | _ => contradiction
  · intro notice world silent
    cases notice with
    | asked question id outcome => contradiction
    | probed outcome => contradiction
    | _ => rfl

namespace Classifier

/-- A recording network keeps what is sent for a question. -/
theorem post_recording (classifier : Classifier) (network : Http.Network σ)
    (current : Option Trace.SpanContext) (question : String) (id : Option String) (state : σ)
    (before : List Http.Outbound) :
    classifier.post network.recording current question id (state, before) =
      (classifier.post network current question id state).recordedAfter before :=
  Http.Client.send_recording network _ _ _ _ state before

/-- The id of a request travels along a redirection. -/
theorem travels_requestIdField : Http.Client.Travels Trace.requestIdField :=
  ⟨by decide, by decide, by decide⟩

/-- Every request that is sent for a question carries the id of the question as its only one. -/
theorem values_sent_post (classifier : Classifier) (network : Http.Network σ)
    (current : Option Trace.SpanContext) (question : String) {id : String}
    (legal : Http.isFieldValue (Bytes.ofText id) = true) (state : σ) :
    ∀ sent ∈ (classifier.post network current question (some id) state).sent,
      sent.headers.values Trace.requestIdField = [Bytes.ofText id] := by
  intro sent hsent
  rw [Http.Client.values_sent_send network _ _ _ _ state travels_requestIdField (by decide) sent
    hsent]
  exact Trace.values_write_requestId _ current legal

end Classifier

namespace Gateway

open Trace (requestIdField)

/-- Under this id a service inside the layers is called: on a request that has it as its only id
and knows it, in a span of that id; and its answer leaves with the id as its only one. -/
def CallsUnder (id : String) (around : Surroundings σ) (world : World σ) (request : Http.Request)
    (inner : Service) : Prop :=
  ∃ seen : Http.Request,
    seen.headers.values requestIdField = [Bytes.ofText id] ∧ seen.id = some id ∧
    (Layer.spanOf seen).fields.lookup "request_id" = some id ∧
    (let served := (inner seen).run around (Layer.idWorld around world request.headers)
     let response := ((layered inner request).run around world).1
     response.headers.values requestIdField = [Bytes.ofText id] ∧
     response.status = served.1.status ∧ response.body = served.1.body ∧
     (layered inner request).notices around world =
      Layer.idNotices around world request.headers ++
        ((inner seen).notices around (Layer.idWorld around world request.headers) ++
          Layer.failureNotices served.1.status).map (Notice.within (Layer.spanOf seen)))

/-- A service calls the responder under the id that its request was given. -/
theorem callsUnder_idIn (around : Surroundings σ) (world : World σ) (request : Http.Request)
    (inner : Service) :
    CallsUnder (Layer.idIn around world request.headers) around world request inner := by
  have visible := Layer.idIn_visible around world request.headers
  have legal := Http.isFieldValue_of_visible visible
  have own := Trace.values_setLegal_self request.headers requestIdField legal
  refine ⟨_, own, rfl, ?_, ?_, ?_, ?_, notices_layered around inner request world⟩
  · have first : (Trace.setLegal request.headers requestIdField
        (Layer.idIn around world request.headers)).get? requestIdField = some _ :=
      congrArg List.head? own
    simp only [Layer.spanOf, Layer.identified, first, Option.bind_some,
      Http.visibleText?_ofText visible, Option.getD_some]
    rfl
  · rw [run_layered_fst]
    exact Trace.values_setLegal_self _ requestIdField legal
  · rw [run_layered_fst]
    rfl
  · rw [run_layered_fst]
    rfl

/-- Everything that is logged while the service is called is logged in a span of the id. -/
theorem CallsUnder.span_of_logged {id : String} {around : Surroundings σ} {world : World σ}
    {request : Http.Request} {inner : Service} (h : CallsUnder id around world request inner)
    {event : LogEvent} (logged : .logged event ∈ (layered inner request).notices around world) :
    ∃ span, event.span = some span ∧ span.name = "http_request" ∧
      span.fields.lookup "request_id" = some id := by
  obtain ⟨seen, _, _, spanId, _, _, _, notices⟩ := h
  rw [notices, List.mem_append] at logged
  rcases logged with chosen | inside
  · unfold Layer.idNotices at chosen
    split at chosen
    · contradiction
    · rw [List.mem_singleton] at chosen
      contradiction
  · obtain ⟨notice, _, within⟩ := List.mem_map.mp inside
    cases notice with
    | logged inner =>
      cases within
      exact ⟨_, rfl, rfl, spanId⟩
    | _ => contradiction

/-- The id is that of the request, for all that can be noticed of serving it with this source of
ids when so many were drawn. -/
structure Identifies (id : String) (ids : Nat → Uuid) (drawn : Nat) (request : Http.Request) :
    Prop where
  brought : ∀ value, Layer.Brings request.headers value → Bytes.ofText id = value
  isNew : (∀ value, ¬ Layer.Brings request.headers value) → id = (ids drawn).text
  /-- The id may stand in a field, so it is written wherever it is to be written. -/
  legal : Http.isFieldValue (Bytes.ofText id) = true
  inside : ∀ {σ : Type} (responder : Responder σ) (world : World σ), world.drawn = drawn →
    ∀ inner : Service, CallsUnder id ⟨responder, ids⟩ world request inner
  answered : ∀ {σ : Type} (responder : Responder σ) (world : World σ), world.drawn = drawn →
    ∀ gateway : Gateway,
      ((gateway.service request).run ⟨responder, ids⟩ world).1.headers.values requestIdField =
        [Bytes.ofText id]
  logged : ∀ {σ : Type} (responder : Responder σ) (world : World σ), world.drawn = drawn →
    ∀ (gateway : Gateway) (event : LogEvent),
      .logged event ∈ (gateway.service request).notices ⟨responder, ids⟩ world →
        ∃ span, event.span = some span ∧ span.name = "http_request" ∧
          span.fields.lookup "request_id" = some id
  asked : ∀ {σ : Type} (responder : Responder σ) (world : World σ), world.drawn = drawn →
    ∀ gateway : Gateway, PostsQuestion request → ∀ question given outcome,
      .asked question given outcome ∈ (gateway.service request).notices ⟨responder, ids⟩ world →
        given = some id
  sent : ∀ {σ : Type} (classifier : Classifier) (network : Http.Network σ)
    (current : Option Trace.SpanContext) (world : World (σ × List Http.Outbound)),
    world.drawn = drawn → ∀ gateway : Gateway, PostsQuestion request →
      let responder := classifier.responder network.recording current
      ∃ sent : List Http.Outbound,
        ((gateway.service request).run ⟨responder, ids⟩ world).2.responder.2 =
          world.responder.2 ++ sent ∧
        ∀ outbound ∈ sent, outbound.headers.values requestIdField = [Bytes.ofText id]

section Posted

variable (gateway : Gateway) (world : World σ) {request : Http.Request}

/-- The responder is asked under the id of the request. -/
theorem given_of_asked (around : Surroundings σ) (posts : PostsQuestion request)
    {question : String} {given : Option String} {outcome : Outcome σ String}
    (h : .asked question given outcome ∈ (gateway.service request).notices around world) :
    given = some (Layer.idIn around world request.headers) := by
  have called : _ ∈ List.filter Notice.callsResponder _ := List.mem_filter.mpr ⟨h, rfl⟩
  cases hread : Extract.read Question.reader request with
  | error refusal =>
    rw [calls_of_error gateway around world posts hread] at called
    contradiction
  | ok read =>
    rw [calls_of_ok gateway around world posts hread, List.mem_singleton] at called
    cases called
    rfl

/-- What the classifier's client sends for a request carries the id of the request. -/
theorem exists_sent (classifier : Classifier) (network : Http.Network σ)
    (current : Option Trace.SpanContext) (ids : Nat → Uuid)
    (world : World (σ × List Http.Outbound)) (posts : PostsQuestion request) :
    let around : Surroundings _ := ⟨classifier.responder network.recording current, ids⟩
    ∃ sent : List Http.Outbound,
      ((gateway.service request).run around world).2.responder.2 = world.responder.2 ++ sent ∧
      ∀ outbound ∈ sent, outbound.headers.values requestIdField =
        [Bytes.ofText (Layer.idIn around world request.headers)] := by
  intro around
  rw [Task.run_snd_eq_foldl, Notice.responder_foldl_applyTo]
  cases hread : Extract.read Question.reader request with
  | error refusal =>
    rw [calls_of_error gateway around world posts hread]
    exact ⟨[], (List.append_nil _).symm, by simp⟩
  | ok question =>
    rw [calls_of_ok gateway around world posts hread]
    let id := Layer.idIn around world request.headers
    have legal := Http.isFieldValue_of_visible (Layer.idIn_visible around world request.headers)
    have recorded := classifier.post_recording network current question.message (some id)
      world.responder.1 world.responder.2
    refine ⟨_, congrArg (fun fetched => fetched.state.2) recorded, ?_⟩
    exact classifier.values_sent_post network current question.message legal world.responder.1

end Posted

/-- There is one id for each request. -/
theorem exists_identifies (ids : Nat → Uuid) (drawn : Nat) (request : Http.Request) :
    ∃ id, Identifies id ids drawn request := by
  -- The id depends on the source and on how many were drawn, so any responder will do.
  let id := Layer.idIn ⟨Echo.responder Unit, ids⟩ ⟨(), {}, [], drawn⟩ request.headers
  refine ⟨id, ?_, ?_, ?_, ?_, ?_, ?_, ?_, ?_⟩
  · exact fun value h => Layer.ofText_idIn _ _ h
  · exact fun h => Layer.idIn_of_brings_none _ _ h
  · exact Http.isFieldValue_of_visible (Layer.idIn_visible _ _ request.headers)
  · intro σ responder world same inner
    subst same
    exact callsUnder_idIn ⟨responder, ids⟩ world request inner
  · intro σ responder world same gateway
    subst same
    obtain ⟨_, _, _, _, stamped, _⟩ := callsUnder_idIn ⟨responder, ids⟩ world request gateway.dispatch
    exact stamped
  · intro σ responder world same gateway event logged
    subst same
    exact (callsUnder_idIn ⟨responder, ids⟩ world request gateway.dispatch).span_of_logged logged
  · intro σ responder world same gateway posts question given outcome h
    subst same
    exact gateway.given_of_asked world ⟨responder, ids⟩ posts h
  · intro σ classifier network current world same gateway posts
    subst same
    exact gateway.exists_sent classifier network current ids world posts

end Gateway

end ChatGateway
