import ChatGateway.Proofs.Classifier.Meaning
import ChatGateway.Proofs.Envelope
import ChatGateway.Proofs.Http.Connection

/-!
# Gateways in a chain

A gateway can stand behind another: the classifier of the outer one is then the inner one, asked
over a connection. A question that is posted to the outer gateway is posted once to the inner one,
which asks its responder once, with the same message. What the responder answers comes out of both
gateways; whatever goes wrong inside is a bad gateway outside.

The id of the request goes along as far as the connection carries it: without the spaces and tabs
around it. An id of nothing else does not arrive, and the inner gateway takes a new one.
-/

namespace ChatGateway

variable {τ : Type}

namespace Classifier

/-- The address of the classifier can be asked, and leads to a path. -/
def LeadsTo (classifier : Classifier) (path : String) : Prop :=
  ∃ url, Http.Url.parse? classifier.url = some url ∧
    Http.Client.isUsable (Http.Client.withCredentials url []).1 = true ∧
    Http.Url.pathText url.path = path

/-- The request that poses a question at a path under an id. -/
structure Poses (classifier : Classifier) (current : Option Trace.SpanContext)
    (path question id : String) (sent : Http.Outbound) : Prop where
  known : classifier.request? current question (some id) = some sent
  method : sent.method = "POST"
  path : Http.Url.pathText sent.url.path = path
  body : sent.body = Question.document ⟨question⟩
  carried : sent.headers.values Trace.requestIdField = [Bytes.ofText id]
  type : sent.headers.values "content-type" = [Bytes.ofText "application/json"]

/-- Under a legal id any question can be posed to a classifier whose address can be asked. -/
theorem exists_poses {classifier : Classifier} {path : String} (leads : classifier.LeadsTo path)
    (current : Option Trace.SpanContext) (question : String) {id : String}
    (legal : Http.isFieldValue (Bytes.ofText id) = true) :
    ∃ sent, classifier.Poses current path question id sent := by
  obtain ⟨url, read, usable, rfl⟩ := leads
  let headers :=
    Trace.write (Http.Headers.ofTexts [("content-type", "application/json")]) current (some id)
  have address := Http.Client.withCredentials_fst url headers
  have path : (Http.Client.withCredentials url headers).1.path = url.path := by
    rcases Http.Client.url_withCredentials url headers with same | same <;> rw [same]
  have kept {name : String} (accept : name ≠ "accept") (who : name ≠ Http.Client.authorizationField) :
      ((Http.Client.withCredentials url headers).2.setMissing "accept" (Bytes.ofText "*/*")).values
        name = headers.values name := by
    rw [Http.Headers.values_setMissing_of_ne _ _ accept,
      Http.Client.values_withCredentials url headers who]
  refine ⟨⟨"POST", (Http.Client.withCredentials url headers).1,
    (Http.Client.withCredentials url headers).2.setMissing "accept" (Bytes.ofText "*/*"),
    Question.document ⟨question⟩⟩, ?_, rfl, congrArg Http.Url.pathText path, rfl, ?_, ?_⟩
  · rw [request?, Http.Client.request?, read, Option.bind_some]
    simp only
    rw [if_pos (address ▸ usable)]
  · exact (kept (by decide) (by decide)).trans (Trace.values_write_requestId _ current legal)
  · refine (kept (by decide) (by decide)).trans ?_
    rw [Trace.values_write_of_ne _ _ _ (by decide) (by decide) (by decide)]
    rfl

variable {σ : Type}

/-- If the first answer asks for nothing more, it is the last, and one request is sent. -/
theorem answer_of_last {classifier : Classifier} {network : Http.Network σ}
    {current : Option Trace.SpanContext} {question : String} {id : Option String}
    {request : Http.Outbound} {received : Http.Received} {state later : σ}
    (known : classifier.request? current question id = some request)
    (answered : network.exchange request state = (.answered received, later))
    (asksNothing : Http.Client.next? request received = none) (before : List Http.Outbound) :
    let outcome := (classifier.responder network.recording current).answer question id (state, before)
    outcome.state = (later, before ++ [request]) ∧
      outcome.result = interpret (.ok ⟨received, request.url⟩) := by
  intro outcome
  have recorded := Http.Client.exchange_recording network request answered before
  have posted : classifier.post network.recording current question id (state, before) = _ :=
    (Http.Client.send_of_request known _ _).trans
      (Http.Client.follow_of_last _ recorded asksNothing)
  exact ⟨congrArg Http.Fetched.state posted,
    congrArg (fun fetched : Http.Fetched _ => interpret fetched.result) posted⟩

/-- Only a redirecting status asks for another request. -/
theorem next?_eq_none (request : Http.Outbound) {received : Http.Received}
    (stays : received.status ∉ [301, 302, 303, 307, 308]) :
    Http.Client.next? request received = none := by
  rw [Http.Client.next?_eq_none_iff]
  exact fun redirects => stays redirects.1

/-- What a gateway behind another makes of what its responder gave: a fault is known by its status. -/
def relayed : Except ResponderFault String → Except ResponderFault String
  | .ok answer => .ok answer
  | .error fault => .error (.unsuccessful (Gateway.faultStatus fault))

/-- The reply of a gateway is taken for what its responder gave. -/
theorem interpret_answerTo (result : Except ResponderFault String) {received : Http.Received}
    {url : Http.Url} (status : received.status = (Handler.answerTo result).status)
    (complete : received.complete = true) (body : received.body = (Handler.answerTo result).body) :
    interpret (.ok ⟨received, url⟩) = relayed result := by
  cases result with
  | ok answer =>
    have success : received.status.isSuccess = true := by
      rw [status]
      rfl
    simp only [interpret, success, if_true, relayed]
    rw [answerIn_eq_ok_iff]
    exact ⟨complete, body ▸ Answer.decode_document ⟨answer⟩⟩
  | error fault =>
    have told := (Gateway.answerTo_error fault).1
    rw [← status] at told
    have failure : received.status.isSuccess = false := by
      rw [told]
      cases fault <;> rfl
    simp only [interpret, failure, Bool.false_eq_true, if_false, relayed]
    rw [told]

end Classifier

/-- The network on which a gateway answers every request. -/
def Gateway.network (gateway : Gateway) (around : Surroundings τ) (connection : Http.Connection) :
    Http.Network (World τ) where
  exchange outbound world :=
    let served := (gateway.service (connection.deliver outbound)).run around world
    (.answered (connection.bring served.1), served.2)

/-- A gateway behind another. -/
structure Chain (τ : Type) where
  inner : Gateway
  /-- The responder behind the inner gateway, and the source of its ids. -/
  around : Surroundings τ
  connection : Http.Connection
  /-- How the outer gateway asks the inner one. -/
  classifier : Classifier
  leads : classifier.LeadsTo "/predict"
  /-- The span that is current when the outer gateway asks. -/
  current : Option Trace.SpanContext
  outer : Gateway
  ids : Nat → Uuid

namespace Chain

variable (chain : Chain τ)

/-- The world of the inner gateway, and the requests that were sent to it. -/
abbrev Inside (τ : Type) : Type := World τ × List Http.Outbound

/-- What surrounds the outer gateway: the inner one as its responder. -/
def surroundings : Surroundings (Inside τ) where
  responder :=
    chain.classifier.responder (chain.inner.network chain.around chain.connection).recording
      chain.current
  ids := chain.ids

/-- A request to the outer gateway is served. -/
def serveOuter (world : World (Inside τ)) (request : Http.Request) :
    Http.Response × World (Inside τ) :=
  (chain.outer.service request).run chain.surroundings world

/-- What was sent to the inner gateway is served. -/
def serveInner (world : World τ) (sent : Http.Outbound) : Http.Response × World τ :=
  (chain.inner.service (chain.connection.deliver sent)).run chain.around world

/-- The calls of the responder while the inner gateway serves what was sent to it. -/
def callsInside (world : World τ) (sent : Http.Outbound) : List (Notice τ) :=
  ((chain.inner.service (chain.connection.deliver sent)).notices chain.around world).filter
    Notice.callsResponder

/-- The response brings this answer. -/
def Replies (response : Http.Response) (answer : String) : Prop :=
  response.status = 200 ∧ Json.Holds response.body [("answer", answer)]

/-- The id under which the outer gateway serves a request. -/
def outerId (world : World (Inside τ)) (request : Http.Request) : String :=
  Layer.idIn chain.surroundings world request.headers

/-- The id under which the inner gateway serves what was sent to it. -/
def innerId (world : World τ) (sent : Http.Outbound) : String :=
  Layer.idIn chain.around world (chain.connection.deliver sent).headers

/-- What the responder gives for a question that was sent to the inner gateway. -/
def gives (world : World τ) (message : String) (sent : Http.Outbound) : Outcome τ String :=
  chain.around.responder.answer message (some (chain.innerId world sent)) world.responder

/-- A question passes through the chain: what was sent for it is all that was sent, and all that its
responder was asked. -/
structure Passes (world : World (Inside τ)) (request : Http.Request) (message : String)
    (sent : Http.Outbound) : Prop where
  /-- One request is sent to the inner gateway, which serves it. -/
  once : (chain.serveOuter world request).2.responder =
    ((chain.serveInner world.responder.1 sent).2, world.responder.2 ++ [sent])
  asked : chain.callsInside world.responder.1 sent =
    [.asked message (some (chain.innerId world.responder.1 sent))
      (chain.gives world.responder.1 message sent)]
  sameId : Http.trimmed (Bytes.ofText (chain.outerId world request)) ≠ [] →
    Bytes.ofText (chain.innerId world.responder.1 sent) =
      Http.trimmed (Bytes.ofText (chain.outerId world request))
  newId : Http.trimmed (Bytes.ofText (chain.outerId world request)) = [] →
    chain.innerId world.responder.1 sent = (chain.around.ids world.responder.1.drawn).text
  stampedOutside : (chain.serveOuter world request).1.headers.values Trace.requestIdField =
    [Bytes.ofText (chain.outerId world request)]
  stampedInside : (chain.serveInner world.responder.1 sent).1.headers.values Trace.requestIdField =
    [Bytes.ofText (chain.innerId world.responder.1 sent)]
  repliesOutside : ∀ answer, Replies (chain.serveOuter world request).1 answer ↔
    (chain.gives world.responder.1 message sent).result = .ok answer
  repliesInside : ∀ answer, Replies (chain.serveInner world.responder.1 sent).1 answer ↔
    (chain.gives world.responder.1 message sent).result = .ok answer
  failed : ∀ fault, (chain.gives world.responder.1 message sent).result = .error fault →
    (chain.serveOuter world request).1.status = 502

section Inside

open Classifier (Poses)

variable {message id : String} {sent : Http.Outbound}

/-- A question that is posed to the inner gateway arrives there as it was posed. -/
theorem arrives (h : Poses chain.classifier chain.current "/predict" message id sent)
    (fits : (Question.document ⟨message⟩).length ≤ 2 * 1024 * 1024) :
    Gateway.PostsQuestion (chain.connection.deliver sent) ∧
      Gateway.Carries (chain.connection.deliver sent) message := by
  have named : Http.Url.pathText sent.url.path ≠ "" := by
    rw [h.path]
    decide
  have typed : (chain.connection.deliver sent).headers.values "content-type" =
      Http.Headers.values (Http.Headers.ofTexts [("content-type", "application/json")])
        "content-type" := by
    rw [chain.connection.values_deliver sent "content-type" (by decide), h.type]
    decide
  obtain ⟨rest, read, _⟩ := Json.Reader.read_of_decode (Question.decode_document ⟨message⟩)
  refine ⟨⟨?_, ?_⟩, ?_, ?_, ?_⟩
  · rw [chain.connection.method_deliver, h.method]
  · rw [chain.connection.path_deliver sent named, h.path]
  · rw [Http.MediaType.announcesJson_congr typed]
    decide
  · rwa [chain.connection.body_deliver, h.body]
  · rw [chain.connection.body_deliver, h.body]
    exact Json.Reader.decodeFront_eq_ok_iff.mpr ⟨rest, read⟩

/-- The id arrives without the spaces and tabs around it, or not at all. -/
theorem innerId_of_poses (h : Poses chain.classifier chain.current "/predict" message id sent)
    (visible : (Bytes.ofText id).all Http.isVisible = true) (world : World τ) :
    (Http.trimmed (Bytes.ofText id) ≠ [] →
        Bytes.ofText (chain.innerId world sent) = Http.trimmed (Bytes.ofText id)) ∧
      (Http.trimmed (Bytes.ofText id) = [] →
        chain.innerId world sent = (chain.around.ids world.drawn).text) := by
  have first : (chain.connection.deliver sent).headers.get? Trace.requestIdField =
      some (Http.trimmed (Bytes.ofText id)) := by
    rw [Http.Headers.get?, chain.connection.values_deliver sent _ (by decide), h.carried]
    rfl
  constructor
  · intro notEmpty
    exact Layer.ofText_idIn chain.around world ⟨first, notEmpty, Http.visible_trimmed visible⟩
  · intro empty
    refine Layer.idIn_of_brings_none chain.around world fun value brings => brings.notEmpty ?_
    rw [← Option.some_inj.mp (first.symm.trans brings.first)]
    exact empty

/-- The inner gateway answers what it is posed with what its responder gives. -/
theorem serveInner_of_poses (h : Poses chain.classifier chain.current "/predict" message id sent)
    (fits : (Question.document ⟨message⟩).length ≤ 2 * 1024 * 1024) (world : World τ) :
    (chain.serveInner world sent).1 =
      Layer.stamped (chain.innerId world sent)
        (Layer.secure (chain.connection.deliver sent).target.path
          (Endpoint.measured (Handler.answerTo (chain.gives world message sent).result))) := by
  obtain ⟨posts, carries⟩ := chain.arrives h fits
  exact Gateway.run_of_ok chain.inner chain.around world posts
    ((Gateway.carries_iff _ message).mp carries) rfl

/-- What the responder gave is answered with a body and without a redirection. -/
theorem status_answerTo (result : Except ResponderFault String) :
    (Handler.answerTo result).status ∉ [301, 302, 303, 307, 308] ∧
      Http.mayHaveBody (Handler.answerTo result).status = true := by
  rcases result with fault | answer
  · rw [(Gateway.answerTo_error fault).1]
    cases fault <;> exact ⟨by simp [Gateway.faultStatus], rfl⟩
  · exact ⟨by simp [Handler.answerTo, Http.Response.json, Http.Response.typed], rfl⟩

/-- The outer gateway is answered what the responder gives, and sends one request for it. -/
theorem answer_of_poses (h : Poses chain.classifier chain.current "/predict" message id sent)
    (fits : (Question.document ⟨message⟩).length ≤ 2 * 1024 * 1024) (world : Inside τ) :
    let answered := chain.surroundings.responder.answer message (some id) world
    answered.state = ((chain.serveInner world.1 sent).2, world.2 ++ [sent]) ∧
      answered.result = Classifier.relayed (chain.gives world.1 message sent).result := by
  intro answered
  have inside := chain.serveInner_of_poses h fits world.1
  let response := (chain.serveInner world.1 sent).1
  have status : response.status =
      (Handler.answerTo (chain.gives world.1 message sent).result).status := by
    change (chain.serveInner world.1 sent).1.status = _
    rw [inside]
    rfl
  obtain ⟨stays, bodied⟩ := status_answerTo (chain.gives world.1 message sent).result
  rw [← status] at stays bodied
  obtain ⟨complete, came⟩ := chain.connection.body_bring response bodied
  have body : (chain.connection.bring response).body =
      (Handler.answerTo (chain.gives world.1 message sent).result).body := by
    rw [came]
    change (chain.serveInner world.1 sent).1.body = _
    rw [inside]
    rfl
  obtain ⟨left, said⟩ := Classifier.answer_of_last h.known
    (show (chain.inner.network chain.around chain.connection).exchange sent world.1 =
      (.answered (chain.connection.bring response), (chain.serveInner world.1 sent).2) from rfl)
    (Classifier.next?_eq_none sent ((chain.connection.status_bring response).symm ▸ stays)) world.2
  refine ⟨left, said.trans ?_⟩
  exact Classifier.interpret_answerTo _ ((chain.connection.status_bring response).trans status)
    complete body

end Inside

/-- A response replies what the responder gave, whatever fields are added to it. -/
theorem replies_answerTo (result : Except ResponderFault String) (id path answer : String) :
    Replies (Layer.stamped id (Layer.secure path (Endpoint.measured (Handler.answerTo result)))) answer ↔
      result = .ok answer := by
  cases result with
  | ok given =>
    have holds : Json.Holds (Answer.document ⟨given⟩) [("answer", given)] := Json.decode_writeObject _
    constructor
    · rintro ⟨_, other⟩
      have same := holds.symm.trans other
      simp only [Except.ok.injEq, Json.Value.object.injEq, List.map_cons, List.map_nil,
        List.cons.injEq, Json.asValue, Prod.mk.injEq, Json.Value.text.injEq] at same
      rw [same.1.2]
    · rintro ⟨⟩
      exact ⟨rfl, holds⟩
  | error fault =>
    constructor
    · intro replies
      have refused := (Gateway.answerTo_error fault).1.symm.trans replies.1
      cases fault <;> simp [Gateway.faultStatus] at refused
    · rintro ⟨⟩

/-- What is posed for a posted question is all that is sent for it. -/
theorem passes_of_poses {world : World (Inside τ)} {request : Http.Request}
    (posts : Gateway.PostsQuestion request) {message : String}
    (carries : Gateway.Carries request message)
    (fits : (Question.document ⟨message⟩).length ≤ 2 * 1024 * 1024) {sent : Http.Outbound}
    (poses : chain.classifier.Poses chain.current "/predict" message (chain.outerId world request)
      sent) : chain.Passes world request message sent := by
  have visible := Layer.idIn_visible chain.surroundings world request.headers
  have inside := chain.serveInner_of_poses poses fits world.responder.1
  obtain ⟨insidePosts, insideCarries⟩ := chain.arrives poses fits
  obtain ⟨left, said⟩ := chain.answer_of_poses poses fits world.responder
  obtain ⟨sameId, newId⟩ := chain.innerId_of_poses poses visible world.responder.1
  have read := (Gateway.carries_iff request message).mp carries
  have outside : (chain.serveOuter world request).1 = _ :=
    Gateway.run_of_ok chain.outer chain.surroundings world posts read said
  refine ⟨?_, ?_, sameId, newId, ?_, ?_, ?_, ?_, ?_⟩
  · rw [serveOuter, Task.run_snd_eq_foldl, Notice.responder_foldl_applyTo,
      Gateway.calls_of_ok chain.outer chain.surroundings world posts read]
    exact left
  · exact Gateway.calls_of_ok chain.inner chain.around world.responder.1 insidePosts
      ((Gateway.carries_iff _ message).mp insideCarries)
  · rw [outside]
    exact Trace.values_setLegal_self _ _ (Http.isFieldValue_of_visible visible)
  · rw [inside]
    exact Trace.values_setLegal_self _ _
      (Http.isFieldValue_of_visible (Layer.idIn_visible chain.around world.responder.1 _))
  · intro answer
    rw [outside, replies_answerTo]
    cases (chain.gives world.responder.1 message sent).result <;> simp [Classifier.relayed]
  · intro answer
    rw [inside, replies_answerTo]
  · intro fault failed
    rw [outside, failed]
    rfl

/-- A posted question that fits passes through the chain. -/
theorem exists_passes (world : World (Inside τ)) {request : Http.Request}
    (posts : Gateway.PostsQuestion request) {message : String}
    (carries : Gateway.Carries request message)
    (fits : (Question.document ⟨message⟩).length ≤ 2 * 1024 * 1024) :
    ∃ sent, chain.Passes world request message sent := by
  have visible := Layer.idIn_visible chain.surroundings world request.headers
  obtain ⟨sent, poses⟩ := Classifier.exists_poses chain.leads chain.current message
    (Http.isFieldValue_of_visible visible)
  exact ⟨sent, chain.passes_of_poses posts carries fits poses⟩

/-- A gateway before the echoing one. -/
def beforeEchoing : Chain Unit where
  inner := Gateway.echoing
  around := Gateway.echoingSurroundings
  connection := .plain
  classifier := ⟨"http://[::1]/predict", none⟩
  leads := ⟨{ scheme := "http", host := some "[::1]", path := .names ["predict"] }, by decide, by decide,
    by decide⟩
  current := none
  outer := { Gateway.echoing with responder := "http" }
  ids _ := ⟨1⟩

/-- A posted question with this id. -/
def questionUnder (id : String) : Http.Request where
  method := "POST"
  target := { path := "/predict" }
  headers := Http.Headers.ofTexts [("content-type", "application/json"), ("x-request-id", id)]
  body := Question.document ⟨" hi "⟩

/-- A question carries its message under any id. -/
theorem carries_questionUnder (id : String) : Gateway.Carries (questionUnder id) " hi " := by
  have posted : Gateway.Carries (Gateway.posting (Question.document ⟨" hi "⟩)) " hi " :=
    Gateway.carries_posting (by decide)
  have typed : (questionUnder id).headers.values "content-type" =
      (Gateway.posting (Question.document ⟨" hi "⟩)).headers.values "content-type" := rfl
  exact ⟨(Http.MediaType.announcesJson_congr typed).trans posted.1, posted.2⟩

/-- A question under an id with spaces around it passes through two gateways. -/
theorem exists_passes_beforeEchoing :
    Gateway.PostsQuestion (questionUnder " a ") ∧ Gateway.Carries (questionUnder " a ") " hi " ∧
      (Question.document ⟨" hi "⟩).length ≤ 2 * 1024 * 1024 ∧
      ∃ sent, beforeEchoing.Passes ⟨(⟨(), {}, [], 0⟩, []), {}, [], 0⟩ (questionUnder " a ") " hi "
        sent := by
  have fits : (Question.document ⟨" hi "⟩).length ≤ 2 * 1024 * 1024 := by decide
  exact ⟨⟨rfl, rfl⟩, carries_questionUnder " a ", fits,
    beforeEchoing.exists_passes _ ⟨rfl, rfl⟩ (carries_questionUnder " a ") fits⟩

/-- Both gateways answer under the same id, apart from spaces and tabs around it. -/
def SharesId (world : World (Inside τ)) (request : Http.Request) (sent : Http.Outbound) : Prop :=
  ((chain.serveOuter world request).1.headers.values Trace.requestIdField).map Http.trimmed =
    ((chain.serveInner world.responder.1 sent).1.headers.values Trace.requestIdField).map Http.trimmed

/-- An id of nothing but a space does not arrive, and the inner gateway answers under a new one. -/
theorem not_sharesId_of_blank :
    let world : World (Inside Unit) := ⟨(⟨(), {}, [], 0⟩, []), {}, [], 0⟩
    Gateway.PostsQuestion (questionUnder " ") ∧ Gateway.Carries (questionUnder " ") " hi " ∧
      (Question.document ⟨" hi "⟩).length ≤ 2 * 1024 * 1024 ∧
      ¬ ∃ sent, (beforeEchoing.serveOuter world (questionUnder " ")).2.responder.2 = [sent] ∧
        beforeEchoing.SharesId world (questionUnder " ") sent := by
  intro world
  have posts : Gateway.PostsQuestion (questionUnder " ") := ⟨rfl, rfl⟩
  have carries := carries_questionUnder " "
  have fits : (Question.document ⟨" hi "⟩).length ≤ 2 * 1024 * 1024 := by decide
  refine ⟨posts, carries, fits, ?_⟩
  rintro ⟨sent, alone, shares⟩
  have visible := Layer.idIn_visible beforeEchoing.surroundings world (questionUnder " ").headers
  obtain ⟨posed, poses⟩ := Classifier.exists_poses beforeEchoing.leads beforeEchoing.current " hi "
    (Http.isFieldValue_of_visible visible)
  have passes := beforeEchoing.passes_of_poses posts carries fits poses
  have outerId : beforeEchoing.outerId world (questionUnder " ") = " " := by decide
  rw [passes.once] at alone
  cases alone
  rw [SharesId, passes.stampedOutside, passes.stampedInside, outerId,
    passes.newId (by rw [outerId]; decide)] at shares
  revert shares
  decide

end Chain

end ChatGateway
