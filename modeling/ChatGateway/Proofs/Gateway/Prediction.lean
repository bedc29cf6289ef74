import ChatGateway.Echo
import ChatGateway.Proofs.Envelope
import ChatGateway.Proofs.Gateway.Layers
import ChatGateway.Proofs.Json.Written
import Mathlib.Logic.ExistsUnique

/-!
# Posting a question

A posted question ends in one of three ways. It is refused, and then nobody is asked and no
measurement of questions is taken. Or the responder is asked exactly once, with the message as
it came and the id of the request, and its answer or its fault becomes the answer.
-/

namespace ChatGateway

variable {σ : Type}

/-- The document is an object with just these members, all of them texts. -/
def Json.Holds (document : Bytes) (members : List (String × String)) : Prop :=
  Json.Value.reader.decode document = .ok (.object (members.map Json.asValue))

/-- What counts as announcing a document depends on the content type alone. -/
theorem Http.MediaType.announcesJson_congr {first second : Http.Headers}
    (h : first.values "content-type" = second.values "content-type") :
    announcesJson first = announcesJson second := by
  rw [announcesJson, announcesJson, Http.Headers.get?_congr h]

namespace Extract

variable {α : Type}

/-- A value is had exactly from an announced body of bounded length that starts with it. -/
theorem read_eq_ok_iff (reader : Json.Reader α) (request : Http.Request) (a : α) :
    read reader request = .ok a ↔
      Http.MediaType.announcesJson request.headers = true ∧ request.body.length ≤ bodyLimit ∧
        reader.decodeFront request.body = .ok a := by
  unfold read
  by_cases announced : Http.MediaType.announcesJson request.headers = true
  · by_cases long : bodyLimit < request.body.length
    · have notShort : ¬ request.body.length ≤ bodyLimit := Nat.not_le.mpr long
      simp [announced, long, notShort]
    · have short : request.body.length ≤ bodyLimit := Nat.not_lt.mp long
      rw [announced, Bool.not_true, if_neg Bool.false_ne_true, if_neg long]
      cases reader.decodeFront request.body with
      | error fault =>
        constructor
        · intro h
          cases h
        · intro given
          obtain ⟨_, _, h⟩ := given
          cases h
      | ok value =>
        constructor
        · intro h
          cases h
          exact ⟨rfl, short, rfl⟩
        · intro given
          obtain ⟨_, _, h⟩ := given
          cases h
          rfl
  · simp [announced]

/-- Reading looks at the content type and the body only. -/
theorem read_congr (reader : Json.Reader α) {first second : Http.Request}
    (hb : first.body = second.body)
    (hc : first.headers.values "content-type" = second.headers.values "content-type") :
    read reader first = read reader second := by
  rw [read, read, hb, Http.MediaType.announcesJson_congr hc]

end Extract

namespace Handler

variable (around : Surroundings σ) (world : World σ)

/-- What the outcome of a call of the responder is answered with. -/
def answerTo : Except ResponderFault String → Http.Response
  | .ok answer => .json 200 (Answer.document ⟨answer⟩)
  | .error fault => fault.failure.response

/-- A question is answered with what the reply of the responder says. -/
theorem run_answerWith_fst (responder : String) (question : Question) (outcome : Outcome σ String) :
    ((answerWith responder question (Task.replyOf outcome)).run around world).1 =
      answerTo outcome.result := by
  rw [answerWith, Task.run_logAll]
  cases h : outcome.result <;> simp only [Task.replyOf, h] <;> rfl

/-- Once the responder has answered it is not called again. -/
theorem calls_answerWith (responder : String) (question : Question) (outcome : Outcome σ String) :
    ((answerWith responder question (Task.replyOf outcome)).notices around world).filter
      Notice.callsResponder = [] := by
  rw [answerWith, Task.notices_logAll, List.filter_append, Notice.filter_callsResponder_logged]
  cases h : outcome.result <;> simp only [Task.replyOf, h] <;> rfl

/-- A request without a question is answered with a failure, which is logged. -/
theorem predict_of_error {responder : String} {request : Http.Request} {refusal : Extract.Refusal}
    (h : Extract.read Question.reader request = .error refusal) :
    predict responder request = fail (refusal.failure request.body) := by
  rw [predict, h]

/-- A request with a question asks the responder. -/
theorem predict_of_ok {responder : String} {request : Http.Request} {question : Question}
    (h : Extract.read Question.reader request = .ok question) :
    predict responder request =
      .ask question.message request.id (answerWith responder question) := by
  rw [predict, h]

end Handler

namespace Gateway

/-- A request that posts to the address of questions. -/
structure PostsQuestion (request : Http.Request) : Prop where
  method : request.method = "POST"
  path : request.target.path = "/predict"

/-- The request as the handler of questions sees it. -/
def routed (id : String) (request : Http.Request) : Http.Request :=
  { Layer.identified id request with route := Route.predict.template? }

variable {request : Http.Request}

/-- A request that posts a question does so under any id. -/
theorem PostsQuestion.identified (posts : PostsQuestion request) (id : String) :
    PostsQuestion (Layer.identified id request) := ⟨posts.method, posts.path⟩

/-- A posted question is counted and reaches the handler of questions. -/
theorem dispatch_of_posts (gateway : Gateway) (posts : PostsQuestion request) :
    gateway.dispatch request =
      Layer.count (fun request => (Handler.predict gateway.responder request).map Endpoint.measured)
        { request with route := Route.predict.template? } := by
  have route : Route.ofPath? request.target.path = some .predict := by
    rw [posts.path]
    decide
  simp only [dispatch, route, Layer.count, Endpoint.serve, posts.method]
  rfl

/-- The identified request holds the same question. -/
theorem read_routed (id : String) (request : Http.Request) :
    Extract.read Question.reader (routed id request) = Extract.read Question.reader request :=
  Extract.read_congr Question.reader rfl
    (Trace.values_setLegal_of_ne request.headers id (by decide))

variable (gateway : Gateway) (around : Surroundings σ) (world : World σ)

/-- The answer to a posted question is that of the handler, with fields added. -/
theorem run_posted_fst (posts : PostsQuestion request) :
    let id := Layer.idIn around world request.headers
    ((gateway.service request).run around world).1 =
      Layer.stamped id (Layer.secure request.target.path (Endpoint.measured
        ((Handler.predict gateway.responder (routed id request)).run around
          (Layer.idWorld around world request.headers)).1)) := by
  intro id
  rw [service_eq_layered, run_layered_fst, dispatch_of_posts gateway (posts.identified id),
    Layer.run_count_fst, Task.run_map]
  rfl

/-- The calls of the responder are those of the handler. -/
theorem calls_posted (posts : PostsQuestion request) :
    let id := Layer.idIn around world request.headers
    ((gateway.service request).notices around world).filter Notice.callsResponder =
      ((Handler.predict gateway.responder (routed id request)).notices around
        (Layer.idWorld around world request.headers)).filter Notice.callsResponder := by
  intro id
  rw [service_eq_layered, Notice.ofServices_callsResponder.steady.filter_layered,
    dispatch_of_posts gateway (posts.identified id),
    Notice.ofServices_callsResponder.filter_count, Task.notices_map]
  rfl

/-- A request that is refused is answered and counted, and that is all that is noticed of it. -/
theorem registry_refused (posts : PostsQuestion request) {refusal : Extract.Refusal}
    (h : Extract.read Question.reader request = .error refusal) :
    ((gateway.service request).run around world).2.measurements.registry =
      world.measurements.registry := by
  have draws : ∀ notice ∈ Layer.idNotices around world request.headers,
      notice.measuresQuestion = false := by
    unfold Layer.idNotices
    split <;> simp [Notice.measuresQuestion]
  have failure (status : Http.Status) : ∀ notice ∈ (Layer.failureNotices status : List (Notice σ)),
      notice.measuresQuestion = false := by
    unfold Layer.failureNotices
    split <;> simp [Notice.measuresQuestion]
  rw [Task.run_snd_eq_foldl]
  apply Notice.registry_foldl_applyTo
  rw [service_eq_layered, notices_layered, List.forall_mem_append]
  refine ⟨draws, ?_⟩
  rw [List.forall_mem_map]
  intro notice hnotice
  rw [Notice.measuresQuestion_within]
  rcases List.mem_append.mp hnotice with hinner | hfailed
  · have refused := (read_routed (Layer.idIn around world request.headers) request).trans h
    rw [dispatch_of_posts gateway (posts.identified _), Layer.notices_count, Task.notices_map] at hinner
    change notice ∈ (Handler.predict gateway.responder (routed _ request)).notices around _ ++ _ at hinner
    rw [Handler.predict_of_error refused] at hinner
    simp only [Handler.fail, Task.notices, List.mem_append, List.mem_cons, List.not_mem_nil,
      or_false] at hinner
    rcases hinner with rfl | rfl | rfl <;> rfl
  · exact failure _ notice hfailed

/-- Choosing an id does not touch the responder. -/
theorem responder_idWorld (headers : Http.Headers) :
    (Layer.idWorld around world headers).responder = world.responder := by
  unfold Layer.idWorld Layer.idNotices
  split <;> rfl

/-- The responder is called once for a question, with its message and the id of the request. -/
theorem calls_of_ok (posts : PostsQuestion request) {question : Question}
    (h : Extract.read Question.reader request = .ok question) :
    let id := Layer.idIn around world request.headers
    ((gateway.service request).notices around world).filter Notice.callsResponder =
      [.asked question.message (some id)
        (around.responder.answer question.message (some id) world.responder)] := by
  intro id
  rw [calls_posted gateway around world posts,
    Handler.predict_of_ok ((read_routed id request).trans h)]
  simp only [Task.notices, responder_idWorld]
  rw [List.filter_cons_of_pos rfl, Handler.calls_answerWith]
  rfl

/-- What the responder says of a question becomes the answer, with fields added. -/
theorem run_of_ok (posts : PostsQuestion request) {question : Question}
    (h : Extract.read Question.reader request = .ok question) {said : Except ResponderFault String}
    (hsaid : (around.responder.answer question.message
      (some (Layer.idIn around world request.headers)) world.responder).result = said) :
    ((gateway.service request).run around world).1 =
      Layer.stamped (Layer.idIn around world request.headers)
        (Layer.secure request.target.path (Endpoint.measured (Handler.answerTo said))) := by
  rw [run_posted_fst gateway around world posts,
    Handler.predict_of_ok ((read_routed (Layer.idIn around world request.headers) request).trans h)]
  simp only [Task.run, responder_idWorld, Handler.run_answerWith_fst, ← hsaid]
  rfl

/-- Nobody is asked about a request that is refused. -/
theorem calls_of_error (posts : PostsQuestion request) {refusal : Extract.Refusal}
    (h : Extract.read Question.reader request = .error refusal) :
    ((gateway.service request).notices around world).filter Notice.callsResponder = [] := by
  rw [calls_posted gateway around world posts,
    Handler.predict_of_error ((read_routed _ request).trans h)]
  rfl

/-- A request that is refused is answered with the failure of the refusal, with fields added. -/
theorem run_of_error (posts : PostsQuestion request) {refusal : Extract.Refusal}
    (h : Extract.read Question.reader request = .error refusal) :
    ((gateway.service request).run around world).1 =
      Layer.stamped (Layer.idIn around world request.headers)
        (Layer.secure request.target.path
          (Endpoint.measured (refusal.failure request.body).response)) := by
  rw [run_posted_fst gateway around world posts,
    Handler.predict_of_error ((read_routed _ request).trans h)]
  rfl

/-- The request carries a question with this message: it is announced as a document, is not too
long, and starts with the question. -/
def Carries (request : Http.Request) (message : String) : Prop :=
  Http.MediaType.announcesJson request.headers = true ∧
    request.body.length ≤ 2 * 1024 * 1024 ∧
    Question.reader.decodeFront request.body = .ok ⟨message⟩

/-- A request carries a message exactly if the body is read as a question with it. -/
theorem carries_iff (request : Http.Request) (message : String) :
    Carries request message ↔ Extract.read Question.reader request = .ok ⟨message⟩ :=
  (Extract.read_eq_ok_iff Question.reader request ⟨message⟩).symm

/-- The status that a fault of the responder is answered with. -/
def faultStatus : ResponderFault → Http.Status
  | .notConfigured _ => 500
  | _ => 502

/-- What a client is told of a fault of the responder. -/
def faultMembers (fault : ResponderFault) : List (String × String) :=
  match fault with
  | .notConfigured _ => [("error", "Internal server error"), ("details", fault.message)]
  | _ => [("error", "Bad Gateway: " ++ fault.message)]

/-- How a posted question ends. -/
inductive Ending where
  | refused
  | answered (message answer : String)
  | failed (message : String) (fault : ResponderFault)

/-- What an ending says of a request, of its answer, of the calls of the responder, and of the
registry of questions. -/
def Ending.Describes (gateway : Gateway) (around : Surroundings σ) (world : World σ)
    (request : Http.Request) (ending : Ending) : Prop :=
  let (response, after) := (gateway.service request).run around world
  let calls := ((gateway.service request).notices around world).filter Notice.callsResponder
  let id := Layer.idIn around world request.headers
  match ending with
  | refused =>
    (∀ message, ¬ Carries request message) ∧ response.status = 400 ∧
      (∃ text, Json.Holds response.body [("error", "Json parse error: " ++ text)]) ∧
      calls = [] ∧ after.measurements.registry = world.measurements.registry
  | answered message answer =>
    let outcome := around.responder.answer message (some id) world.responder
    Carries request message ∧ outcome.result = .ok answer ∧
      calls = [.asked message (some id) outcome] ∧ response.status = 200 ∧
      Json.Holds response.body [("answer", answer)]
  | failed message fault =>
    let outcome := around.responder.answer message (some id) world.responder
    Carries request message ∧ outcome.result = .error fault ∧
      calls = [.asked message (some id) outcome] ∧ response.status = faultStatus fault ∧
      Json.Holds response.body (faultMembers fault)

/-- A fault is answered with its status, and its members are all that the answer says. -/
theorem answerTo_error (fault : ResponderFault) :
    (Handler.answerTo (.error fault)).status = faultStatus fault ∧
      Json.Holds (Handler.answerTo (.error fault)).body (faultMembers fault) := by
  cases fault <;> exact ⟨rfl, Json.decode_writeObject _⟩

/-- A response tells what the responder gave: an answer is the only member of a response with status
200, and a fault comes with its status and its members. -/
def Wraps (response : Http.Response) : Except ResponderFault String → Prop
  | .ok answer => response.status = 200 ∧ Json.Holds response.body [("answer", answer)]
  | .error fault => response.status = faultStatus fault ∧ Json.Holds response.body (faultMembers fault)

/-- What the responder gave is told by the response to it. -/
theorem wraps_answerTo (result : Except ResponderFault String) :
    Wraps (Handler.answerTo result) result := by
  cases result with
  | ok answer => exact ⟨rfl, Json.decode_writeObject _⟩
  | error fault => exact answerTo_error fault

/-- What a response tells depends on its status and its body alone. -/
theorem Wraps.congr {response other : Http.Response} {result : Except ResponderFault String}
    (h : Wraps response result) (status : other.status = response.status)
    (body : other.body = response.body) : Wraps other result := by
  cases result with
  | ok answer => exact ⟨status.trans h.1, body ▸ h.2⟩
  | error fault => exact ⟨status.trans h.1, body ▸ h.2⟩

/-- A question that is read is answered with what the responder gave. -/
theorem wraps_of_read (posts : PostsQuestion request) {question : Question}
    (h : Extract.read Question.reader request = .ok question) {said : Except ResponderFault String}
    (hsaid : (around.responder.answer question.message
      (some (Layer.idIn around world request.headers)) world.responder).result = said) :
    Wraps ((gateway.service request).run around world).1 said := by
  rw [run_of_ok gateway around world posts h hsaid]
  exact (wraps_answerTo said).congr rfl rfl

/-- A request carries at most one message. -/
theorem Carries.unique {message other : String} (h : Carries request message)
    (hother : Carries request other) : message = other := by
  rw [carries_iff] at h hother
  cases h.symm.trans hother
  rfl

namespace Ending

variable {gateway around world}

/-- A request that is not read ends as refused. -/
theorem describes_refused (posts : PostsQuestion request) {refusal : Extract.Refusal}
    (h : Extract.read Question.reader request = .error refusal) :
    refused.Describes gateway around world request := by
  have response := run_of_error gateway around world posts h
  refine ⟨?_, ?_, ⟨refusal.message request.body, ?_⟩,
    calls_of_error gateway around world posts h, registry_refused gateway around world posts h⟩
  · intro message carries
    rw [carries_iff, h] at carries
    contradiction
  · rw [response]
    rfl
  · rw [response]
    exact Json.decode_writeObject _

/-- A request whose question the responder answers ends as answered. -/
theorem describes_answered (posts : PostsQuestion request) {question : Question}
    (h : Extract.read Question.reader request = .ok question) {answer : String}
    (said : (around.responder.answer question.message
      (some (Layer.idIn around world request.headers)) world.responder).result = .ok answer) :
    (answered question.message answer).Describes gateway around world request := by
  obtain ⟨status, body⟩ := wraps_of_read gateway around world posts h said
  exact ⟨(carries_iff request question.message).mpr h, said,
    calls_of_ok gateway around world posts h, status, body⟩

/-- A request whose question the responder fails on ends as failed. -/
theorem describes_failed (posts : PostsQuestion request) {question : Question}
    (h : Extract.read Question.reader request = .ok question) {fault : ResponderFault}
    (said : (around.responder.answer question.message
      (some (Layer.idIn around world request.headers)) world.responder).result = .error fault) :
    (failed question.message fault).Describes gateway around world request := by
  obtain ⟨status, body⟩ := wraps_of_read gateway around world posts h said
  exact ⟨(carries_iff request question.message).mpr h, said,
    calls_of_ok gateway around world posts h, status, body⟩

/-- No two endings describe the same request. -/
theorem Describes.unique {first second : Ending} (h : first.Describes gateway around world request)
    (hsecond : second.Describes gateway around world request) : first = second := by
  cases first with
  | refused =>
    cases second with
    | refused => rfl
    | answered message answer => exact absurd hsecond.1 (h.1 message)
    | failed message fault => exact absurd hsecond.1 (h.1 message)
  | answered message answer =>
    cases second with
    | refused => exact absurd h.1 (hsecond.1 message)
    | answered other answer =>
      obtain rfl := h.1.unique hsecond.1
      cases h.2.1.symm.trans hsecond.2.1
      rfl
    | failed other fault =>
      obtain rfl := h.1.unique hsecond.1
      cases h.2.1.symm.trans hsecond.2.1
  | failed message fault =>
    cases second with
    | refused => exact absurd h.1 (hsecond.1 message)
    | answered other answer =>
      obtain rfl := h.1.unique hsecond.1
      cases h.2.1.symm.trans hsecond.2.1
    | failed other fault =>
      obtain rfl := h.1.unique hsecond.1
      cases h.2.1.symm.trans hsecond.2.1
      rfl

end Ending

/-- A posted question is refused, answered or failed, and only one of these. -/
theorem existsUnique_ending (posts : PostsQuestion request) :
    ∃! ending : Ending, ending.Describes gateway around world request := by
  have describes : ∃ ending : Ending, ending.Describes gateway around world request := by
    cases h : Extract.read Question.reader request with
    | error refusal => exact ⟨_, Ending.describes_refused posts h⟩
    | ok question =>
      cases said : (around.responder.answer question.message
          (some (Layer.idIn around world request.headers)) world.responder).result with
      | ok answer => exact ⟨_, Ending.describes_answered posts h said⟩
      | error fault => exact ⟨_, Ending.describes_failed posts h said⟩
  obtain ⟨ending, h⟩ := describes
  exact ⟨ending, h, fun other hother => hother.unique h⟩

/-- A gateway without files, for the echoing responder. -/
def echoing : Gateway where
  responder := "echo"
  assets := { volume := ⟨⟨[]⟩, []⟩, directory := "/", changed := fun _ => 0 }

/-- The echoing responder, and one identifier for all. -/
def echoingSurroundings : Surroundings Unit := ⟨Echo.responder Unit, fun _ => ⟨0⟩⟩

/-- A request that posts a body as a document. -/
def posting (body : Bytes) : Http.Request where
  method := "POST"
  target := { path := "/predict" }
  headers := Http.Headers.ofTexts [("content-type", "application/json")]
  body

/-- A request that posts the document of a question carries its message. -/
theorem carries_posting {question : Question} (short : question.document.length ≤ 2 * 1024 * 1024) :
    Carries (posting question.document) question.message := by
  obtain ⟨rest, read, _⟩ := Json.Reader.read_of_decode (Question.decode_document question)
  have announced : Http.MediaType.announcesJson
      (Http.Headers.ofTexts [("content-type", "application/json")]) = true := by decide
  exact ⟨announced, short, Json.Reader.decodeFront_eq_ok_iff.mpr ⟨rest, read⟩⟩

/-- A posted question ends in one way before the echoing responder: it is asked and answers. -/
theorem existsUnique_ending_of_question :
    (∃! ending : Ending, ending.Describes echoing echoingSurroundings { responder := () }
      (posting (Question.document ⟨" hi "⟩))) ∧
    (Ending.answered " hi " "You said: hi").Describes echoing echoingSurroundings { responder := () }
      (posting (Question.document ⟨" hi "⟩)) := by
  have carries : Carries (posting (Question.document ⟨" hi "⟩)) " hi " := carries_posting (by decide)
  have replies : Echo.reply " hi " = "You said: hi" := by decide
  refine ⟨existsUnique_ending _ _ _ ⟨rfl, rfl⟩, ?_⟩
  apply Ending.describes_answered
  case posts => exact ⟨rfl, rfl⟩
  case h => exact (carries_iff _ _).mp carries
  case said => exact congrArg Except.ok replies

end Gateway

end ChatGateway
