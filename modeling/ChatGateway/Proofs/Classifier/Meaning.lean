import ChatGateway.Proofs.Gateway.RequestId
import ChatGateway.Proofs.Http.LastAnswer

/-!
# What the classifier's answers mean

Whatever the network does, posting a question ends in one of four ways, and the last answer of the
classifier decides which: there is none, it is without success, it is a success that holds no
answer in full, or it holds one. Nothing is asked twice: what is sent are the requests along the
redirections that are followed, at most ten, and a last one.
-/

namespace ChatGateway.Classifier

variable {σ : Type}

/-- The request that posts a question, unless the address cannot be asked. -/
def request? (classifier : Classifier) (current : Option Trace.SpanContext) (question : String)
    (id : Option String) : Option Http.Outbound :=
  Http.Client.request? "POST" classifier.url
    (Trace.write (Http.Headers.ofTexts [("content-type", "application/json")]) current id)
    (Question.document ⟨question⟩)

/-- The last answer to a question, behind all redirections. -/
def LastAnswer (classifier : Classifier) (network : Http.Network σ)
    (current : Option Trace.SpanContext) (question : String) (id : Option String) (state : σ)
    (received : Http.Received) : Prop :=
  ∃ request, classifier.request? current question id = some request ∧
    Http.Client.Concludes network Http.Client.redirectLimit request state received

/-- The last answer, if there is one, decides the result. -/
structure Decides (last : Http.Received → Prop) (result : Except ResponderFault String) : Prop where
  unique : ∀ a b, last a → last b → a = b
  ok : ∀ answer, result = .ok answer ↔ ∃ received, last received ∧
    received.status.isSuccess = true ∧ received.complete = true ∧
    Answer.reader.decode received.body = .ok ⟨answer⟩
  unsuccessful : ∀ status, result = .error (.unsuccessful status) ↔ ∃ received, last received ∧
    received.status.isSuccess = false ∧ received.status = status
  network : (∃ text, result = .error (.network text)) ↔ ∀ received, ¬ last received
  invalidResponse : (∃ text, result = .error (.invalidResponse text)) ↔ ∃ received, last received ∧
    received.status.isSuccess = true ∧
    (received.complete = true → ∀ answer, Answer.reader.decode received.body ≠ .ok answer)

/-- A success holds an answer if all of it came and it can be read. -/
theorem answerIn_eq_ok_iff {received : Http.Received} {answer : String} :
    answerIn received = .ok answer ↔
      received.complete = true ∧ Answer.reader.decode received.body = .ok ⟨answer⟩ := by
  unfold answerIn
  cases received.complete with
  | false => simp
  | true =>
    rcases Answer.reader.decode received.body with _ | found
    · simp
    · cases found
      simp

/-- What is no answer is an invalid response. -/
theorem answerIn_eq_error {received : Http.Received} {fault : ResponderFault}
    (h : answerIn received = .error fault) :
    fault = .invalidResponse Http.FetchFault.unreadable.message := by
  unfold answerIn at h
  split at h
  · contradiction
  · cases h
    rfl

/-- The answer that a fetch brings decides what is made of it. -/
theorem decides_interpret {last : Http.Received → Prop} {fetched : Except Http.FetchFault Http.Final}
    (h : ∀ received, last received ↔ ∃ url, fetched = .ok ⟨received, url⟩) :
    Decides last (interpret fetched) := by
  cases fetched with
  | error fault =>
    have never (received : Http.Received) : ¬ last received := by simp [h]
    constructor <;> simp [interpret, never]
  | ok final =>
    have only (received : Http.Received) : last received ↔ received = final.received := by
      obtain ⟨answered, url⟩ := final
      simp [h, eq_comm]
    cases success : final.received.status.isSuccess with
    | false =>
      have refused : interpret (.ok final) = .error (.unsuccessful final.received.status) := by
        simp [interpret, success]
      rw [refused]
      constructor <;> simp [only, success]
    | true =>
      have accepted : interpret (.ok final) = answerIn final.received := by
        simp [interpret, success]
      rw [accepted]
      have answers (answer : String) := @answerIn_eq_ok_iff final.received answer
      cases holds : answerIn final.received with
      | ok answer =>
        rw [holds] at answers
        obtain ⟨complete, readable⟩ := (answers answer).mp rfl
        constructor <;> simp [only, success, complete, readable]
      | error fault =>
        rw [holds] at answers
        cases answerIn_eq_error holds
        refine ⟨?_, ?_, ?_, ?_, ?_⟩
        · simp [only]
        · simp [only, success, ← answers]
        · simp [only, success]
        · simp [only]
        · have unreadable (complete : final.received.complete = true) (answer : String) :
              Answer.reader.decode final.received.body ≠ .ok ⟨answer⟩ := fun readable =>
            nomatch (answers answer).mpr ⟨complete, readable⟩
          refine ⟨fun _ => ⟨final.received, (only _).mpr rfl, success, ?_⟩, fun _ => ⟨_, rfl⟩⟩
          exact fun complete ⟨answer⟩ => unreadable complete answer

variable (classifier : Classifier) (network : Http.Network σ) (current : Option Trace.SpanContext)
  (question : String) (id : Option String) (state : σ)

/-- A question brings exactly the last answer to it. -/
theorem lastAnswer_iff (received : Http.Received) :
    classifier.LastAnswer network current question id state received ↔
      ∃ url, (classifier.post network current question id state).result = .ok ⟨received, url⟩ := by
  rw [post, Http.Client.exists_result_send_eq_ok_iff]
  rfl

/-- The requests that a question leads to: none if the address cannot be asked, and otherwise one
for each of at most ten redirections that are followed, and a last one. -/
inductive Asks (classifier : Classifier) (network : Http.Network σ)
    (current : Option Trace.SpanContext) (question : String) (id : Option String) (state : σ) :
    List Http.Outbound → List Http.Outbound → Prop
  | nobody (unknown : classifier.request? current question id = none) :
    Asks classifier network current question id state [] []
  | along {request last : Http.Outbound} {followed : List Http.Outbound} {later : σ}
    (known : classifier.request? current question id = some request)
    (leads : Http.Client.Leads network request state followed last later) :
    Asks classifier network current question id state followed [last]

/-- Asking the classifier follows redirects at most ten times, and sends nothing but the requests on
that way. -/
theorem exists_asks :
    ∃ followed rest, Asks classifier network current question id state followed rest ∧
      followed.length ≤ 10 ∧
      (classifier.post network current question id state).sent = followed ++ rest := by
  unfold post
  cases known : classifier.request? current question id with
  | none =>
    obtain ⟨fault, unsent⟩ := Http.Client.send_of_none known network state
    rw [unsent]
    exact ⟨[], [], .nobody known, Nat.zero_le 10, rfl⟩
  | some request =>
    obtain ⟨followed, last, later, leads, within, sent⟩ :=
      Http.Client.exists_leads_send known network state
    exact ⟨followed, [last], .along known leads, within, sent⟩

/-- The last answer decides what the classifier is taken to say, and a network that records what it
is asked sees the requests along the redirections and at most one more. -/
theorem decides_answer (before : List Http.Outbound) :
    let answered := (classifier.responder network current).answer question id state
    let recorded := (classifier.responder network.recording current).answer question id (state, before)
    Decides (classifier.LastAnswer network current question id state) answered.result ∧
      recorded.result = answered.result ∧ recorded.state.1 = answered.state ∧
      ∃ followed rest, Asks classifier network current question id state followed rest ∧
        recorded.state.2 = before ++ (followed ++ rest) ∧
        followed.length ≤ 10 ∧ (followed ++ rest).length ≤ 1 + followed.length := by
  intro answered recorded
  have same := classifier.post_recording network current question id state before
  obtain ⟨followed, rest, asks, within, sent⟩ :=
    classifier.exists_asks network current question id state
  refine ⟨decides_interpret (classifier.lastAnswer_iff network current question id state), ?_, ?_,
    followed, rest, asks, ?_, within, ?_⟩
  · exact congrArg (fun fetched => interpret fetched.result) same
  · exact congrArg (fun fetched => fetched.state.1) same
  · rw [← sent]
    exact congrArg (fun fetched => fetched.state.2) same
  · cases asks with
    | nobody => exact Nat.zero_le _
    | along => simp [Nat.add_comm]

end ChatGateway.Classifier
