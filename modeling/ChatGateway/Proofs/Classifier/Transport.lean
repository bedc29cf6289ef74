import ChatGateway.Proofs.Classifier.Origin
import ChatGateway.Proofs.Gateway.Accounting

/-!
# Where the transport of a question fails

The transport of a question fails if, behind the redirections that are followed, no answer starts, or a
success starts to come and is cut off. The two are not told alike: the first is told and counted as a
fault of the network, but the second as an answer that cannot be read. So the faults of the network are
told apart from those of the answers exactly if no success is cut off.
-/

namespace ChatGateway

namespace Http.Client

variable {σ : Type} {network : Network σ} {request : Outbound} {state : σ} {left : Nat}

/-- Behind the redirections that are followed, no answer starts. -/
def BreaksOff (network : Network σ) (left : Nat) (request : Outbound) (state : σ) : Prop :=
  ∃ followed last later, Leads network request state followed last later ∧
    followed.length ≤ left ∧ (network.exchange last later).1 = .failed

/-- A fetch that breaks off tells which address did not answer. -/
theorem result_follow_of_breaksOff (h : BreaksOff network left request state) :
    ∃ url, (follow network left request state).result = .error (.unsent url) := by
  obtain ⟨followed, last, later, leads, within, failed⟩ := h
  rcases sent : network.exchange last later with ⟨exchange, after⟩
  rw [sent] at failed
  cases failed
  rw [follow_of_leads leads within, follow_of_failed _ sent]
  exact ⟨last.url, rfl⟩

end Http.Client

namespace Classifier

variable {σ : Type} (classifier : Classifier) (network : Http.Network σ)
  (current : Option Trace.SpanContext) (question : String) (id : Option String) (state : σ)

/-- What the classifier is taken to say to a question. -/
def said : Except ResponderFault String :=
  ((classifier.responder network current).answer question id state).result

/-- Nobody answers the question: the connection is refused, or closes, or times out before an answer. -/
def Unanswered : Prop :=
  ∃ request, classifier.request? current question id = some request ∧
    Http.Client.BreaksOff network Http.Client.redirectLimit request state

/-- The last answer is a success of which not all came. -/
def CutOff (received : Http.Received) : Prop :=
  classifier.LastAnswer network current question id state received ∧
    received.status.isSuccess = true ∧ received.complete = false

/-- The last answer is a success of which all came, and it holds no answer. -/
def Undecodable (received : Http.Received) : Prop :=
  classifier.LastAnswer network current question id state received ∧
    received.status.isSuccess = true ∧ received.complete = true ∧
    ∀ answer, Answer.reader.decode received.body ≠ .ok answer

/-- The transport fails before all of the last answer came. -/
def TransportFails : Prop :=
  classifier.Unanswered network current question id state ∨
    ∃ received, classifier.CutOff network current question id state received

/-- A gateway before the classifier that is posted the question counts it once, under this label. -/
def CountedAs (label : String) : Prop :=
  ∀ (assets : Http.Assets) (ids : Nat → Uuid) (world : World σ) (request : Http.Request)
    (registry : Metrics.Registry),
    let around : Surroundings σ := ⟨classifier.responder network current, ids⟩
    let gateway : Gateway := ⟨around.responder.name, assets⟩
    Gateway.PostsQuestion request → Gateway.Carries request question → world.responder = state →
    some (Layer.idIn around world request.headers) = id →
    world.measurements.registry = some registry →
    ∃ later : Metrics.Registry,
      ((gateway.service request).run around world).2.measurements.registry = some later ∧
      ∀ prediction, later.predictions.count prediction =
        registry.predictions.count prediction + if ⟨"http", label⟩ = prediction then 1 else 0

/-- Faults of the transport are told apart from answers that cannot be read. -/
structure TellsApart : Prop where
  told : classifier.TransportFails network current question id state →
    ∃ text, classifier.said network current question id state = .error (.network text)
  counted : classifier.TransportFails network current question id state →
    classifier.CountedAs network current question id state "network"
  unreadable :
    (∃ text, classifier.said network current question id state = .error (.invalidResponse text)) →
      ∃ received, classifier.Undecodable network current question id state received

/-- A question is counted under the label of what the classifier is taken to say. -/
theorem countedAs_outcomeLabel : classifier.CountedAs network current question id state
    (Metrics.outcomeLabel (classifier.said network current question id state)) := by
  intro assets ids world request registry around gateway posts carries asked known started
  have recorded := gateway.registry_of_ok around world posts
    ((Gateway.carries_iff request question).mp carries)
  rw [started, asked, known] at recorded
  exact ⟨_, recorded, Metrics.Tally.count_add _ _⟩

/-- Where nobody answers, the fault is one of the network. -/
theorem said_of_unanswered (h : classifier.Unanswered network current question id state) :
    ∃ url, classifier.said network current question id state =
      .error (.network (Http.FetchFault.unsent url).message) := by
  obtain ⟨request, known, breaksOff⟩ := h
  obtain ⟨url, unsent⟩ := Http.Client.result_follow_of_breaksOff breaksOff
  have posted : (classifier.post network current question id state).result = .error (.unsent url) := by
    rw [post, Http.Client.send_of_request known, unsent]
  exact ⟨url, congrArg interpret posted⟩

/-- A success that is cut off is taken for an answer that cannot be read. -/
theorem said_of_cutOff {received : Http.Received}
    (h : classifier.CutOff network current question id state received) :
    classifier.said network current question id state =
      .error (.invalidResponse Http.FetchFault.unreadable.message) := by
  obtain ⟨last, success, cut⟩ := h
  obtain ⟨url, posted⟩ := (classifier.lastAnswer_iff network current question id state received).mp last
  have interpreted : classifier.said network current question id state =
      interpret (.ok ⟨received, url⟩) := congrArg interpret posted
  simp only [interpreted, interpret, success, if_true, answerIn, cut]

/-- An answer is taken to be unreadable if it is cut off, and if it comes in full and holds nothing. -/
theorem said_invalidResponse_iff :
    (∃ text, classifier.said network current question id state = .error (.invalidResponse text)) ↔
      ∃ received, classifier.CutOff network current question id state received ∨
        classifier.Undecodable network current question id state received := by
  have decided := decides_interpret (classifier.lastAnswer_iff network current question id state)
  refine decided.invalidResponse.trans (exists_congr fun received => ?_)
  unfold CutOff Undecodable
  cases received.complete <;> simp

/-- How a question is told and counted whose transport fails; and it is told apart from answers that
cannot be read exactly if no success is cut off. -/
theorem tellsApart_iff :
    classifier.CountedAs network current question id state
      (Metrics.outcomeLabel (classifier.said network current question id state)) ∧
    (classifier.Unanswered network current question id state →
      ∃ url, classifier.said network current question id state =
        .error (.network (Http.FetchFault.unsent url).message)) ∧
    (∀ received, classifier.CutOff network current question id state received →
      classifier.said network current question id state =
        .error (.invalidResponse Http.FetchFault.unreadable.message)) ∧
    ((∃ text, classifier.said network current question id state = .error (.invalidResponse text)) ↔
      ∃ received, classifier.CutOff network current question id state received ∨
        classifier.Undecodable network current question id state received) ∧
    (classifier.TellsApart network current question id state ↔
      ∀ received, ¬ classifier.CutOff network current question id state received) := by
  have counted := classifier.countedAs_outcomeLabel network current question id state
  refine ⟨counted, classifier.said_of_unanswered network current question id state,
    fun received => classifier.said_of_cutOff network current question id state,
    classifier.said_invalidResponse_iff network current question id state, ?_, fun whole => ?_⟩
  · intro apart received cutOff
    obtain ⟨text, told⟩ := apart.told (.inr ⟨received, cutOff⟩)
    rw [classifier.said_of_cutOff network current question id state cutOff] at told
    cases told
  · have unanswered (fails : classifier.TransportFails network current question id state) :
        ∃ url, classifier.said network current question id state =
          .error (.network (Http.FetchFault.unsent url).message) := by
      rcases fails with nobody | ⟨received, cutOff⟩
      · exact classifier.said_of_unanswered network current question id state nobody
      · exact absurd cutOff (whole received)
    refine ⟨fun fails => ?_, fun fails => ?_, fun invalid => ?_⟩
    · obtain ⟨url, told⟩ := unanswered fails
      exact ⟨_, told⟩
    · obtain ⟨url, told⟩ := unanswered fails
      rw [told] at counted
      exact counted
    · obtain ⟨received, cutOff | undecodable⟩ :=
        (classifier.said_invalidResponse_iff network current question id state).mp invalid
      · exact absurd cutOff (whole received)
      · exact ⟨received, undecodable⟩

/-- A network on which every answer is cut off behind its first octets. -/
def cutting : Http.Network Unit where
  exchange _ state :=
    (.answered { status := 200, headers := [], body := Answer.document ⟨"hi"⟩, complete := false }, state)

/-- The answer to the first question is cut off there. -/
theorem cutOff_of_cutting : CutOff ⟨"http://[::1]/classify", none⟩ cutting none "hi" none ()
    { status := 200, headers := [], body := Answer.document ⟨"hi"⟩, complete := false } :=
  ⟨⟨firstSent, request?_firstSent, [], firstSent, (), .here firstSent (), Nat.zero_le _, rfl, rfl⟩,
    rfl, rfl⟩

/-- A success that is cut off is not told apart from one that cannot be read. -/
theorem not_tellsApart_of_cutting :
    ¬ TellsApart ⟨"http://[::1]/classify", none⟩ cutting none "hi" none () := by
  intro apart
  obtain ⟨text, told⟩ := apart.told (.inr ⟨_, cutOff_of_cutting⟩)
  rw [said_of_cutOff _ _ _ _ _ _ cutOff_of_cutting] at told
  cases told

/-- Nobody answers where nobody can be reached, and where every answer is cut off none can be read. -/
theorem tellsApart_iff_of_unreachable_and_cutting :
    let classifier : Classifier := ⟨"http://[::1]/classify", none⟩
    let cut : Http.Received :=
      { status := 200, headers := [], body := Answer.document ⟨"hi"⟩, complete := false }
    (classifier.Unanswered (.unreachable Unit) none "hi" none () ∧
      ∃ url, classifier.said (.unreachable Unit) none "hi" none () =
        .error (.network (Http.FetchFault.unsent url).message)) ∧
    classifier.CutOff cutting none "hi" none () cut ∧
      classifier.said cutting none "hi" none () =
        .error (.invalidResponse "error decoding response body") := by
  intro classifier cut
  have unanswered : classifier.Unanswered (.unreachable Unit) none "hi" none () :=
    ⟨firstSent, request?_firstSent, [], firstSent, (), .here firstSent (), Nat.zero_le _, rfl⟩
  exact ⟨⟨unanswered, (classifier.tellsApart_iff (.unreachable Unit) none "hi" none ()).2.1 unanswered⟩,
    cutOff_of_cutting, (classifier.tellsApart_iff cutting none "hi" none ()).2.2.1 cut cutOff_of_cutting⟩

end Classifier

end ChatGateway
