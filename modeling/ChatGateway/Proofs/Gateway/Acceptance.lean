import ChatGateway.Proofs.Envelope
import ChatGateway.Proofs.Gateway.Prediction

/-!
# Which questions are handed over

A posted body hands a question over exactly if a front of the body is a document of the question;
what follows that front is not looked at. So serving agrees with decoding the body as a whole
exactly if nothing but spaces ever follows such a front.
-/

namespace ChatGateway

/-- A body is the document of a question exactly if it starts with the question and no front
of it that is one has anything but spaces behind it. -/
theorem Question.decode_eq_ok_iff {body : Bytes} {question : Question}
    (h : reader.decodeFront body = .ok question) :
    reader.decode body = .ok question ↔
      ∀ front rest, body = front ++ rest → reader.decode front = .ok question →
        Json.skipSpace rest = [] := by
  constructor
  · intro whole front rest same document
    subst same
    exact (endsItself_reader.decode_append document rest).mp whole
  · intro spaces
    obtain ⟨front, rest, rfl, document⟩ := endsItself_reader.decodeFront_iff.mp h
    exact (endsItself_reader.decode_append document rest).mpr (spaces front rest rfl document)

namespace Gateway

variable {σ : Type}

/-- While the request is served the responder is asked with this message. -/
def HandsOver (gateway : Gateway) (around : Surroundings σ) (world : World σ)
    (request : Http.Request) (message : String) : Prop :=
  ∃ given outcome,
    .asked message given outcome ∈ (gateway.service request).notices around world

/-- Serving the request agrees with decoding its body as a whole. -/
structure AgreesWithDecoding (gateway : Gateway) (around : Surroundings σ) (world : World σ)
    (request : Http.Request) : Prop where
  /-- A message is handed over exactly if the body is its question. -/
  handsOver : ∀ message, HandsOver gateway around world request message ↔
    Question.reader.decode request.body = .ok ⟨message⟩
  /-- A body that is no question is a bad request, and nobody is asked about it. -/
  refuses : (∀ message, Question.reader.decode request.body ≠ .ok ⟨message⟩) →
    ((gateway.service request).run around world).1.status = 400 ∧
      ((gateway.service request).notices around world).filter Notice.callsResponder = []

variable (gateway : Gateway) (around : Surroundings σ) (world : World σ) {request : Http.Request}

/-- What is handed over is the message that the request carries. -/
theorem handsOver_iff_carries (posts : PostsQuestion request) (message : String) :
    HandsOver gateway around world request message ↔ Carries request message := by
  have asked (given : Option String) (outcome : Outcome σ String) :
      .asked message given outcome ∈ (gateway.service request).notices around world ↔
        .asked message given outcome ∈
          ((gateway.service request).notices around world).filter Notice.callsResponder := by
    rw [List.mem_filter]
    exact (and_iff_left rfl).symm
  simp only [HandsOver, asked, carries_iff]
  cases h : Extract.read Question.reader request with
  | error refusal =>
    rw [calls_of_error gateway around world posts h]
    simp
  | ok question =>
    rw [calls_of_ok gateway around world posts h]
    simp only [List.mem_singleton, Notice.asked.injEq, Except.ok.injEq]
    constructor
    · intro asking
      obtain ⟨given, outcome, rfl, _⟩ := asking
      rfl
    · intro same
      cases same
      exact ⟨_, _, rfl, rfl, rfl⟩

/-- Of a body that is announced and not too long, the question at the front is handed over. -/
theorem handsOver_iff_decodeFront (posts : PostsQuestion request)
    (announced : Http.MediaType.announcesJson request.headers = true)
    (short : request.body.length ≤ 2 * 1024 * 1024) (message : String) :
    HandsOver gateway around world request message ↔
      Question.reader.decodeFront request.body = .ok ⟨message⟩ := by
  rw [handsOver_iff_carries gateway around world posts]
  exact ⟨fun carries => carries.2.2, fun front => ⟨announced, short, front⟩⟩

/-- A request that carries no message is a bad request about which nobody is asked. -/
theorem refuses_of_carries_none (posts : PostsQuestion request)
    (h : ∀ message, ¬ Carries request message) :
    ((gateway.service request).run around world).1.status = 400 ∧
      ((gateway.service request).notices around world).filter Notice.callsResponder = [] := by
  cases read : Extract.read Question.reader request with
  | error refusal =>
    refine ⟨?_, calls_of_error gateway around world posts read⟩
    rw [run_of_error gateway around world posts read]
    rfl
  | ok question => exact absurd ((carries_iff request _).mpr read) (h question.message)

/-- Serving agrees with decoding exactly if nothing but spaces follows a question. -/
theorem agreesWithDecoding_iff (posts : PostsQuestion request)
    (announced : Http.MediaType.announcesJson request.headers = true)
    (short : request.body.length ≤ 2 * 1024 * 1024) :
    AgreesWithDecoding gateway around world request ↔
      ∀ front rest question, request.body = front ++ rest →
        Question.reader.decode front = .ok question → Json.skipSpace rest = [] := by
  have handed := handsOver_iff_decodeFront gateway around world posts announced short
  constructor
  · intro agrees front rest question split document
    have found : Question.reader.decodeFront request.body = .ok question :=
      Question.endsItself_reader.decodeFront_iff.mpr ⟨front, rest, split, document⟩
    have whole := (agrees.handsOver question.message).mp ((handed question.message).mpr found)
    exact (Question.decode_eq_ok_iff found).mp whole front rest split document
  · intro spaces
    have whole (message : String) : Question.reader.decodeFront request.body = .ok ⟨message⟩ ↔
        Question.reader.decode request.body = .ok ⟨message⟩ := by
      constructor
      · intro found
        exact (Question.decode_eq_ok_iff found).mpr fun front rest => spaces front rest _
      · intro document
        rw [Question.endsItself_reader.decodeFront_iff]
        exact ⟨request.body, [], (List.append_nil _).symm, document⟩
    refine ⟨fun message => (handed message).trans (whole message), fun none => ?_⟩
    apply refuses_of_carries_none gateway around world posts
    intro message carries
    exact none message ((whole message).mp carries.2.2)

/-- What is handed over is the question at the front of the body, so serving agrees with decoding
the body exactly if nothing but spaces follows. -/
theorem handsOver_front (posts : PostsQuestion request)
    (announced : Http.MediaType.announcesJson request.headers = true)
    (short : request.body.length ≤ 2 * 1024 * 1024) :
    (∀ message, HandsOver gateway around world request message ↔
      ∃ front rest, request.body = front ++ rest ∧
        Question.reader.decode front = .ok ⟨message⟩) ∧
    (AgreesWithDecoding gateway around world request ↔
      ∀ front rest question, request.body = front ++ rest →
        Question.reader.decode front = .ok question → Json.skipSpace rest = []) := by
  refine ⟨fun message => ?_, agreesWithDecoding_iff gateway around world posts announced short⟩
  rw [handsOver_iff_decodeFront gateway around world posts announced short]
  exact Question.endsItself_reader.decodeFront_iff

/-- A question with a letter behind it is handed over, and decoding the body refuses it. -/
theorem handsOver_front_of_letter_behind :
    (∀ message, HandsOver echoing echoingSurroundings { responder := () }
      (posting (Question.document ⟨"abc"⟩ ++ [0x78])) message ↔
      ∃ front rest, Question.document ⟨"abc"⟩ ++ [0x78] = front ++ rest ∧
        Question.reader.decode front = .ok ⟨message⟩) ∧
    (AgreesWithDecoding echoing echoingSurroundings { responder := () }
      (posting (Question.document ⟨"abc"⟩ ++ [0x78])) ↔
      ∀ front rest question, Question.document ⟨"abc"⟩ ++ [0x78] = front ++ rest →
        Question.reader.decode front = .ok question → Json.skipSpace rest = []) :=
  handsOver_front _ _ _ ⟨rfl, rfl⟩ (by decide) (by decide)

/-- A question with a letter behind it shows that serving does not agree with decoding the body. -/
theorem not_agreesWithDecoding_of_letter_behind :
    ¬ AgreesWithDecoding echoing echoingSurroundings { responder := () }
      (posting (Question.document ⟨"abc"⟩ ++ [0x78])) := by
  rw [agreesWithDecoding_iff _ _ _ ⟨rfl, rfl⟩ (by decide) (by decide)]
  intro spaces
  have letter := spaces _ [0x78] ⟨"abc"⟩ rfl (Question.decode_document ⟨"abc"⟩)
  contradiction

end Gateway

end ChatGateway
