import ChatGateway.Gateway.Extract
import ChatGateway.Proofs.Classifier.Origin
import ChatGateway.Proofs.Json.Economy

/-!
# What is forwarded of a question

A question is forwarded in an envelope of its own, which is read back as the question and depends on
nothing but its text. Of all objects that are read as the question it is among the shortest. So what came
within the limit of a body as an object is not forwarded longer than it came, and what was forwarded once
is forwarded the same again.
-/

namespace ChatGateway

/-- Whether a document is written as an object. -/
def IsObject (document : Bytes) : Prop := (Json.skipSpace document).head? = some 0x7B

/-- The document that is written of what a document is read as. -/
def rewritten {α : Type} (reader : Json.Reader α) (document : α → Bytes) (body : Bytes) :
    Except Json.Fault Bytes :=
  (reader.decode body).map document

/-- The documents that are written are read back, no object of the same meaning is shorter, and writing
them again changes nothing. -/
structure Canonical {α : Type} (reader : Json.Reader α) (document : α → Bytes) : Prop where
  readBack (a : α) : reader.decode (document a) = .ok a
  shortest (body : Bytes) (a : α) : IsObject body → reader.decode body = .ok a →
    (document a).length ≤ body.length
  settled (body : Bytes) : (rewritten reader document body).bind (rewritten reader document) =
    rewritten reader document body

/-- An object that starts a body is not shorter than the one that is written of it. -/
theorem length_of_decodeFront {α : Type} {title name : String} {make : String → α} {body : Bytes}
    {text : String} (injective : Function.Injective make) (object : IsObject body)
    (h : (Json.Shape.ofText title name make).reader.decodeFront body = .ok (make text)) :
    (Json.writeObject [(name, text)]).length ≤ body.length := by
  obtain ⟨rest, opened⟩ := List.head?_eq_some_iff.mp object
  obtain ⟨t, read⟩ := Json.Reader.decodeFront_eq_ok_iff.mp h
  have bound := Json.length_of_readRecord opened read injective
  omega

/-- What is a document as a whole starts with it. -/
theorem decodeFront_of_decode {α : Type} {reader : Json.Reader α} {body : Bytes} {a : α}
    (h : reader.decode body = .ok a) : reader.decodeFront body = .ok a := by
  obtain ⟨t, read, _⟩ := Json.Reader.read_of_decode h
  exact Json.Reader.decodeFront_eq_ok_iff.mpr ⟨t, read⟩

/-- Rewriting a body that was rewritten changes nothing. -/
theorem rewritten_settled {α : Type} {reader : Json.Reader α} {document : α → Bytes}
    (readBack : ∀ a, reader.decode (document a) = .ok a) (body : Bytes) :
    (rewritten reader document body).bind (rewritten reader document) =
      rewritten reader document body := by
  cases read : reader.decode body with
  | error fault =>
    simp only [rewritten, read]
    rfl
  | ok a =>
    have once : rewritten reader document body = .ok (document a) := by rw [rewritten, read]; rfl
    have again : rewritten reader document (document a) = .ok (document a) := by
      rw [rewritten, readBack]
      rfl
    rw [once]
    exact again

/-- Questions have a canonical document: it is read back, none is shorter, and rewriting leaves it
alone. -/
theorem Question.canonical : Canonical reader document where
  readBack := decode_document
  shortest _ _ object read :=
    length_of_decodeFront (fun _ _ same => congrArg message same) object (decodeFront_of_decode read)
  settled := rewritten_settled decode_document

/-- Answers have a canonical document as well. -/
theorem Answer.canonical : Canonical reader document where
  readBack := decode_document
  shortest _ _ object read :=
    length_of_decodeFront (fun _ _ same => congrArg answer same) object (decodeFront_of_decode read)
  settled := rewritten_settled decode_document

namespace Classifier

open Http.Client (contentOf reading)

variable {σ : Type} (classifier : Classifier) (network : Http.Network σ)
  (current : Option Trace.SpanContext) (question : String) (id : Option String) (state : σ)

/-- What is sent for a question: its envelope first, and later the same or nothing. -/
theorem contentOf_sent :
    (∀ first ∈ (classifier.post network current question id state).sent.head?,
      contentOf first = ("POST", Question.document ⟨question⟩)) ∧
    ∀ sent ∈ (classifier.post network current question id state).sent,
      contentOf sent = ("POST", Question.document ⟨question⟩) ∨ contentOf sent = reading := by
  unfold post
  cases known : classifier.request? current question id with
  | none =>
    obtain ⟨fault, unsent⟩ := Http.Client.send_of_none known network state
    simp [unsent]
  | some request =>
    have content := contentOf_request known
    obtain ⟨followed, last, later, leads, _, sent⟩ := Http.Client.exists_leads_send known network state
    simp only [sent]
    refine ⟨fun first member => ?_, fun sent member => ?_⟩
    · rw [leads.head?_append] at member
      cases member
      exact content
    · rw [← content]
      exact leads.contentOf_mem sent member

/-- How the classifier is asked: in the envelope of the question, which is not longer than the object in
which the question came. -/
structure Forwards : Prop where
  first (current : Option Trace.SpanContext) (question : String) (id : Option String) (state : σ) :
    ∀ first ∈ (classifier.post network current question id state).sent.head?,
      contentOf first = ("POST", Question.document ⟨question⟩)
  later (current : Option Trace.SpanContext) (question : String) (id : Option String) (state : σ) :
    ∀ sent ∈ (classifier.post network current question id state).sent,
      contentOf sent = ("POST", Question.document ⟨question⟩) ∨ contentOf sent = reading
  noLonger (request : Http.Request) (question : Question) : IsObject request.body →
    Extract.read Question.reader request = .ok question →
    ∀ current id state, ∀ sent ∈ (classifier.post network current question.message id state).sent,
      sent.body.length ≤ request.body.length ∧ sent.body.length ≤ Extract.bodyLimit

/-- What is read from the body of a request is not longer when it is written again. -/
theorem length_of_read {request : Http.Request} {question : Question} (object : IsObject request.body)
    (h : Extract.read Question.reader request = .ok question) :
    question.document.length ≤ request.body.length ∧ request.body.length ≤ Extract.bodyLimit := by
  unfold Extract.read at h
  split at h
  · contradiction
  split at h
  · contradiction
  rename_i within
  cases front : Question.reader.decodeFront request.body with
  | error fault =>
    rw [front] at h
    contradiction
  | ok found =>
    rw [front] at h
    cases h
    have injective : Function.Injective Question.mk := fun _ _ same => congrArg Question.message same
    exact ⟨length_of_decodeFront injective object front, Nat.le_of_not_lt within⟩

/-- Questions and answers travel in canonical envelopes, and so does what the classifier is asked. -/
theorem canonical_envelopes : Canonical Question.reader Question.document ∧
    Canonical Answer.reader Answer.document ∧ classifier.Forwards network := by
  refine ⟨Question.canonical, Answer.canonical, ?_, ?_, ?_⟩
  · intro current question id state
    exact (classifier.contentOf_sent network current question id state).1
  · intro current question id state
    exact (classifier.contentOf_sent network current question id state).2
  · intro request question object read current id state sent member
    obtain ⟨short, within⟩ := length_of_read object read
    have content := (classifier.contentOf_sent network current question.message id state).2 sent member
    have noLonger : sent.body.length ≤ question.document.length := by
      rcases content with posts | reads
      · have same : sent.body = question.document := congrArg Prod.snd posts
        exact Nat.le_of_eq (congrArg List.length same)
      · have empty : sent.body = [] := congrArg Prod.snd reads
        rw [empty]
        exact Nat.zero_le _
    omega

end Classifier

end ChatGateway
