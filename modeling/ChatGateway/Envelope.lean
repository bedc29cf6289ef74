import ChatGateway.Json.Record
import ChatGateway.Json.Writer

/-!
# The envelopes of a conversation

A question travels as an object with the member `message`, an answer as an object with the
member `answer`. The gateway and the classifier behind it speak the same two forms.
-/

namespace ChatGateway

/-- What a user asks. -/
structure Question where
  message : String
  deriving DecidableEq, Repr

/-- What is answered. -/
structure Answer where
  answer : String
  deriving DecidableEq, Repr

/-- The form of a question. -/
def Question.shape : Json.Shape (Option String) Question :=
  .ofText "struct ChatMessage" "message" Question.mk

/-- The reader of questions. -/
def Question.reader : Json.Reader Question := Question.shape.reader

/-- The document of a question. -/
def Question.document (question : Question) : Bytes :=
  Json.writeObject [("message", question.message)]

/-- The form of an answer. -/
def Answer.shape : Json.Shape (Option String) Answer :=
  .ofText "struct ChatResponse" "answer" Answer.mk

/-- The reader of answers. -/
def Answer.reader : Json.Reader Answer := Answer.shape.reader

/-- The document of an answer. -/
def Answer.document (answer : Answer) : Bytes :=
  Json.writeObject [("answer", answer.answer)]

end ChatGateway
