import ChatGateway.Responder
import ChatGateway.Text.Blank

/-!
# The echo responder

Answers every question from the question alone, for use without a classifier.
-/

namespace ChatGateway.Echo

/-- The answer to a question that holds only blanks. -/
def fallback : String := "I do not understand..."

/-- What precedes the question in an answer. -/
def preamble : String := "You said: "

/-- The answer to a question: the trimmed question behind the preamble, or the fallback. -/
def reply (question : String) : String :=
  let trimmed := Text.trim question
  if trimmed.isEmpty then fallback else preamble ++ trimmed

/-- The responder that echoes. -/
def responder (σ : Type) : Responder σ where
  name := "echo"
  answer question _ state := { result := .ok (reply question), state }
  health state := { result := .ok (), state }

end ChatGateway.Echo
