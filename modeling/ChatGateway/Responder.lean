import ChatGateway.Failure

/-!
# Responders

A responder turns a question into an answer. It has a name, may keep a state between calls,
and tells whether it is well. What goes wrong in a call is one of four kinds.
-/

namespace ChatGateway

/-- What goes wrong when a question is answered. -/
inductive ResponderFault where
  | notConfigured (text : String)
  | network (text : String)
  | unsuccessful (status : Nat)
  | invalidResponse (text : String)
  deriving DecidableEq, Repr

namespace ResponderFault

/-- The label under which the fault is counted. -/
def kind : ResponderFault → String
  | notConfigured _ => "not_configured"
  | network _ => "network"
  | unsuccessful _ => "upstream"
  | invalidResponse _ => "invalid_response"

/-- The fault in words. -/
def message : ResponderFault → String
  | notConfigured text => "Responder not configured: " ++ text
  | network text => "Network error: " ++ text
  | unsuccessful status => "Classifier returned status " ++ Text.decimal status
  | invalidResponse text => "Invalid classifier response: " ++ text

/-- The failure of a request that met the fault. -/
def failure (fault : ResponderFault) : Failure :=
  match fault with
  | notConfigured _ => .internal ⟨fault.message, []⟩
  | network _ | unsuccessful _ | invalidResponse _ => .badGateway fault.message

end ResponderFault

/-- What a call gives: a result, the state after it, the events logged on the way, and how
long it took. -/
structure Outcome (σ α : Type) where
  result : Except ResponderFault α
  state : σ
  events : List LogEvent := []
  seconds : Float := 0.0

/-- Answers questions, given the id of the request, over a state of its own. -/
structure Responder (σ : Type) where
  name : String
  answer : (question : String) → (id : Option String) → σ → Outcome σ String
  health : σ → Outcome σ Unit

end ChatGateway
