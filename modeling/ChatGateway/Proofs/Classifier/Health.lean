import ChatGateway.Proofs.Gateway.RequestId
import ChatGateway.Proofs.Http.LastAnswer

/-!
# How the classifier is asked for its health

The classifier is well exactly if the last answer to an inquiry is a success, whatever its body holds and
however much of it came. An inquiry only reads, also where it is redirected, and it carries no id: it is
sent on behalf of no request.
-/

namespace ChatGateway

variable {σ : Type}

namespace Http

/-- The answer with another body, all of which came or not. -/
def Received.withBody (received : Received) (body : Bytes × Bool) : Received :=
  { received with body := body.1, complete := body.2 }

/-- What one request brings, with another body if it is an answer. -/
def Exchange.withBody (bodies : Received → Bytes × Bool) : Exchange → Exchange
  | failed => failed
  | answered received => answered (received.withBody (bodies received))

/-- The network that gives the same answers with other bodies. -/
def Network.withBodies (network : Network σ) (bodies : Received → Bytes × Bool) : Network σ where
  exchange request state :=
    let (exchange, later) := network.exchange request state
    (exchange.withBody bodies, later)

/-- The answer that is fetched with another body. -/
def Final.withBody (bodies : Received → Bytes × Bool) (final : Final) : Final :=
  { final with received := final.received.withBody (bodies final.received) }

/-- A fetch that brings the same with another body. -/
def Fetched.withBody (bodies : Received → Bytes × Bool) (fetched : Fetched σ) : Fetched σ :=
  { fetched with result := fetched.result.map (Final.withBody bodies) }

namespace Client

/-- What is asked next does not depend on the body. -/
theorem next?_withBody (request : Outbound) (received : Received) (body : Bytes × Bool) :
    next? request (received.withBody body) = next? request received := rfl

/-- An exchange over a network with other bodies is the same exchange with another body. -/
theorem exchange_withBodies {network : Network σ} {request : Outbound} {state later : σ}
    {exchange : Exchange} (bodies : Received → Bytes × Bool)
    (h : network.exchange request state = (exchange, later)) :
    (network.withBodies bodies).exchange request state = (exchange.withBody bodies, later) := by
  simp only [Network.withBodies, h]

/-- Redirections are followed alike, whatever the bodies are. -/
theorem follow_withBodies (network : Network σ) (bodies : Received → Bytes × Bool) (left : Nat)
    (request : Outbound) (state : σ) :
    follow (network.withBodies bodies) left request state =
      (follow network left request state).withBody bodies := by
  fun_induction follow network left request state with
  | case1 left request state later failed =>
    rw [follow_of_failed left (exchange_withBodies bodies failed)]
    rfl
  | case2 left request state received later answered asksNothing =>
    rw [follow_of_last left (exchange_withBodies bodies answered)
      ((next?_withBody request received _).trans asksNothing)]
    rfl
  | case3 request state received later answered next asks =>
    rw [follow_of_next 0 (exchange_withBodies bodies answered)
      ((next?_withBody request received _).trans asks)]
    rfl
  | case4 request state received between answered next asks left usable ih =>
    rw [follow_of_next (left + 1) (exchange_withBodies bodies answered)
      ((next?_withBody request received _).trans asks)]
    simp only [usable, if_true, ih]
    rfl
  | case5 request state received between answered next asks left unusable =>
    rw [follow_of_next (left + 1) (exchange_withBodies bodies answered)
      ((next?_withBody request received _).trans asks)]
    simp only [unusable]
    rfl

/-- A request and its redirects run alike over a network with other bodies, because no body is looked at
on the way. -/
theorem send_withBodies (network : Network σ) (bodies : Received → Bytes × Bool)
    (method address : String) (headers : Headers) (body : Bytes) (state : σ) :
    send (network.withBodies bodies) method address headers body state =
      (send network method address headers body state).withBody bodies := by
  unfold send
  split
  · rfl
  · simp only
    split
    · exact follow_withBodies network bodies redirectLimit _ state
    · rfl

end Client

end Http

namespace Classifier

open Http.Client (address? contentOf reading)

/-- The request that asks for the health at an address, unless the address cannot be asked. -/
def inquiry? (current : Option Trace.SpanContext) (url : String) : Option Http.Outbound :=
  Http.Client.request? "GET" url (Trace.write [] current none) []

variable (network : Http.Network σ) (current : Option Trace.SpanContext) (url : String) (state : σ)

/-- The last answer to an inquiry is a success. -/
def IsWell : Prop :=
  ∃ request received, inquiry? current url = some request ∧
    Http.Client.Concludes network Http.Client.redirectLimit request state received ∧
    received.status.isSuccess = true

/-- The verdict is good exactly if an answer came and its status is one of success. -/
theorem verdict_eq_ok_iff (fetched : Except Http.FetchFault Http.Final) :
    verdict fetched = .ok () ↔
      ∃ received, (∃ url, fetched = .ok ⟨received, url⟩) ∧ received.status.isSuccess = true := by
  cases fetched with
  | error fault => simp [verdict]
  | ok final =>
    obtain ⟨received, url⟩ := final
    cases success : received.status.isSuccess <;> simp [verdict, success]

/-- The verdict is the status, whatever the body is. -/
theorem verdict_withBody (bodies : Http.Received → Bytes × Bool)
    (fetched : Except Http.FetchFault Http.Final) :
    verdict (fetched.map (Http.Final.withBody bodies)) = verdict fetched := by
  cases fetched <;> rfl

/-- An inquiry finds the classifier well exactly if it is. -/
theorem verdict_inquire_eq_ok_iff :
    verdict (inquire network current url state).result = .ok () ↔ IsWell network current url state := by
  rw [verdict_eq_ok_iff]
  simp only [inquire, Http.Client.exists_result_send_eq_ok_iff]
  constructor
  · intro well
    obtain ⟨received, ⟨request, known, concludes⟩, success⟩ := well
    exact ⟨request, received, known, concludes, success⟩
  · intro well
    obtain ⟨request, received, known, concludes, success⟩ := well
    exact ⟨received, ⟨request, known, concludes⟩, success⟩

/-- What is sent to learn about the health at an address: at most eleven requests that only read and
carry no id, the first of them for the address, or none if it cannot be asked. -/
structure Inquires (url : String) (sent : List Http.Outbound) : Prop where
  nobody : address? url = none → sent = []
  first : ∀ address, address? url = some address → ∃ first, sent.head? = some first ∧
    (first.url = address ∨ first.url = { address with credentials := none })
  reads : ∀ request ∈ sent, request.method = "GET" ∧ request.body = [] ∧
    request.headers.values Trace.requestIdField = []
  few : sent.length ≤ 11

/-- No id is written on an inquiry. -/
theorem values_sent_inquire :
    ∀ sent ∈ (inquire network current url state).sent,
      sent.headers.values Trace.requestIdField = [] := by
  intro sent listed
  rw [Http.Client.values_sent_send network _ _ _ _ state travels_requestIdField (by decide) sent listed]
  exact Trace.values_writeContext_of_ne [] current (by decide) (by decide)

/-- An inquiry sends few requests that only read and carry no id, or none if its address cannot be
asked. -/
theorem inquires_inquire : Inquires url (inquire network current url state).sent := by
  have unnamed := values_sent_inquire network current url state
  have asked := Http.Client.request?_eq "GET" url (Trace.write [] current none) []
  cases known : address? url with
  | none =>
    rw [known, Option.map_none] at asked
    obtain ⟨fault, unsent⟩ := Http.Client.send_of_none asked network state
    have none : (inquire network current url state).sent = [] := congrArg Http.Fetched.sent unsent
    rw [none]
    constructor
    case nobody => exact fun _ => rfl
    case first => simp [known]
    case reads => simp
    case few => exact Nat.zero_le 11
  | some address =>
    rw [known, Option.map_some] at asked
    obtain ⟨followed, last, later, leads, within, sent⟩ := Http.Client.exists_leads_send asked network state
    change (inquire network current url state).sent = followed ++ [last] at sent
    rw [sent] at unnamed ⊢
    constructor
    case nobody => simp [known]
    case first =>
      intro other same
      obtain rfl : address = other := Option.some.inj (known.symm.trans same)
      exact ⟨_, leads.head?_append, Http.Client.url_withCredentials address _⟩
    case reads =>
      intro request listed
      have content : contentOf request = reading := by
        rcases leads.contentOf_mem request listed with first | reads
        · exact first
        · exact reads
      exact ⟨congrArg Prod.fst content, congrArg Prod.snd content, unnamed request listed⟩
    case few =>
      rw [List.length_append]
      exact Nat.succ_le_succ within

section Outcome

variable (classifier : Classifier)

/-- Without an address for it the classifier is taken to be well, and nobody is asked. -/
theorem health_of_none (without : classifier.healthUrl = none) :
    (classifier.responder network current).health state = { result := .ok (), state } := by
  simp only [responder, without]

/-- With an address for it the inquiry decides, and a network that records what it is asked keeps what
the inquiry sends. -/
theorem health_recording {url : String} (address : classifier.healthUrl = some url)
    (before : List Http.Outbound) :
    let fetched := inquire network current url state
    (classifier.responder network.recording current).health (state, before) =
      { result := verdict fetched.result, state := (fetched.state, before ++ fetched.sent) } := by
  intro fetched
  have recorded : inquire network.recording current url (state, before) = fetched.recordedAfter before :=
    Http.Client.send_recording network _ _ _ _ state before
  simp only [responder, address, recorded]
  rfl

/-- The bodies of the answers change nothing. -/
theorem health_withBodies (bodies : Http.Received → Bytes × Bool) :
    (classifier.responder (network.withBodies bodies) current).health state =
      (classifier.responder network current).health state := by
  cases address : classifier.healthUrl with
  | none => simp only [responder, address]
  | some url =>
    have fetched : inquire (network.withBodies bodies) current url state =
        (inquire network current url state).withBody bodies :=
      Http.Client.send_withBodies network bodies _ _ _ _ state
    simp only [responder, address, fetched]
    rw [Http.Fetched.withBody, verdict_withBody]

end Outcome

end Classifier

end ChatGateway
