import ChatGateway.Proofs.Classifier.Meaning
import ChatGateway.Proofs.Envelope

/-!
# Which request an answer belongs to

What the classifier is taken to say is read from what the last request was answered with, and that
request need not be the question. A redirection that means "ask there" repeats the question, but one
that means "look there" drops it, and nothing that follows brings it back. So the answers belong to
the question exactly if every redirection on the way repeats it.
-/

namespace ChatGateway

namespace Http.Client

variable {σ : Type} {network : Network σ} {request last : Outbound} {state later : σ}
  {followed : List Outbound}

/-- The statuses of the answers to requests that are sent one after the other. -/
def statusesTo (network : Network σ) : List Outbound → σ → List Status
  | [], _ => []
  | request :: rest, state =>
    match network.exchange request state with
    | (.answered received, later) => received.status :: statusesTo network rest later
    | (.failed, later) => statusesTo network rest later

/-- The last request is the first one again if all redirections repeat it, and otherwise only reads. -/
theorem Leads.contentOf_last (h : Leads network request state followed last later) :
    contentOf last =
      if (statusesTo network followed state).all repeats then contentOf request else reading := by
  induction h with
  | here request state => rfl
  | @on request next last state between later received followed answered asks usable rest ih =>
    rw [ih, contentOf_next asks, statusesTo, answered, List.all_cons]
    cases repeats received.status with
    | true => rfl
    -- From here on only reading is sent, whether later redirections repeat it or not.
    | false => simp

end Http.Client

namespace Classifier

open Http.Client (contentOf repeats statusesTo)

variable {σ : Type}

/-- Where an answer comes from: a question that is sent, the requests that are redirected, and a last
one with the response that holds the answer. -/
structure Origin (classifier : Classifier) (network : Http.Network σ)
    (current : Option Trace.SpanContext) (question : String) (id : Option String) (state : σ)
    (answer : String) where
  first : Http.Outbound
  followed : List Http.Outbound
  last : Http.Outbound
  later : σ
  received : Http.Received
  asked : classifier.request? current question id = some first
  leads : Http.Client.Leads network first state followed last later
  within : followed.length ≤ Http.Client.redirectLimit
  answered : (network.exchange last later).1 = .answered received
  concludes : Http.Client.next? last received = none
  success : received.status.isSuccess = true
  complete : received.complete = true
  holds : Answer.reader.decode received.body = .ok ⟨answer⟩

variable (classifier : Classifier) (network : Http.Network σ) (current : Option Trace.SpanContext)
  (question : String) (id : Option String) (state : σ)

/-- The classifier is taken to say an answer exactly if the answer has an origin. -/
theorem nonempty_origin_iff (answer : String) :
    Nonempty (Origin classifier network current question id state answer) ↔
      ((classifier.responder network current).answer question id state).result = .ok answer := by
  have decided := decides_interpret (classifier.lastAnswer_iff network current question id state)
  rw [responder, decided.ok answer]
  constructor
  · rintro ⟨origin⟩
    exact ⟨origin.received, ⟨origin.first, origin.asked, origin.followed, origin.last, origin.later,
      origin.leads, origin.within, origin.answered, origin.concludes⟩, origin.success,
      origin.complete, origin.holds⟩
  · rintro ⟨received, last, success, complete, holds⟩
    obtain ⟨first, asked, followed, last, later, leads, within, answered, concludes⟩ := last
    exact ⟨⟨first, followed, last, later, received, asked, leads, within, answered, concludes,
      success, complete, holds⟩⟩

variable {classifier network current question id state}

/-- What is first sent for a question posts it. -/
theorem contentOf_request {first : Http.Outbound}
    (h : classifier.request? current question id = some first) :
    contentOf first = ("POST", Question.document ⟨question⟩) := by
  obtain ⟨url, _, known⟩ := Option.bind_eq_some_iff.mp h
  simp only at known
  split at known
  · cases known
    rfl
  · contradiction

namespace Origin

variable {answer : String}

/-- The statuses of the redirections on the way to an answer. -/
def redirections (origin : Origin classifier network current question id state answer) :
    List Http.Status :=
  statusesTo network origin.followed state

/-- The last request posts the question if every redirection repeats it, and otherwise only reads. -/
theorem contentOf_last (origin : Origin classifier network current question id state answer) :
    contentOf origin.last =
      if ∀ status ∈ origin.redirections, status = 307 ∨ status = 308 then
        ("POST", Question.document ⟨question⟩)
      else ("GET", []) := by
  have repeated : origin.redirections.all repeats = true ↔
      ∀ status ∈ origin.redirections, status = 307 ∨ status = 308 := by
    simp [List.all_eq_true, repeats]
  have last := origin.leads.contentOf_last
  rw [contentOf_request origin.asked] at last
  simp only [← repeated]
  exact last

/-- The last request posts the question only if every redirection repeats it. -/
theorem posts_iff (origin : Origin classifier network current question id state answer) :
    contentOf origin.last = ("POST", Question.document ⟨question⟩) ↔
      ∀ status ∈ origin.redirections, status = 307 ∨ status = 308 := by
  rw [origin.contentOf_last]
  refine ⟨fun posts => ?_, fun kept => if_pos kept⟩
  split at posts
  · assumption
  · exact absurd (congrArg Prod.fst posts) (by simp)

end Origin

variable (classifier network current question id state)

/-- Every answer is read from a response to the question. -/
def BelongsToQuestion : Prop :=
  ∀ (answer : String) (origin : Origin classifier network current question id state answer),
    contentOf origin.last = ("POST", Question.document ⟨question⟩)

/-- Every answer has an origin, and it belongs to the question exactly if every redirection on the way
to it repeats the question; otherwise it is read from a response to a request that only reads. -/
theorem belongsToQuestion_iff :
    (∀ answer, ((classifier.responder network current).answer question id state).result = .ok answer ↔
      Nonempty (Origin classifier network current question id state answer)) ∧
    (∀ (answer : String) (origin : Origin classifier network current question id state answer),
      contentOf origin.last = if ∀ status ∈ origin.redirections, status = 307 ∨ status = 308 then
        ("POST", Question.document ⟨question⟩) else ("GET", [])) ∧
    (BelongsToQuestion classifier network current question id state ↔
      ∀ (answer : String) (origin : Origin classifier network current question id state answer),
        ∀ status ∈ origin.redirections, status = 307 ∨ status = 308) := by
  refine ⟨fun answer => ?_, fun answer origin => origin.contentOf_last, ?_⟩
  · exact (classifier.nonempty_origin_iff network current question id state answer).symm
  · exact forall₂_congr fun answer origin => origin.posts_iff

/-- An answer that says to look elsewhere. -/
def elsewhere : Http.Received where
  status := 303
  headers := Http.Headers.ofTexts [("location", "/other")]
  body := []

/-- A network that sends questions elsewhere and answers whatever only reads. -/
def seeOther : Http.Network Unit where
  exchange request state :=
    if request.method = "GET" then
      (.answered { status := 200, headers := [], body := Answer.document ⟨"unasked"⟩ }, state)
    else (.answered elsewhere, state)

/-- The address of a classifier, and the one that it refers to. -/
def classifyUrl : Http.Url := { scheme := "http", host := some "[::1]", path := .names ["classify"] }

/-- An address of the same host with another path. -/
def otherUrl : Http.Url := { classifyUrl with path := .names ["other"] }

/-- The question `hi` as it is first sent. -/
def firstSent : Http.Outbound where
  method := "POST"
  url := classifyUrl
  headers := (Http.Headers.ofTexts [("content-type", "application/json")]).setMissing "accept"
    (Bytes.ofText "*/*")
  body := Question.document ⟨"hi"⟩

/-- The first request is one to classify the question. -/
theorem request?_firstSent :
    request? ⟨"http://[::1]/classify", none⟩ none "hi" none = some firstSent := by
  have read : Http.Url.parse? "http://[::1]/classify" = some classifyUrl := by decide
  have usable : Http.Client.isUsable classifyUrl = true := by decide
  have plain (headers : Http.Headers) :
      Http.Client.withCredentials classifyUrl headers = (classifyUrl, headers) := rfl
  simp only [request?, Http.Client.request?, read, Option.bind_some, plain, usable, if_true]
  rfl

/-- The answer points elsewhere on the same host. -/
theorem location?_elsewhere : Http.Client.location? classifyUrl elsewhere = some otherUrl := by
  have named : classifyUrl.resolve? "/other" = some otherUrl := by decide
  have target : (Http.Target.parse? otherUrl.text).isSome = true := by decide
  have field : elsewhere.headers.get? "location" = some (Bytes.ofText "/other") := rfl
  simp only [Http.Client.location?, field, Option.bind_some, Bytes.toText?_ofText, named,
    Option.filter_some, target, if_true]

/-- What is sent to the other address only reads. -/
theorem next?_firstSent :
    Http.Client.next? firstSent elsewhere =
      some (Http.Client.atUrl (Http.Client.readingInstead firstSent) otherUrl) := by
  have redirected : Http.Client.redirected? firstSent elsewhere.status =
      some (Http.Client.readingInstead firstSent) := rfl
  have location : Http.Client.location? firstSent.url elsewhere = some otherUrl :=
    location?_elsewhere
  rw [Http.Client.next?, redirected, location]
  rfl

/-- An answer that is found elsewhere is taken for one to the question. -/
theorem not_belongsToQuestion_of_seeOther :
    ¬ BelongsToQuestion ⟨"http://[::1]/classify", none⟩ seeOther none "hi" none () := by
  intro belongs
  let last := Http.Client.atUrl (Http.Client.readingInstead firstSent) otherUrl
  let origin : Origin ⟨"http://[::1]/classify", none⟩ seeOther none "hi" none () "unasked" := {
    first := firstSent
    followed := [firstSent]
    last
    later := ()
    received := { status := 200, headers := [], body := Answer.document ⟨"unasked"⟩ }
    asked := request?_firstSent
    leads := .on rfl next?_firstSent (by decide) (.here last ())
    within := by decide
    answered := rfl
    concludes := rfl
    success := rfl
    complete := rfl
    holds := Answer.decode_document ⟨"unasked"⟩ }
  exact absurd (congrArg Prod.fst (belongs "unasked" origin)) (by decide)

end Classifier

end ChatGateway
