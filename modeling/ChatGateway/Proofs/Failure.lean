import ChatGateway.Application.Startup
import ChatGateway.Config.Setting
import ChatGateway.Proofs.Json.Conformity

/-!
# What is told about a failure

Every failure is answered with the status of its kind and a document of two members at most, whatever the
texts are that it wraps. The client learns the kind and the outermost message, and nothing else: failures
that agree in both are answered alike, whatever is behind their messages.

What goes wrong on the gateway's own side is never blamed on the client.
-/

namespace ChatGateway

namespace Failure

/-- The kinds of failures. -/
inductive Kind where
  | badRequest
  | notFound
  | internal
  | badGateway
  | unavailable
  | settings
  deriving DecidableEq, Repr

/-- The kind of a failure. -/
def kind : Failure → Kind
  | badRequest _ => .badRequest
  | notFound _ => .notFound
  | internal _ => .internal
  | badGateway _ => .badGateway
  | unavailable => .unavailable
  | settings _ => .settings

/-- The outermost message of a failure, if it has one. -/
def outermost? : Failure → Option String
  | badRequest cause | notFound cause | internal cause | settings cause => some cause.message
  | badGateway text => some text
  | unavailable => none

/-- What the answer to a failure says: its status, the member `error`, and the member `details`. -/
inductive Tells : Failure → Http.Status → String → Option String → Prop where
  | badRequest (cause : Cause) : Tells (badRequest cause) 400 cause.message none
  | notFound (cause : Cause) : Tells (notFound cause) 404 cause.message none
  | internal (cause : Cause) : Tells (internal cause) 500 "Internal server error" (some cause.message)
  | badGateway (text : String) : Tells (badGateway text) 502 ("Bad Gateway: " ++ text) none
  | unavailable : Tells unavailable 503 "Service unavailable" none
  | settings (cause : Cause) : Tells (settings cause) 500 "Configuration error" (some cause.message)

/-- The members of the answer as values. -/
def members (error : String) (details : Option String) : List (String × Json.Value) :=
  ("error", .text error) :: (details.map fun text => ("details", .text text)).toList

/-- How a failure is answered. -/
structure Answered (failure : Failure) : Prop where
  status : failure.response.status = failure.status
  wellFormed : ∃ text, failure.response.body = Bytes.ofText text ∧ Json.Grammar.IsDocument text.toList
  told : ∃ error details, Tells failure failure.response.status error details ∧
    Json.Value.reader.decode failure.response.body = .ok (.object (members error details))
  detailed : (∃ found text, Json.Value.reader.decode failure.response.body = .ok (.object found) ∧
      ("details", .text text) ∈ found) ↔ failure.kind = .internal ∨ failure.kind = .settings

/-- Every failure tells its status, its summary and its details. -/
theorem tells (failure : Failure) : Tells failure failure.status failure.summary failure.details := by
  cases failure
  all_goals constructor

/-- The document of a failure is read as its members. -/
theorem decode_document (failure : Failure) :
    Json.Value.reader.decode failure.document =
      .ok (.object (members failure.summary failure.details)) := by
  rw [document, Json.decode_writeObject]
  cases failure.details <;> rfl

/-- The members of an error document tell the error and the details. -/
theorem members_inj {error other : String} {details others : Option String}
    (h : members error details = members other others) : error = other ∧ details = others := by
  cases details <;> cases others <;> simp_all [members]

/-- Every failure is answered with its status and a document that holds its summary and details. -/
theorem answered (failure : Failure) : Answered failure := by
  constructor
  case status => rfl
  case wellFormed => exact Json.exists_document _
  case told => exact ⟨_, _, failure.tells, failure.decode_document⟩
  case detailed =>
    have decoded : Json.Value.reader.decode failure.response.body =
        .ok (.object (members failure.summary failure.details)) := failure.decode_document
    rw [decoded]
    cases failure
    all_goals simp [members, summary, details, kind]

/-- Kind and outermost message decide what is told, and are told. -/
theorem told_eq_iff (a b : Failure) :
    (a.status = b.status ∧ a.summary = b.summary ∧ a.details = b.details) ↔
      a.kind = b.kind ∧ a.outermost? = b.outermost? := by
  cases a <;> cases b
  all_goals simp [status, summary, details, kind, outermost?]

/-- Failures are answered alike exactly if their kinds and their outermost messages are the same. -/
theorem response_eq_iff (a b : Failure) :
    a.response = b.response ↔ a.kind = b.kind ∧ a.outermost? = b.outermost? := by
  rw [← told_eq_iff]
  constructor
  · intro same
    have sameDocument : a.document = b.document := congrArg Http.Response.body same
    have read := a.decode_document
    rw [sameDocument, b.decode_document] at read
    have told : members b.summary b.details = members a.summary a.details := by
      injection read with value
      injection value
    obtain ⟨sameSummary, sameDetails⟩ := members_inj told
    exact ⟨congrArg Http.Response.status same, sameSummary.symm, sameDetails.symm⟩
  · rintro ⟨sameStatus, sameSummary, sameDetails⟩
    rw [response, response, document, document, sameStatus, sameSummary, sameDetails]

/-- The faults that become failures keep their messages, and those of the gateway's own side are not
blamed on the client. -/
structure Conversions : Prop where
  responder (fault : ResponderFault) : fault.failure.outermost? = some fault.message ∧
    fault.failure.kind = match fault with | .notConfigured _ => .internal | _ => .badGateway
  bundle (fault : BundleFault) :
    fault.failure.outermost? = some fault.message ∧ fault.failure.kind = .internal
  system (fault : OsFault) : (Application.systemFailure fault).outermost? = some fault.message ∧
    (Application.systemFailure fault).kind = .internal
  configuration (fault : Config.Fault) :
    fault.failure.outermost? = some fault.text ∧ fault.failure.kind = .settings
  settings (fault : SettingsFault) :
    fault.failure.outermost? = some fault.message ∧ fault.failure.kind = .settings
  noClientError (failure : Failure) : (∃ fault : ResponderFault, fault.failure = failure) ∨
    (∃ fault : BundleFault, fault.failure = failure) →
      Http.Status.isClientError failure.response.status = false

/-- Only what a request asks for is blamed on the client. -/
theorem isClientError_iff (failure : Failure) :
    Http.Status.isClientError failure.response.status = true ↔
      failure.kind = .badRequest ∨ failure.kind = .notFound := by
  have told : failure.response.status = failure.status := rfl
  rw [told]
  cases failure
  all_goals simp [status, kind, Http.Status.isClientError]

/-- The faults of all parts keep their messages when they become failures. -/
theorem conversions : Conversions where
  responder fault := by cases fault <;> exact ⟨rfl, rfl⟩
  bundle _ := ⟨rfl, rfl⟩
  system _ := ⟨rfl, rfl⟩
  configuration _ := ⟨rfl, rfl⟩
  settings _ := ⟨rfl, rfl⟩
  noClientError failure := by
    rw [← Bool.not_eq_true, isClientError_iff]
    rintro (⟨fault, rfl⟩ | ⟨fault, rfl⟩)
    · cases fault <;> simp [ResponderFault.failure, kind]
    · simp [BundleFault.failure, kind]

/-- Every failure is answered with what its kind and its outermost message say, and with nothing else. -/
theorem failures_answered : (∀ failure, Answered failure) ∧
    (∀ a b : Failure, a.response = b.response ↔ a.kind = b.kind ∧ a.outermost? = b.outermost?) ∧
    Conversions :=
  ⟨answered, response_eq_iff, conversions⟩

end Failure

end ChatGateway
