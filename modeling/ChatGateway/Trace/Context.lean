import ChatGateway.Http.Header
import ChatGateway.Text.Natural

/-!
# Trace context

The identity of a span of work: the trace it belongs to, its own number, flags, and what
other tracers have noted. It travels in two header fields, and the id of the request in a
third. Each field is written only if its value is a legal one; nothing else is touched.
-/

namespace ChatGateway.Trace

/-- The identity of a span. -/
structure SpanContext where
  traceId : BitVec 128
  spanId : BitVec 64
  flags : BitVec 8
  /-- What other tracers have noted, in order. -/
  state : List (String × String)
  deriving DecidableEq, Repr

namespace SpanContext

/-- A span is identified if neither its trace nor its own number is zero. -/
def isValid (context : SpanContext) : Bool := context.traceId ≠ 0 && context.spanId ≠ 0

/-- The identity in hexadecimal digits of fixed width. -/
def parentText (context : SpanContext) : String :=
  "00-" ++ String.ofList (Text.hexDigits 32 context.traceId.toNat) ++
    "-" ++ String.ofList (Text.hexDigits 16 context.spanId.toNat) ++
    "-" ++ String.ofList (Text.hexDigits 2 context.flags.toNat)

/-- What other tracers have noted, on one line. -/
def stateText (context : SpanContext) : String :=
  ",".intercalate (context.state.map fun (key, value) => key ++ "=" ++ value)

end SpanContext

/-- The field with the identity of the span. -/
def parentField : String := "traceparent"

/-- The field with the notes of other tracers. -/
def stateField : String := "tracestate"

/-- The field with the id of the request. -/
def requestIdField : String := "x-request-id"

/-- Makes a text the only value of a field, if it may stand there. -/
def setLegal (headers : Http.Headers) (name text : String) : Http.Headers :=
  if Http.isFieldValue (Bytes.ofText text) then headers.setText name text else headers

/-- Writes the identity of the current span, if there is one. -/
def writeContext (headers : Http.Headers) (current : Option SpanContext) : Http.Headers :=
  match current.filter (·.isValid) with
  | none => headers
  | some context =>
    let headers := setLegal headers parentField context.parentText
    if context.stateText.isEmpty then headers else setLegal headers stateField context.stateText

/-- Writes the identity of the current span and the id of the request. -/
def write (headers : Http.Headers) (current : Option SpanContext) (id : Option String) :
    Http.Headers :=
  let headers := writeContext headers current
  match id with
  | none => headers
  | some id => setLegal headers requestIdField id

end ChatGateway.Trace
