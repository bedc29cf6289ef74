/-!
# Log events

What the gateway logs: a level, the part of the program that speaks, a message, and named
fields. An event that is logged while a request is served carries the span of that request.
-/

namespace ChatGateway

/-- How important an event is. -/
inductive LogLevel where
  | trace
  | debug
  | info
  | warn
  | error
  deriving DecidableEq, Repr

/-- The level's name. -/
def LogLevel.name : LogLevel → String
  | trace => "TRACE"
  | debug => "DEBUG"
  | info => "INFO"
  | warn => "WARN"
  | error => "ERROR"

/-- The value of a field. -/
inductive LogValue where
  | text (value : String)
  | number (value : Nat)
  /-- A duration, which no two runs share. -/
  | duration
  deriving DecidableEq, Repr

/-- The request that is being served: its name and fields. -/
structure LogSpan where
  name : String
  fields : List (String × String)
  deriving DecidableEq, Repr

/-- One event. -/
structure LogEvent where
  level : LogLevel
  /-- The part of the program that speaks. -/
  target : String
  message : String
  fields : List (String × LogValue) := []
  span : Option LogSpan := none
  deriving DecidableEq, Repr

/-- The event inside a span. -/
def LogEvent.within (event : LogEvent) (span : LogSpan) : LogEvent :=
  { event with span := some span }

end ChatGateway
