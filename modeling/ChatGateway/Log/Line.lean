import ChatGateway.Json.Writer
import ChatGateway.Log

/-!
# Lines of the log

An event is written as one object on a line of its own: its level, its message, its fields, and
the part of the program that speaks.
-/

namespace ChatGateway

/-- The value of a field as it is written. -/
def LogValue.document : LogValue → Bytes
  | text value => Json.writeText value
  | number value => Bytes.ofText (Text.decimal value)
  | duration => Json.writeText "0 ms"

/-- The members of an event as they are written. -/
def LogEvent.members (event : LogEvent) : List (String × Bytes) :=
  [("level", Json.writeText event.level.name), ("message", Json.writeText event.message)] ++
    (event.fields.map fun (name, value) => (name, value.document)) ++
    [("target", Json.writeText event.target)]

/-- The line of an event. -/
def LogEvent.line (event : LogEvent) : Bytes :=
  let members := event.members.map fun (name, value) => Json.writeText name ++ 0x3A :: value
  0x7B :: (members.intersperse [0x2C]).flatten ++ [0x7D]

end ChatGateway
