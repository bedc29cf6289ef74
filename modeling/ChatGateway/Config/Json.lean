import ChatGateway.Config.Document
import ChatGateway.Json.Value

/-!
# Configuration in JSON

A number with a point or with an exponent is real, and so is what is kept of a whole one outside
of sixty-four binary places. Of several members of one name the last one counts.
-/

namespace ChatGateway.Config

open ChatGateway.Json (Value Number)

/-- A number as a setting. -/
def ofNumber : Number → Setting
  | .natural n => .whole n
  | .negative n => .whole (-n)
  | .float x => .real x
  | .large n x => .large n x

/-- A value as a setting. -/
def ofValue : Value → Setting
  | .null => .nothing
  | .truth b => .truth b
  | .number n => ofNumber n
  | .text t => .text t
  | .list _ => .list
  | .object _ => .table

/-- The document of a value. -/
def documentOf : Value → Document
  | .object members =>
    .table (members.foldl (fun all (name, value) => putMember all name (ofValue value)) [])
  | value => .other (ofValue value)

/-- The format. -/
def jsonFormat : Format where
  extensions := ["json"]
  read text :=
    let octets := Bytes.ofText text
    match Value.reader.decode octets with
    | .error fault => .error (fault.message octets)
    | .ok value => .ok (documentOf value)

end ChatGateway.Config
