import ChatGateway.Json.Record

/-!
# The address to listen on

A host and a port, each with a default of its own.
-/

namespace ChatGateway

/-- Where the gateway listens. -/
structure ListenAddress where
  host : String := "0.0.0.0"
  port : Nat := 5000
  deriving DecidableEq, Repr

namespace ListenAddress

/-- The greatest port. -/
def portLimit : Nat := 65535

/-- The host and the port around a colon. -/
def text (address : ListenAddress) : String :=
  address.host ++ ":" ++ Text.decimal address.port

/-- The settings that a source gives, each of them optional. -/
structure Given where
  host : Option String := none
  port : Option Nat := none

/-- The address with defaults for what is not given. -/
def ofGiven (given : Given) : ListenAddress :=
  let standard : ListenAddress := {}
  ⟨given.host.getD standard.host, given.port.getD standard.port⟩

/-- The form of an address. -/
def shape : Json.Shape Given ListenAddress where
  title := "struct Config"
  members := [
    ⟨"host", (·.host.isSome), Json.Reader.text.map fun host given => { given with host := some host }⟩,
    ⟨"port", (·.port.isSome),
      (Json.Reader.upTo portLimit "u16").map fun port given => { given with port := some port }⟩]
  empty := {}
  finish given := .ok (ofGiven given)

end ListenAddress

end ChatGateway
