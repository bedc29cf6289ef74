import ChatGateway.Http.Header
import ChatGateway.Http.Status

/-!
# Requests and responses

A response is a status, header fields and a body. A request has a method, a target,
header fields and a body; on its way inwards it also learns its id and the template of the
route it is for.
-/

namespace ChatGateway.Http

/-- What a request is for: scheme and authority, if they are named, a path, and a query. -/
structure Target where
  origin : String := ""
  path : String
  query : Option String := none
  deriving DecidableEq, Repr

/-- A query behind its mark, or nothing. -/
def queryText : Option String → String
  | none => ""
  | some query => "?" ++ query

/-- The written form of a target. -/
def Target.text (target : Target) : String :=
  target.origin ++ target.path ++ queryText target.query

/-- A request on its way to a handler. -/
structure Request where
  method : String
  target : Target
  headers : Headers
  body : Bytes
  /-- The id under which the request is known, once it has been given one. -/
  id : Option String := none
  /-- The template of the route that serves the request, if one does. -/
  route : Option String := none

/-- A response. -/
structure Response where
  status : Status
  headers : Headers
  body : Bytes
  deriving DecidableEq, Repr

namespace Response

/-- A response without a body. -/
def empty (status : Status) : Response := ⟨status, [], []⟩

/-- A response of a media type. -/
def typed (status : Status) (mediaType : String) (body : Bytes) : Response :=
  ⟨status, Headers.ofTexts [("content-type", mediaType)], body⟩

/-- A response with a JSON document. -/
def json (status : Status) (document : Bytes) : Response := typed status "application/json" document

/-- A response with plain text. -/
def text (status : Status) (text : String) : Response :=
  typed status "text/plain; charset=utf-8" (Bytes.ofText text)

/-- A response with a page. -/
def page (text : String) : Response := typed 200 "text/html; charset=utf-8" (Bytes.ofText text)

end Response

end ChatGateway.Http
