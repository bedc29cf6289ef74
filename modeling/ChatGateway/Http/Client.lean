import ChatGateway.Http.Message
import ChatGateway.Http.Target
import ChatGateway.Http.Url
import ChatGateway.Text.Base64

/-!
# Fetching

A client sends a request to an address and follows the redirections that it is answered with,
up to a limit. What the network does is a function from the request and the network's state;
it may fail before an answer starts, and an answer may be cut off.

A redirection that means "look there" is followed without the body and by reading, one that
means "ask there" is followed by the same request. Either says which address has sent it there.
Fields that the connection itself adds to a request are not part of it here.
-/

namespace ChatGateway.Http

/-- A request on its way out. -/
structure Outbound where
  method : String
  url : Url
  headers : Headers
  body : Bytes
  deriving DecidableEq, Repr

/-- An answer from the network. -/
structure Received where
  status : Status
  /-- The phrase behind the status, if the peer chose one of its own. -/
  phrase : Option String := none
  headers : Headers
  /-- What came of the body. -/
  body : Bytes
  /-- Whether all of the body came. -/
  complete : Bool := true
  deriving DecidableEq, Repr

/-- How sending one request ends. -/
inductive Exchange where
  /-- No answer started. -/
  | failed
  | answered (received : Received)
  deriving DecidableEq, Repr

/-- A network with a state of its own. -/
structure Network (σ : Type) where
  exchange : Outbound → σ → Exchange × σ

/-- The network on which nobody can be reached. -/
def Network.unreachable (σ : Type) : Network σ := ⟨fun _ state => (.failed, state)⟩

/-- Why a client has no answer to use. -/
inductive FetchFault where
  /-- The address cannot be used; it is known if it could be read. -/
  | unusable (url : Option Url)
  | unsent (url : Url)
  | tooManyRedirects (url : Url)
  /-- The answer puts the blame on the client or on the server. -/
  | refused (received : Received) (url : Url)
  /-- The body did not come in full, or is not what was expected. -/
  | unreadable
  deriving DecidableEq, Repr

namespace FetchFault

/-- The address that a fault is about, in words. -/
def about (url : Url) : String := " for url (" ++ url.text ++ ")"

/-- The status of an answer in words. -/
def statusText (received : Received) : String :=
  match received.phrase with
  | some phrase => Text.decimal received.status ++ " " ++ phrase
  | none => received.status.text

/-- The fault in words. -/
def message : FetchFault → String
  | unusable none => "builder error"
  | unusable (some url) => "builder error" ++ about url
  | unsent url => "error sending request" ++ about url
  | tooManyRedirects url => "error following redirect" ++ about url
  | refused received url =>
    (if received.status.isClientError then "HTTP status client error ("
      else "HTTP status server error (") ++ statusText received ++ ")" ++ about url
  | unreadable => "error decoding response body"

end FetchFault

/-- An answer and the address that gave it. -/
structure Final where
  received : Received
  url : Url
  deriving DecidableEq, Repr

/-- How fetching ends: the last answer or a fault, the state of the network, and every request
that was sent, in order. -/
structure Fetched (σ : Type) where
  result : Except FetchFault Final
  state : σ
  sent : List Outbound

/-- Puts a request before those that were sent. -/
def Fetched.precede {σ : Type} (request : Outbound) (fetched : Fetched σ) : Fetched σ :=
  { fetched with sent := request :: fetched.sent }

namespace Client

/-- How many redirections are followed. -/
def redirectLimit : Nat := 10

/-- Whether an address can be asked: its scheme is known, and it fits into a request. -/
def isUsable (url : Url) : Bool :=
  (url.scheme = "http" || url.scheme = "https") && (Target.parse? url.text).isSome

/-- The fields that describe a body. -/
def bodyFields : List String :=
  ["transfer-encoding", "content-encoding", "content-type", "content-length"]

/-- A request that reads at an address instead of repeating itself. -/
def readingInstead (request : Outbound) : Outbound :=
  { request with
    method := "GET"
    headers := bodyFields.foldl Headers.erase request.headers
    body := [] }

/-- The request that a redirecting status asks for, its address aside. -/
def redirected? (request : Outbound) (status : Status) : Option Outbound :=
  if [301, 302, 303].contains status then some (readingInstead request)
  else if [307, 308].contains status then some request
  else none

/-- The field that says who asks. -/
def authorizationField : String := "authorization"

/-- The port that an address leads to. -/
def effectivePort (url : Url) : Option Nat := url.port.or (Url.impliedPorts.lookup url.scheme)

/-- Whether two addresses lead to the same host and port. -/
def sameHost (a b : Url) : Bool := a.host = b.host && effectivePort a = effectivePort b

/-- The field that says where a request was redirected. -/
def refererField : String := "referer"

/-- What a request that is sent on tells of the address it comes from: neither its credentials nor its
fragment, and nothing at all where the connection is no longer a secret one. -/
def referer? (previous next : Url) : Option String :=
  if next.scheme = "http" && previous.scheme = "https" then none
  else some { previous with credentials := none, fragment := none }.text

/-- Sends a request elsewhere; who asks is not told to another host. -/
def atUrl (request : Outbound) (url : Url) : Outbound :=
  let headers :=
    if sameHost request.url url then request.headers
    else request.headers.erase authorizationField
  { request with
    url
    headers :=
      match referer? request.url url with
      | some text => headers.setText refererField text
      | none => headers }

/-- The address that an answer refers to. -/
def location? (url : Url) (received : Received) : Option Url :=
  ((received.headers.get? "location").bind Bytes.toText?).bind fun text =>
    (url.resolve? text).filter fun next => (Target.parse? next.text).isSome

/-- The request that an answer asks for, if it asks for one. -/
def next? (request : Outbound) (received : Received) : Option Outbound :=
  (redirected? request received.status).bind fun repeated =>
    (location? request.url received).map (atUrl repeated)

variable {σ : Type}

/-- Sends a request and follows redirections, at most as many as are left. -/
def follow (network : Network σ) (left : Nat) (request : Outbound) (state : σ) : Fetched σ :=
  match network.exchange request state with
  | (.failed, state) => ⟨.error (.unsent request.url), state, [request]⟩
  | (.answered received, state) =>
    match next? request received with
    | none => ⟨.ok ⟨received, request.url⟩, state, [request]⟩
    | some next =>
      match left with
      | 0 => ⟨.error (.tooManyRedirects request.url), state, [request]⟩
      | left + 1 =>
        if isUsable next.url then (follow network left next state).precede request
        else ⟨.error (.unusable (some next.url)), state, [request]⟩

/-- The name and the password of an address, decoded. -/
def decoded? (credentials : Credentials) : Option (String × String) :=
  let decode := fun text => Bytes.toText? (Text.Percent.decode (Bytes.ofText text))
  (decode credentials.user).map fun user => (user, (credentials.password.bind decode).getD "")

/-- The field for a name and a password. -/
def authorization (user password : String) : Header :=
  let joined := Bytes.ofText (user ++ ":" ++ password)
  ⟨authorizationField, Bytes.ofText ("Basic " ++ String.ofList (Text.Base64.encode joined))⟩

/-- Moves the credentials of an address into the fields. -/
def withCredentials (url : Url) (headers : Headers) : Url × Headers :=
  match url.credentials.bind decoded? with
  | none => (url, headers)
  | some (user, password) => ({ url with credentials := none }, authorization user password :: headers)

/-- Sends a request to the address that a text gives. -/
def send (network : Network σ) (method address : String) (headers : Headers) (body : Bytes)
    (state : σ) : Fetched σ :=
  match Url.parse? address with
  | none => ⟨.error (.unusable none), state, []⟩
  | some url =>
    let (url, headers) := withCredentials url headers
    if isUsable url then
      follow network redirectLimit
        ⟨method, url, headers.setMissing "accept" (Bytes.ofText "*/*"), body⟩ state
    else ⟨.error (.unusable (some url)), state, []⟩

end Client

end ChatGateway.Http
