import ChatGateway.Http.Host
import ChatGateway.Text.Blank

/-!
# Addresses

An address names a resource: a scheme, the host that answers, a path on it, and a query. Each
address has one written form, in which hosts are normal, ports that go without saying are left
out, paths have no dots to follow, and characters that may not stand for themselves are
escaped. `Url.parse?` brings a text into that form, `Url.resolve?` a reference that an answer
gives relative to another address.
-/

namespace ChatGateway.Http

/-- The path of an address: names from the root, or a text without structure. -/
inductive UrlPath where
  | names (names : List String)
  | plain (text : String)
  deriving DecidableEq, Repr

/-- The name and the password in an address, as they are written there. -/
structure Credentials where
  user : String
  password : Option String := none
  deriving DecidableEq, Repr

/-- An address. -/
structure Url where
  scheme : String
  credentials : Option Credentials := none
  /-- The written form of the host; none if the address names no authority at all. -/
  host : Option String := none
  /-- The port, unless it is that of the scheme. -/
  port : Option Nat := none
  path : UrlPath
  query : Option String := none
  fragment : Option String := none
  deriving DecidableEq, Repr

namespace Url

/-! ## Written form -/

/-- The credentials before the host. -/
def credentialsText : Option Credentials → String
  | none => ""
  | some ⟨user, none⟩ => user ++ "@"
  | some ⟨user, some password⟩ => user ++ ":" ++ password ++ "@"

/-- The port behind the host. -/
def portText : Option Nat → String
  | none => ""
  | some port => ":" ++ Text.decimal port

/-- The host and what stands around it. A path that starts with an empty name needs a dot in
front of it where there is no host. -/
def authorityText (url : Url) : String :=
  match url.host, url.path with
  | some host, _ => "//" ++ credentialsText url.credentials ++ host ++ portText url.port
  | none, .names ("" :: _ :: _) => "/."
  | none, _ => ""

/-- The written form of a path. -/
def pathText : UrlPath → String
  | .names names => String.join (names.map ("/" ++ ·))
  | .plain text => text

/-- An optional text behind a mark. -/
def markedText (mark : String) : Option String → String
  | none => ""
  | some text => mark ++ text

/-- The written form of an address. -/
def text (url : Url) : String :=
  url.scheme ++ ":" ++ url.authorityText ++ pathText url.path ++ markedText "?" url.query ++
    markedText "#" url.fragment

/-- What is asked for at the host: the path with the query. -/
def target (url : Url) : String := pathText url.path ++ markedText "?" url.query

/-! ## Characters that stand for themselves -/

/-- Whether a character of the basic range can be seen. -/
def isGraphic (c : Char) : Bool := '!' ≤ c && c ≤ '~'

/-- Whether a character stands for itself in a path without structure. -/
def isPlainLoose (c : Char) : Bool := ' ' ≤ c && c ≤ '~'

/-- Whether a character stands for itself in a fragment. -/
def isPlainInFragment (c : Char) : Bool :=
  isGraphic c && !(c = '"' || c = '<' || c = '>' || c = '\x60')

/-- Whether a character stands for itself in a path. -/
def isPlainInPath (c : Char) : Bool :=
  isPlainInFragment c && !(c = '#' || c = '?' || c = '{' || c = '}')

/-- Whether a character stands for itself in a name or a password. -/
def isPlainInCredentials (c : Char) : Bool :=
  isPlainInPath c && !("/:;=@[\\]^|".toList.contains c)

/-- Whether a character stands for itself in a query; with a host's path an apostrophe does
not. -/
def isPlainInQuery (special : Bool) (c : Char) : Bool :=
  isGraphic c && !(c = '"' || c = '#' || c = '<' || c = '>') && !(special && c = '\x27')

/-- A part of an address with everything escaped that is not plain. -/
def escaped (isPlain : Char → Bool) (chars : List Char) : String :=
  String.ofList (Text.Percent.encode isPlain chars)

/-! ## Schemes -/

/-- The schemes whose addresses always name a host, with the ports they imply. -/
def impliedPorts : List (String × Nat) :=
  [("http", 80), ("https", 443), ("ws", 80), ("wss", 443), ("ftp", 21)]

/-- The scheme of local files. -/
def fileScheme : String := "file"

/-- Whether a scheme is one of those with special rules. -/
def isSpecial (scheme : String) : Bool :=
  scheme = fileScheme || (impliedPorts.lookup scheme).isSome

/-- Whether a character may follow the first one of a scheme. -/
def isSchemeChar (c : Char) : Bool := c.isAlphanum || c = '+' || c = '-' || c = '.'

/-- The scheme before the first colon, and what follows it. -/
def scheme? (chars : List Char) : Option (String × List Char) :=
  let name := chars.takeWhile isSchemeChar
  match chars.head?, chars.drop name.length with
  | some first, ':' :: rest =>
    if first.isAlpha then some (String.ofList (name.map Char.toLower), rest) else none
  | _, _ => none

/-! ## Paths -/

/-- Whether a character separates the names of a path. -/
def isSeparator (special : Bool) (c : Char) : Bool := c = '/' || (special && c = '\\')

/-- Whether a name means the directory itself. -/
def isDot (name : String) : Bool := name = "." || Text.lower name = "%2e"

/-- Whether a name means the directory above. -/
def isDoubleDot (name : String) : Bool :=
  ["..", ".%2e", "%2e.", "%2e%2e"].contains (Text.lower name)

/-- Whether a name is that of a drive. -/
def isDrive (name : String) : Bool :=
  match name.toList with
  | [letter, mark] => letter.isAlpha && (mark = ':' || mark = '|')
  | _ => false

/-- The names without the last one, which a drive keeps. -/
def shorten (scheme : String) (names : List String) : List String :=
  match names with
  | [only] => if scheme = fileScheme && isDrive only then names else []
  | _ => names.dropLast

/-- Follows one more name; `isLast` says that no separator follows it. -/
def follow (scheme : String) (names : List String) (name : String) (isLast : Bool) : List String :=
  if isDoubleDot name then shorten scheme names ++ (if isLast then [""] else [])
  else if isDot name then names ++ (if isLast then [""] else [])
  else if scheme = fileScheme && names.isEmpty && isDrive name then
    [String.ofList (name.toList.take 1) ++ ":"]
  else names ++ [name]

/-- Follows names from those that are given. -/
def followAll (scheme : String) (names : List String) : List String → List String
  | [] => names
  | name :: rest => followAll scheme (follow scheme names name rest.isEmpty) rest

/-- The names of a path's text. -/
def namesOf (special : Bool) (chars : List Char) : List String :=
  (chars.splitOnP (isSeparator special)).map (escaped isPlainInPath)

/-- The path that a text adds to given names. -/
def pathFrom (scheme : String) (names : List String) (chars : List Char) : UrlPath :=
  .names (followAll scheme names (namesOf (isSpecial scheme) chars))

/-- The path behind a host. -/
def pathBehindHost (scheme : String) (chars : List Char) : UrlPath :=
  match chars with
  | [] => if isSpecial scheme then .names [""] else .names []
  | c :: rest =>
    if isSeparator (isSpecial scheme) c then pathFrom scheme [] rest else pathFrom scheme [] chars

/-! ## Hosts -/

/-- Whether a character ends the part of an address that names the host. -/
def endsAuthority (special : Bool) (c : Char) : Bool :=
  isSeparator special c || c = '?' || c = '#'

/-- The part before the last `@`, if there is one, and the part behind it. -/
def splitCredentials (chars : List Char) : Option (List Char) × List Char :=
  let behind := (chars.reverse.takeWhile (· ≠ '@')).reverse
  if behind.length = chars.length then (none, chars)
  else (some (chars.take (chars.length - behind.length - 1)), behind)

/-- The credentials that a text gives, if it gives any. -/
def credentials? (chars : List Char) : Option Credentials :=
  let user := escaped isPlainInCredentials (chars.takeWhile (· ≠ ':'))
  let password := escaped isPlainInCredentials ((chars.dropWhile (· ≠ ':')).drop 1)
  if user.isEmpty && password.isEmpty then none
  else some ⟨user, if password.isEmpty then none else some password⟩

/-- The length of the host before a colon that is in no brackets. -/
def hostLength (inBrackets : Bool) : List Char → Nat
  | [] => 0
  | c :: rest =>
    if c = ':' && !inBrackets then 0
    else 1 + hostLength (c = '[' || (inBrackets && c ≠ ']')) rest

/-- Whether a character may not stand in the name of a host of a scheme without rules. -/
def isForbiddenLoose (c : Char) : Bool := "\x00 #/:<>?@[\\]^|".toList.contains c

/-- The written form of a host. -/
def host? (scheme : String) (chars : List Char) : Option String :=
  if isSpecial scheme then Host.parse? chars
  else
    match chars with
    | '[' :: _ => Host.parse? chars
    | _ => if chars.any isForbiddenLoose then none else some (escaped isPlainLoose chars)

/-- The greatest port. -/
def portLimit : Nat := 65535

/-- The port behind a colon: absent where nothing follows, or where it goes without saying. -/
def port? (scheme : String) (chars : List Char) : Option (Option Nat) :=
  if chars.isEmpty then some none
  else
    match Text.digits? chars with
    | none => none
    | some port =>
      if portLimit < port then none
      else some (if impliedPorts.lookup scheme = some port then none else some port)

/-- An address whose scheme and path are still to come. -/
structure Authority where
  credentials : Option Credentials
  host : String
  port : Option Nat

/-- The part of an address that names the host. -/
def authority? (scheme : String) (chars : List Char) : Option Authority :=
  let (before, place) := splitCredentials chars
  let name := place.take (hostLength false place)
  let credentials := before.bind credentials?
  match host? scheme name, place.drop name.length with
  | none, _ => none
  | some host, behind =>
    if name.isEmpty && (credentials.isSome || !behind.isEmpty || before.isSome) then none
    else (port? scheme (behind.drop 1)).map fun port => ⟨credentials, host, port⟩

/-! ## Reading -/

/-- A text without what may surround an address and be scattered in it. -/
def cleaned (text : String) : List Char :=
  let isEdge := fun c : Char => c ≤ ' '
  let chars := ((text.toList.dropWhile isEdge).reverse.dropWhile isEdge).reverse
  chars.filter fun c => c ≠ '\t' && c ≠ '\n' && c ≠ '\r'

/-- A path's text, the query and the fragment behind it. -/
structure Tail where
  path : List Char
  query : Option (List Char)
  fragment : Option (List Char)

/-- Takes a text apart at the first `#` and the first `?` before it. -/
def Tail.of (chars : List Char) : Tail :=
  let before := chars.takeWhile (· ≠ '#')
  let path := before.takeWhile (· ≠ '?')
  let optional := fun (all : List Char) (length : Nat) =>
    if length < all.length then some (all.drop (length + 1)) else none
  ⟨path, optional before path.length, optional chars before.length⟩

/-- An address with the query and the fragment of a text. -/
def Tail.finish (tail : Tail) (url : Url) : Url :=
  { url with
    query := tail.query.map (escaped (isPlainInQuery (isSpecial url.scheme)))
    fragment := tail.fragment.map (escaped isPlainInFragment) }

/-- Reads what follows the two slashes before a host. -/
def behindSlashes? (scheme : String) (chars : List Char) : Option Url :=
  let special := isSpecial scheme
  let authority := chars.takeWhile (!endsAuthority special ·)
  let tail := Tail.of (chars.drop authority.length)
  (authority? scheme authority).map fun a =>
    tail.finish {
      scheme, credentials := a.credentials, host := some a.host, port := a.port
      path := pathBehindHost scheme tail.path }

/-- Reads the host and the path of a local file. -/
def fileBehindSlashes? (chars : List Char) : Option Url :=
  let name := chars.takeWhile (!endsAuthority true ·)
  let isPath := isDrive (String.ofList name)
  let host := if isPath || name.isEmpty then some "" else Host.parse? name
  let tail := Tail.of (if isPath then chars else chars.drop name.length)
  host.map fun host =>
    tail.finish {
      scheme := fileScheme, host := some (if host = "localhost" then "" else host)
      path := pathBehindHost fileScheme tail.path }

/-- Reads what follows the scheme of local files. -/
def file? (chars : List Char) : Option Url :=
  match chars with
  | a :: b :: rest =>
    if isSeparator true a && isSeparator true b then fileBehindSlashes? rest
    else
      let tail := Tail.of chars
      some (tail.finish
        { scheme := fileScheme, host := some "", path := pathBehindHost fileScheme tail.path })
  | _ =>
    let tail := Tail.of chars
    some (tail.finish
      { scheme := fileScheme, host := some "", path := pathBehindHost fileScheme tail.path })

/-- Reads what follows a scheme without special rules. -/
def loose? (scheme : String) (chars : List Char) : Option Url :=
  match chars with
  | '/' :: '/' :: rest => behindSlashes? scheme rest
  | '/' :: rest =>
    let tail := Tail.of rest
    some (tail.finish { scheme, path := pathFrom scheme [] tail.path })
  | _ =>
    let tail := Tail.of chars
    some (tail.finish { scheme, path := .plain (escaped isPlainLoose tail.path) })

/-- Reads what follows a scheme. -/
def behindScheme? (scheme : String) (chars : List Char) : Option Url :=
  if scheme = fileScheme then file? chars
  else if isSpecial scheme then behindSlashes? scheme (chars.dropWhile (isSeparator true))
  else loose? scheme chars

/-- The address that a text gives. -/
def parse? (text : String) : Option Url :=
  (scheme? (cleaned text)).bind fun (scheme, rest) => behindScheme? scheme rest

/-- The names of an address's path. -/
def names (url : Url) : List String :=
  match url.path with
  | .names names => names
  | .plain _ => []

/-- The address that a text without scheme gives, seen from an address with a special one. -/
def relative? (base : Url) (chars : List Char) : Option Url :=
  let slashes := (chars.takeWhile (isSeparator true)).length
  if 2 ≤ slashes then behindSlashes? base.scheme (chars.drop slashes)
  else
    let tail := Tail.of chars
    if 1 ≤ slashes then
      some (tail.finish { base with path := pathBehindHost base.scheme tail.path })
    else if tail.path.isEmpty then
      let read := tail.finish base
      some (if tail.query.isSome then read else { read with query := base.query })
    else some (tail.finish { base with path := pathFrom base.scheme base.names.dropLast tail.path })

/-- The address that a text gives, seen from an address with a special scheme. -/
def resolve? (base : Url) (text : String) : Option Url :=
  let chars := cleaned text
  match scheme? chars with
  | none => relative? base chars
  | some (scheme, rest) =>
    let slashes := (rest.takeWhile (isSeparator true)).length
    if scheme = base.scheme && slashes < 2 then relative? base rest else behindScheme? scheme rest

end Url

end ChatGateway.Http
