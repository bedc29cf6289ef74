import ChatGateway.Http.Message

/-!
# Request targets

A target is a path with an optional query, an absolute address, a lone authority, or a star.
A fragment is dropped. What may stand in a path is more than the standard allows, and a query
may hold still more.
-/

namespace ChatGateway.Http.Target

/-- The greatest number of octets of a target. -/
def limit : Nat := 65534

/-- Whether an octet may stand in a path. -/
def isPathOctet (b : UInt8) : Bool :=
  b = 0x21 || (0x24 ≤ b && b ≤ 0x3B) || b = 0x3D || (0x40 ≤ b && b ≤ 0x5F) ||
    (0x61 ≤ b && b ≤ 0x7A) || b = 0x7C || 0x7E ≤ b || b = 0x22 || b = 0x7B || b = 0x7D

/-- Whether an octet may stand in a query. -/
def isQueryOctet (b : UInt8) : Bool :=
  b = 0x21 || (0x24 ≤ b && b ≤ 0x3B) || b = 0x3D || 0x3F ≤ b

/-- Whether a character may stand in a scheme. -/
def isSchemeChar (c : Char) : Bool := c.isAlphanum || c = '+' || c = '-' || c = '.'

/-- Whether a character may stand in an authority, a percent sign aside. -/
def isAuthorityChar (c : Char) : Bool :=
  c.isAlphanum || c = '!' || c = '$' || c = '&' || c = '\x27' || c = '(' || c = ')' || c = '*' ||
    c = '+' || c = ',' || c = '-' || c = '.' || c = ':' || c = ';' || c = '=' || c = '@' ||
    c = '[' || c = ']' || c = '_' || c = '~'

/-- Whether a character ends an authority. -/
def endsAuthority (c : Char) : Bool := c = '/' || c = '?' || c = '#'

/-- Whether all octets of a text are of a class. -/
def allOctets (p : UInt8 → Bool) (chars : List Char) : Bool :=
  (Bytes.ofText (String.ofList chars)).all p

/-- Why a text is no target. -/
inductive Fault where
  | empty
  | tooLong
  /-- An octet stands where it may not. -/
  | octet
  | schemeTooLong
  | authority
  /-- What should be an authority is something else. -/
  | form
  deriving DecidableEq, Repr

/-- The fault in words. -/
def Fault.message : Fault → String
  | empty => "empty string"
  | tooLong => "uri too long"
  | octet => "invalid uri character"
  | schemeTooLong => "scheme too long"
  | authority => "invalid authority"
  | form => "invalid format"

/-- Path and query, without the fragment. -/
def pathAndQuery (chars : List Char) : Except Fault (String × Option String) :=
  let path := chars.takeWhile fun c => c ≠ '?' && c ≠ '#'
  if !allOctets isPathOctet path then .error .octet
  else
    match chars.drop path.length with
    | '?' :: rest =>
      let query := rest.takeWhile (· ≠ '#')
      if allOctets isQueryOctet query then .ok (String.ofList path, some (String.ofList query))
      else .error .octet
    | _ => .ok (String.ofList path, none)

/-- What has been seen of an authority. -/
structure Seen where
  colons : Nat := 0
  percent : Bool := false
  opened : Bool := false
  closed : Bool := false

/-- Looks at one character of an authority. -/
def Seen.next (seen : Seen) (c : Char) : Except Fault Seen :=
  if c = '%' then .ok { seen with percent := true }
  else if !isAuthorityChar c then .error .octet
  else if c = ':' then
    if 8 ≤ seen.colons then .error .authority else .ok { seen with colons := seen.colons + 1 }
  else if c = '[' then
    if seen.percent || seen.opened then .error .authority else .ok { seen with opened := true }
  else if c = ']' then
    if !seen.opened || seen.closed then .error .authority
    else .ok { seen with closed := true, colons := 0, percent := false }
  else if c = '@' then .ok { seen with colons := 0, percent := false }
  else .ok seen

/-- Looks at the characters of an authority. -/
def lookAt (seen : Seen) : List Char → Except Fault Seen
  | [] => .ok seen
  | c :: rest =>
    match seen.next c with
    | .error fault => .error fault
    | .ok seen => lookAt seen rest

/-- Checks that the characters are an authority. -/
def checkAuthority (chars : List Char) : Except Fault Unit :=
  match lookAt {} chars with
  | .error fault => .error fault
  | .ok seen =>
    if seen.opened == seen.closed && seen.colons ≤ 1 && !seen.percent &&
      chars.getLast? != some '@' then .ok ()
    else .error .authority

/-- The scheme before `://`, and what follows. -/
def scheme? (chars : List Char) : Option (List Char × List Char) :=
  let name := chars.takeWhile isSchemeChar
  match chars.drop name.length with
  | ':' :: '/' :: '/' :: rest => if name.isEmpty && rest.isEmpty then none else some (name, rest)
  | _ => none

/-- The greatest number of characters of a scheme. -/
def schemeLimit : Nat := 64

/-- An authority of its own, which has no path. -/
def authorityOnly (chars : List Char) : Except Fault Target :=
  let authority := chars.takeWhile (!endsAuthority ·)
  match checkAuthority authority with
  | .error fault => .error fault
  | .ok () =>
    if authority = chars then .ok ⟨String.ofList chars, "", none⟩
    else .error (if chars.length = 1 then .octet else .form)

/-- An authority and what follows it, behind a scheme. -/
def behindScheme (scheme : String) (rest : List Char) : Except Fault Target :=
  let authority := rest.takeWhile (!endsAuthority ·)
  match checkAuthority authority with
  | .error fault => .error fault
  | .ok () =>
    if authority.isEmpty then .error .form
    else
      match pathAndQuery (rest.drop authority.length) with
      | .error fault => .error fault
      | .ok (path, query) =>
        .ok ⟨scheme ++ "://" ++ String.ofList authority, if path.isEmpty then "/" else path, query⟩

/-- A scheme as it is shown: the two common ones in lower case. -/
def shownScheme (name : List Char) : String :=
  let lowered := String.ofList (name.map Char.toLower)
  if lowered = "http" || lowered = "https" then lowered else String.ofList name

/-- A target from its text. -/
def parse (text : String) : Except Fault Target :=
  let chars := text.toList
  if limit < text.utf8ByteSize then .error .tooLong
  else if chars.isEmpty then .error .empty
  else if text = "*" then .ok ⟨"", "*", none⟩
  else if chars.head? = some '/' then
    match pathAndQuery chars with
    | .error fault => .error fault
    | .ok (path, query) => .ok ⟨"", path, query⟩
  else
    match scheme? chars with
    | none => authorityOnly chars
    | some (name, rest) =>
      if schemeLimit < name.length then .error .schemeTooLong else behindScheme (shownScheme name) rest

/-- A target from its text, if it is one. -/
def parse? (text : String) : Option Target := (parse text).toOption

end ChatGateway.Http.Target
