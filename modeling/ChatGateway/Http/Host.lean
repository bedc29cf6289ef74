import ChatGateway.Http.Punycode
import ChatGateway.Text.Percent

/-!
# Hosts

A host is a name, four numbers, or eight groups of hexadecimal digits in brackets. Each is
written in one form only: names in lower case, numbers in decimal, and groups without leading
zeros and with the longest run of zero groups left out.
-/

namespace ChatGateway.Http.Host

/-! ## Four numbers -/

/-- The value of one number, in decimal, in octal behind a zero, or in hexadecimal. -/
def part? (s : List Char) : Option Nat :=
  match s with
  | [] => none
  | '0' :: 'x' :: rest | '0' :: 'X' :: rest => if rest.isEmpty then some 0 else Text.inBase? 16 rest
  | '0' :: c :: rest => Text.inBase? 8 (c :: rest)
  | _ => Text.inBase? 10 s

/-- The parts of a host between dots, without an empty last one. -/
def dotted (s : List Char) : List (List Char) :=
  let all := s.splitOn '.'
  if all.getLast? = some [] && 1 < all.length then all.dropLast else all

/-- Whether a host has to be read as numbers: its last part is one. -/
def endsInNumber (s : List Char) : Bool :=
  match (dotted s).getLast? with
  | none | some [] => false
  | some last => last.all Char.isDigit || (part? last).isSome

/-- The four octets of a number. -/
def octetsText (n : Nat) : String :=
  ".".intercalate ([24, 16, 8, 0].map fun shift => Text.decimal ((n >>> shift) % 256))

/-- The written form of a host of numbers. The last number fills the octets that are left. -/
def numeric? (s : List Char) : Option String :=
  match (dotted s).mapM part? with
  | none => none
  | some numbers =>
    let count := numbers.length
    let last := (numbers.getLast?).getD 0
    let first := numbers.dropLast
    if 4 < count || first.any (255 < ·) || Nat.pow 256 (5 - count) ≤ last then none
    else
      let high := (first.zipIdx).foldl (fun sum (n, i) => sum + n * Nat.pow 256 (3 - i)) 0
      some (octetsText (high + last))

/-! ## Eight groups -/

/-- The value of a group of up to four hexadecimal digits. -/
def group? (s : List Char) : Option Nat := if 4 < s.length then none else Text.inBase? 16 s

/-- The value of one of four numbers at the end of a host of groups. -/
def strictOctet? (s : List Char) : Option Nat :=
  match s with
  | '0' :: _ :: _ => none
  | _ => (Text.digits? s).filter (· ≤ 255)

/-- The values of groups between colons; the last may be four numbers. -/
def groups? (s : List Char) : Option (List Nat) :=
  if s.isEmpty then some []
  else
    let all := s.splitOn ':'
    let last := (all.getLast?).getD []
    if last.contains '.' then
      match (last.splitOn '.').mapM strictOctet?, all.dropLast.mapM group? with
      | some [a, b, c, d], some before => some (before ++ [a * 256 + b, c * 256 + d])
      | _, _ => none
    else all.mapM group?

/-- The part of a text before the first pair of colons, and the part after it. -/
def splitGap (before : List Char) : List Char → Option (List Char × List Char)
  | ':' :: ':' :: rest => some (before.reverse, rest)
  | [] => none
  | c :: rest => splitGap (c :: before) rest

/-- The eight groups of a host in brackets. -/
def eightGroups? (s : List Char) : Option (List Nat) :=
  match splitGap [] s with
  | none => (groups? s).filter (·.length = 8)
  | some (before, after) =>
    match groups? before, groups? after with
    | some a, some b =>
      if a.length + b.length ≤ 7 && !before.contains '.' then
        some (a ++ List.replicate (8 - (a.length + b.length)) 0 ++ b)
      else none
    | _, _ => none

/-- The length of the run of zeros at the front. -/
def zeroRun (groups : List Nat) : Nat := (groups.takeWhile (· = 0)).length

/-- Where the longest run of at least two zero groups starts, and its length. -/
def longestGap (groups : List Nat) : Option (Nat × Nat) :=
  let runs := (List.range groups.length).map fun i => (i, zeroRun (groups.drop i))
  let best := runs.foldl (fun best run => if best.2 < run.2 then run else best) (0, 1)
  if best.2 < 2 then none else some best

/-- Groups between colons. -/
def groupsText (groups : List Nat) : String :=
  ":".intercalate (groups.map fun n => String.ofList (Nat.toDigits 16 n))

/-- The written form of eight groups. -/
def bracketed (groups : List Nat) : String :=
  match longestGap groups with
  | none => "[" ++ groupsText groups ++ "]"
  | some (start, length) =>
    "[" ++ groupsText (groups.take start) ++ "::" ++ groupsText (groups.drop (start + length)) ++ "]"

/-! ## Names -/

/-- Whether a character may not stand in a name. -/
def isForbidden (c : Char) : Bool :=
  c ≤ ' ' || c = '\x7F' || "#/:<>?@[\\]^|%".toList.contains c

/-- The written form of a name or of numbers. -/
def name? (s : List Char) : Option String :=
  let decoded := (Bytes.readableText (Text.Percent.decode (Bytes.ofText (String.ofList s)))).toList
  let labels := (decoded.map Char.toLower).splitOn '.'
  let written := (labels.map Punycode.encode).intersperse ['.'] |>.flatten
  if written.isEmpty || written.any isForbidden then none
  else if endsInNumber written then numeric? written
  else some (String.ofList written)

/-- The written form of a host. -/
def parse? (s : List Char) : Option String :=
  match s with
  | '[' :: rest =>
    if rest.getLast? = some ']' then (eightGroups? rest.dropLast).map bracketed else none
  | _ => name? s

end ChatGateway.Http.Host
