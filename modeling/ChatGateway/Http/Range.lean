import ChatGateway.Text.Blank
import ChatGateway.Text.Natural

/-!
# Byte ranges

A request may ask for parts of a file: from one octet to another, from one octet to the end,
or so many octets at the end. A range that reaches beyond the file is cut off at its end; one
that lies outside, or two that overlap, cannot be served.
-/

namespace ChatGateway.Http

/-- The first and last octet of a part of a file. -/
structure ByteRange where
  first : Nat
  last : Nat
  deriving DecidableEq, Repr

namespace ByteRange

/-- A range as it is written. -/
inductive Written where
  | between (first last : Nat)
  | onwards (first : Nat)
  | suffix (count : Nat)
  deriving DecidableEq, Repr

/-- A position: digits without a sign or a needless zero. -/
def position? (s : List Char) : Option Nat :=
  match s with
  | ['0'] => some 0
  | '0' :: _ => none
  | _ => (Text.digits? s).filter (· ≤ Text.wordLimit)

/-- One written range; a single blank may precede it. -/
def written? (s : List Char) : Option Written :=
  let blanks := (s.filter Text.isBlank).length
  if (s.getLast?.map Text.isBlank).getD false || 1 < blanks then none
  else
    match (Text.trimChars s).splitOn '-' with
    | [[], count] =>
      match position? count with
      | some 0 | none => none
      | some n => some (.suffix n)
    | [first, []] => (position? first).map .onwards
    | [first, last] => (position? first).bind fun a => (position? last).map (.between a)
    | _ => none

/-- All written ranges of a field. -/
def writtenAll? (field : String) : Option (List Written) :=
  let unit := "bytes=".toList
  if unit.isPrefixOf field.toList then
    ((field.toList.drop unit.length).splitOn ',').mapM written?
  else none

/-- The part of a file of the given size that is meant. -/
def Written.within? (size : Nat) : Written → Option ByteRange
  | between first last => some ⟨first, min last (size - 1)⟩
  | onwards first => some ⟨first, size - 1⟩
  | suffix count => if size < count then none else some ⟨size - count, size - 1⟩

/-- Whether two ranges share an octet. -/
def overlaps (a b : ByteRange) : Bool := a.first ≤ b.last && b.first ≤ a.last

/-- Whether each range is in order and no two of several overlap. -/
def areSatisfiable (ranges : List ByteRange) : Bool :=
  ranges.all (fun range => range.first ≤ range.last) &&
    decide (ranges.Pairwise fun a b => overlaps a b = false)

/-- The parts of a file of the given size that a field asks for. -/
def parse? (size : Nat) (field : String) : Option (List ByteRange) :=
  ((writtenAll? field).bind fun all => all.mapM (·.within? size)).filter areSatisfiable

/-- How many octets a range has. -/
def length (range : ByteRange) : Nat := range.last - range.first + 1

end ByteRange

end ChatGateway.Http
