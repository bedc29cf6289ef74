/-!
# Names of hosts beyond the basic range

A label with characters beyond the basic range is written in the basic range: first its basic
characters, then the others as numbers. Each number counts how far the next character is away
in code point and position, in a notation whose digits adapt to the numbers so far.
-/

namespace ChatGateway.Http.Punycode

/-- The digit of a value below thirty-six. -/
def digit (n : Nat) : Char :=
  if n < 26 then Char.ofNat ('a'.toNat + n) else Char.ofNat ('0'.toNat + (n - 26))

/-- The value below which the digit at a position is the last one. -/
def threshold (position bias : Nat) : Nat :=
  if position ≤ bias then 1 else if bias + 26 ≤ position then 26 else position - bias

/-- The threshold of a digit is never zero, so that every digit leaves room for a last one. -/
theorem threshold_pos (position bias : Nat) : 1 ≤ threshold position bias := by
  unfold threshold
  split
  · omega
  · split <;> omega

/-- The digits of a number, from a position on. -/
def number (bias position n : Nat) : List Char :=
  if n < threshold position bias then [digit n]
  else
    let t := threshold position bias
    digit (t + (n - t) % (36 - t)) :: number bias (position + 36) ((n - t) / (36 - t))
termination_by n
decreasing_by
  have := threshold_pos position bias
  have : (n - threshold position bias) / (36 - threshold position bias) ≤
      n - threshold position bias := Nat.div_le_self _ _
  omega

/-- Divides a distance until it is small; returns it with the width of its digits. -/
def shrink (distance width : Nat) : Nat × Nat :=
  if 455 < distance then shrink (distance / 35) (width + 36) else (distance, width)
termination_by distance
decreasing_by exact Nat.div_lt_self (by omega) (by omega)

/-- The bias after a number, given how many characters are written by then. -/
def adapt (distance written : Nat) (isFirst : Bool) : Nat :=
  let damped := if isFirst then distance / 700 else distance / 2
  let (small, width) := shrink (damped + damped / written) 0
  width + 36 * small / (small + 38)

/-- What has been written so far. -/
structure Progress where
  distance : Nat := 0
  bias : Nat := 72
  written : Nat
  output : List Char := []

/-- Passes over one character of the label while the code point `next` is being written. -/
def Progress.pass (basics next : Nat) (progress : Progress) (c : Char) : Progress :=
  if c.toNat < next then { progress with distance := progress.distance + 1 }
  else if c.toNat = next then {
    distance := 0
    bias := adapt progress.distance (progress.written + 1) (progress.written = basics)
    written := progress.written + 1
    output := progress.output ++ number progress.bias 36 progress.distance }
  else progress

/-- Writes the code points beyond the basic range in ascending order; `seen` is the one that
would come next if the label held all. -/
def writeAll (label : List Char) (basics : Nat) (seen : Nat) (progress : Progress) :
    List Nat → List Char
  | [] => progress.output
  | next :: rest =>
    let start := { progress with
      distance := progress.distance + (next - seen) * (progress.written + 1) }
    let after := label.foldl (Progress.pass basics next) start
    writeAll label basics (next + 1) { after with distance := after.distance + 1 } rest

/-- A label in the basic range. -/
def encode (label : List Char) : List Char :=
  let basic := label.filter (·.toNat < 0x80)
  let others := ((label.map Char.toNat).filter (0x80 ≤ ·)).mergeSort.eraseDups
  if others.isEmpty then label
  else
    "xn--".toList ++ basic ++ (if basic.isEmpty then [] else ['-']) ++
      writeAll label basic.length 0x80 { written := basic.length } others

end ChatGateway.Http.Punycode
