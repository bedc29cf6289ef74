import ChatGateway.Text.Natural
import Mathlib.Algebra.Group.Nat.Defs

/-!
# Hexadecimal numerals of fixed width

The numeral has as many digits as it should, with zeros at the front, and all of them are in lower case.
A number that fits into the width is read back from it.
-/

namespace ChatGateway.Text

/-- As many hexadecimal digits as the width says, in lower case. -/
structure IsLowerHex (width : Nat) (digits : List Char) : Prop where
  width : digits.length = width
  lower : ∀ c ∈ digits, c ∈ "0123456789abcdef".toList

/-- A hexadecimal digit is written in lower case. -/
theorem hexDigit_lower : ∀ n < 16, hexDigit n ∈ "0123456789abcdef".toList := by decide

/-- A hexadecimal digit is read as what it was written for. -/
theorem hexValue?_hexDigit : ∀ n < 16, hexValue? (hexDigit n) = some n := by decide

/-- As many hexadecimal digits as asked for are written, all in lower case. -/
theorem isLowerHex_hexDigits (width n : Nat) : IsLowerHex width (hexDigits width n) := by
  induction width generalizing n with
  | zero => exact ⟨rfl, fun c none => nomatch none⟩
  | succ width ih =>
    have front := ih (n / 16)
    constructor
    case width => rw [hexDigits, List.length_append, front.width, List.length_singleton]
    case lower =>
      intro c member
      rcases List.mem_append.mp member with before | last
      · exact front.lower c before
      · rw [List.mem_singleton.mp last]
        exact hexDigit_lower (n % 16) (Nat.mod_lt n (by decide))

/-- Digits behind others are read on from the number of those. -/
theorem appendInBase?_append (base value : Nat) (front rest : List Char) :
    appendInBase? base value (front ++ rest) =
      (appendInBase? base value front).bind fun n => appendInBase? base n rest := by
  induction front generalizing value with
  | nil => rfl
  | cons c front ih =>
    rw [List.cons_append, appendInBase?, appendInBase?, Option.bind_assoc]
    congr 1
    funext d
    exact ih (value * base + d)

/-- Hexadecimal digits are read as the number they were written for, if it fits. -/
theorem appendInBase?_hexDigits {width n : Nat} (h : n < 16 ^ width) :
    appendInBase? 16 0 (hexDigits width n) = some n := by
  induction width generalizing n with
  | zero =>
    have zero : n = 0 := Nat.lt_one_iff.mp h
    rw [zero]
    rfl
  | succ width ih =>
    have last : n % 16 < 16 := Nat.mod_lt n (by decide)
    have front : n / 16 < 16 ^ width := by
      rw [pow_succ] at h
      exact Nat.div_lt_of_lt_mul (by rwa [Nat.mul_comm])
    have whole : n / 16 * 16 + n % 16 = n := Nat.div_add_mod' n 16
    rw [hexDigits, appendInBase?_append, ih front, Option.bind_some, appendInBase?,
      hexValue?_hexDigit _ last]
    simp [Option.filter, last, appendInBase?, whole]

/-- A number that fits into the width is read back. -/
theorem inBase?_hexDigits {width n : Nat} (h : n < 16 ^ (width + 1)) :
    inBase? 16 (hexDigits (width + 1) n) = some n := by
  have read := appendInBase?_hexDigits h
  cases shape : hexDigits (width + 1) n with
  | nil =>
    have digits := (isLowerHex_hexDigits (width + 1) n).width
    rw [shape] at digits
    contradiction
  | cons c rest => rwa [shape] at read

end ChatGateway.Text
