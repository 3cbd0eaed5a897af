/-! # Hexadecimal digits -/

namespace ContactSegments.Text

/-- The value of a hexadecimal digit of either case. -/
def hexDigit? (c : Char) : Option Nat :=
  if '0' ≤ c ∧ c ≤ '9' then some (c.toNat - '0'.toNat)
  else if 'a' ≤ c ∧ c ≤ 'f' then some (c.toNat - 'a'.toNat + 10)
  else if 'A' ≤ c ∧ c ≤ 'F' then some (c.toNat - 'A'.toNat + 10)
  else none

/-- The number that a row of hexadecimal digits writes, read on after a first part of it. -/
def hexNumber? (sofar : Nat) : List Char → Option Nat
  | [] => some sofar
  | c :: cs => do hexNumber? (16 * sofar + (← hexDigit? c)) cs

/-- The digits of a number in lower case, so many of them, with leading zeros. -/
def hexDigits : Nat → Nat → List Char
  | 0, _ => []
  | width + 1, n => hexDigits width (n / 16) ++ [Nat.digitChar (n % 16)]

end ContactSegments.Text
