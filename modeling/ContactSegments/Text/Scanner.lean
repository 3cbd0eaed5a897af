import ContactSegments.Text.Blank

/-! # Scanners

A scanner reads a value off the front of a list of characters and leaves the rest, or fails. The
primitives here read blanks, fixed characters, decimal numbers of bounded width and decimal
fractions of a second.
-/

namespace ContactSegments.Text

/-- Reads a value off the front of the characters and leaves the rest. -/
abbrev Scanner (α : Type) := StateT (List Char) Option α

namespace Scanner

/-- The value read when nothing is left over. -/
def all (scanner : Scanner α) (cs : List Char) : Option α :=
  match scanner cs with
  | some (value, []) => some value
  | _ => none

/-- Skips blanks, of which there may be none. -/
def blanks : Scanner Unit := fun cs => some ((), cs.dropWhile isBlank)

/-- One character that passes the test. -/
def satisfying (test : Char → Bool) : Scanner Char
  | c :: cs => if test c then some (c, cs) else none
  | [] => none

def literal (c : Char) : Scanner Unit := do
  let _ ← satisfying (· == c)

/-- The decimal digits at the front, at most `most` of them, read as one number; fewer than `least`
    digits fail. -/
def number (least most : Nat) : Scanner Nat := fun cs =>
  let digits := (cs.take most).takeWhile Char.isDigit
  if digits.length < least then none
  else some (Nat.ofDigitChars 10 digits 0, cs.drop digits.length)

/-- All the decimal digits at the front, of which there is at least one. -/
def digits : Scanner Nat := fun cs => number 1 cs.length cs

/-- Exactly two decimal digits. -/
def twoDigits : Scanner Nat := number 2 2

/-- A point and at least one digit, read as nanoseconds; digits past the ninth are dropped. -/
def fraction : Scanner Nat
  | '.' :: cs =>
    let read := cs.takeWhile Char.isDigit
    let kept := read.take 9
    if read.isEmpty then none
    else some (Nat.ofDigitChars 10 kept 0 * Nat.pow 10 (9 - kept.length), cs.drop read.length)
  | _ => none

/-- As `fraction`, and zero when no point follows. -/
def optionalFraction : Scanner Nat
  | '.' :: cs => fraction ('.' :: cs)
  | cs => some (0, cs)

/-- A reading that may be refused after the fact. -/
def lift (value : Option α) : Scanner α := fun cs => value.map (·, cs)

end Scanner

end ContactSegments.Text
