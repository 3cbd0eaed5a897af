import ContactSegments.Decimal.Shortest
import ContactSegments.Json.Written
import ContactSegments.Text.Folding
import ContactSegments.Text.Percent
import ContactSegments.Text.Scanner
import ContactSegments.Word

/-! # Values of variables

The text of a variable is read as a truth value, a whole number or a number, whichever it is
first, and else as the list of its parts between commas. A truth value or a number fits a setting
that wants a text, as it is written; a list fits no single setting.
-/

namespace ContactSegments

open Text

inductive SettingValue
  /-- A place in a list that was passed over. -/
  | missing
  | truth (value : Bool)
  | whole (value : Int)
  | real (value : Binary64)
  | text (value : String)
  | list (items : List SettingValue)
  | group (members : List (String × SettingValue))
deriving Repr

namespace SettingValue

/-- A sign, and what follows it. -/
def splitSign : List Char → Bool × List Char
  | '-' :: cs => (true, cs)
  | '+' :: cs => (false, cs)
  | cs => (false, cs)

/-- A whole number of 64 bits with a sign, which may be left out. -/
def wholeOf? (cs : List Char) : Option Int :=
  let (negative, digits) := splitSign cs
  let size : Int := (Nat.ofDigitChars 10 digits 0 : Nat)
  let value := if negative then -size else size
  let bound : Int := signedWordBound
  if !digits.isEmpty && digits.all Char.isDigit && -bound ≤ value && value < bound then
    some value
  else none

/-- An exponent after its letter, or none. -/
def exponentOf? : List Char → Option Int
  | [] => some 0
  | c :: cs =>
    let (negative, digits) := splitSign cs
    let size : Int := (Nat.ofDigitChars 10 digits 0 : Nat)
    if c == 'e' && !digits.isEmpty && digits.all Char.isDigit then
      some (if negative then -size else size)
    else none

/-- A number in lower case: digits with a point somewhere or without one, and maybe an exponent;
    or a word for an infinity or for no number. -/
def realOf? (cs : List Char) : Option Binary64 :=
  let (negative, cs) := splitSign cs
  if cs = ['n', 'a', 'n'] then some .nan
  else if cs = ['i', 'n', 'f'] ∨ cs = ['i', 'n', 'f', 'i', 'n', 'i', 't', 'y'] then
    some (.infinite negative)
  else
    let front := cs.takeWhile Char.isDigit
    let rest := cs.dropWhile Char.isDigit
    let (fraction, rest) := match rest with
      | '.' :: ds => (ds.takeWhile Char.isDigit, ds.dropWhile Char.isDigit)
      | _ => ([], rest)
    let digits := front ++ fraction
    if digits.isEmpty then none
    else
      (exponentOf? rest).map fun exponent =>
        .ofDecimal negative (Nat.ofDigitChars 10 digits 0) (exponent - fraction.length)

/-- The value of a variable with this text. -/
def ofText (s : String) : SettingValue :=
  let lower := folded s.toList
  if lower = ['t', 'r', 'u', 'e'] then .truth true
  else if lower = ['f', 'a', 'l', 's', 'e'] then .truth false
  else
    match wholeOf? s.toList with
    | some value => .whole value
    | none =>
      match realOf? (s.toList.map Char.toLower) with
      | some value => .real value
      | none => .list ((splitOn ',' s.toList).map fun part => .text (String.ofList part))

/-- The text that a value fits as. -/
def text? : SettingValue → Option String
  | .truth true => some "true"
  | .truth false => some "false"
  | .whole value => some (String.ofList (writtenInt value))
  | .real value => some (String.ofList value.written)
  | .text value => some value
  | .missing | .list _ | .group _ => none

/-- The number that a text of its own in a list stands for. -/
def numberOfText? (s : String) : Option Nat :=
  let lower := String.ofList (folded s.toList)
  if ["true", "on", "yes"].contains lower then some 1
  else if ["false", "off", "no"].contains lower then some 0
  else
    let digits := match s.toList with
      | '+' :: cs => cs
      | cs => cs
    if digits.isEmpty || !digits.all Char.isDigit then none
    else some (Nat.ofDigitChars 10 digits 0)

/-- The whole number below a bound that a value fits as. The bound is that of 64 bits or less. -/
def natBelow? (bound : Nat) (value : SettingValue) : Option Nat :=
  let number := match value with
    | .truth true => some 1
    | .truth false => some 0
    | .whole value => if 0 ≤ value then some value.toNat else none
    | .real value => some (value.toNatBelow wordBound)
    | .text value => numberOfText? value
    | .missing | .list _ | .group _ => none
  number.filter (· < bound)

/-- The values of the named parts of a group, or of a list in their order. -/
def parts? (names : List String) : SettingValue → Option (String → Option SettingValue)
  | .group members => some fun name => members.lookup name
  | .list items => some fun name => (names.zip items).lookup name
  | _ => none

end SettingValue

end ContactSegments
