import ContactSegments.Json.Value
import ContactSegments.Text.Hex

/-! # JSON values as text

The text of a value has no blanks. In a string the quote, the backslash and the control characters
are escaped, some of them by a letter and the others by their code, and all else stands for itself.
-/

namespace ContactSegments

/-- Digits of a whole number, with a hyphen before a negative one. -/
def writtenInt (i : Int) : List Char :=
  if i < 0 then '-' :: Nat.toDigits 10 i.natAbs else Nat.toDigits 10 i.toNat

namespace Json

/-- A decimal is written as its mantissa with an exponent. -/
def writtenNumber : JsonNumber → List Char
  | .integer i => writtenInt i
  | .decimal negative mantissa exponent =>
    (if negative then ['-'] else []) ++ Nat.toDigits 10 mantissa ++ 'e' :: writtenInt exponent

/-- What stands after the backslash for a character that has an escape of its own. -/
def shortEscape? (c : Char) : Option Char :=
  if c = '"' then some '"'
  else if c = '\\' then some '\\'
  else if c = '\x08' then some 'b'
  else if c = '\t' then some 't'
  else if c = '\n' then some 'n'
  else if c = '\x0c' then some 'f'
  else if c = '\r' then some 'r'
  else none

/-- One character of a string, escaped where it has to be. -/
def writtenChar (c : Char) : List Char :=
  match shortEscape? c with
  | some letter => ['\\', letter]
  | none => if c < ' ' then '\\' :: 'u' :: Text.hexDigits 4 c.toNat else [c]

def writtenString (s : String) : List Char :=
  '"' :: s.toList.flatMap writtenChar ++ ['"']

mutual

def written : Json → List Char
  | .null => ['n', 'u', 'l', 'l']
  | .bool true => ['t', 'r', 'u', 'e']
  | .bool false => ['f', 'a', 'l', 's', 'e']
  | .number n => writtenNumber n
  | .string s => writtenString s
  | .array [] => ['[', ']']
  | .array (item :: items) => '[' :: item.written ++ writtenItems items
  | .object [] => ['\x7b', '\x7d']
  | .object ((key, value) :: members) =>
    '\x7b' :: writtenString key ++ ':' :: value.written ++ writtenMembers members

/-- The items after the first one, and the end of the array. -/
def writtenItems : List Json → List Char
  | [] => [']']
  | item :: items => ',' :: item.written ++ writtenItems items

/-- The members after the first one, and the end of the object. -/
def writtenMembers : List (String × Json) → List Char
  | [] => ['\x7d']
  | (key, value) :: members =>
    ',' :: writtenString key ++ ':' :: value.written ++ writtenMembers members

end

def text (j : Json) : String := String.ofList j.written

end Json

end ContactSegments
