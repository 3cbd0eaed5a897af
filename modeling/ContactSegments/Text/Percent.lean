import ContactSegments.Text.Hex

/-! # Percent encoding

In a percent-encoded text a `%` with two hexadecimal digits stands for one byte; all else, a lone
`%` too, stands for itself. The bytes are read as UTF-8.
-/

namespace ContactSegments.Text

/-- The parts of a text between the occurrences of a character; there is at least one part. -/
def splitOn (separator : Char) : List Char → List (List Char)
  | [] => [[]]
  | c :: cs =>
    if c = separator then [] :: splitOn separator cs
    else
      match splitOn separator cs with
      | part :: parts => (c :: part) :: parts
      | [] => [[c]]

/-- The byte with these two hexadecimal digits. -/
def hexByte? (high low : Char) : Option UInt8 := do
  return .ofNat (16 * (← hexDigit? high) + (← hexDigit? low))

/-- The bytes that a percent-encoded text stands for. -/
def percentBytes : List Char → List UInt8
  | '%' :: high :: low :: cs =>
    match hexByte? high low with
    | some byte => byte :: percentBytes cs
    | none => String.utf8EncodeChar '%' ++ percentBytes (high :: low :: cs)
  | c :: cs => String.utf8EncodeChar c ++ percentBytes cs
  | [] => []

/-- The text that a percent-encoded text stands for, if its bytes are UTF-8. -/
def percentDecoded? (cs : List Char) : Option String :=
  String.fromUTF8? ⟨(percentBytes cs).toArray⟩

end ContactSegments.Text
