/-! # Blank characters

A character is blank when it has the Unicode property White_Space, and a text is trimmed by dropping
blank characters at both ends. Zero-width characters and the separators U+001C to U+001F are not
blank.
-/

namespace ContactSegments.Text

/-- Whether a code point lies in one of the given ranges, both ends included. -/
def inRanges (ranges : List (Nat × Nat)) (c : Char) : Bool :=
  ranges.any fun range => range.1 ≤ c.toNat && c.toNat ≤ range.2

/-- The code points with the property White_Space. -/
def blankRanges : List (Nat × Nat) :=
  [(0x0009, 0x000D), (0x0020, 0x0020), (0x0085, 0x0085), (0x00A0, 0x00A0), (0x1680, 0x1680),
   (0x2000, 0x200A), (0x2028, 0x2029), (0x202F, 0x202F), (0x205F, 0x205F), (0x3000, 0x3000)]

def isBlank (c : Char) : Bool := inRanges blankRanges c

/-- The characters between the first and the last one that is not blank. -/
def trimmed (cs : List Char) : List Char :=
  ((cs.dropWhile isBlank).reverse.dropWhile isBlank).reverse

def trim (s : String) : String := String.ofList (trimmed s.toList)

/-- A text without a character that shows. -/
def isBlankText (s : String) : Bool := s.toList.all isBlank

end ContactSegments.Text
