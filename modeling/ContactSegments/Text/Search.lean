/-! # Searching in text

A text holds another one when one of its suffixes begins with it.
-/

namespace ContactSegments.Text

/-- The suffixes of a list, the longest one first and the empty one last. -/
def suffixes : List α → List (List α)
  | [] => [[]]
  | a :: as => (a :: as) :: suffixes as

/-- The needle stands somewhere in the haystack. -/
def occursIn [BEq α] (needle haystack : List α) : Bool :=
  (suffixes haystack).any needle.isPrefixOf

end ContactSegments.Text
