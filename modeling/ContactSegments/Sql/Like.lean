import ContactSegments.Text.Search

/-! # Patterns of LIKE

In a pattern `%` stands for any run of characters, `_` for any one character, and a backslash makes
the character after it stand for itself. `escape` writes a text so that it stands for itself.
-/

namespace ContactSegments.Sql.Like

/-- The characters that mean something in a pattern. -/
def isSpecial (c : Char) : Bool := c == '%' || c == '_' || c == '\\'

def escape : List Char → List Char
  | [] => []
  | c :: cs => if isSpecial c then '\\' :: c :: escape cs else c :: escape cs

/-- The pattern matches the whole text. -/
def accepts : List Char → List Char → Bool
  | [], cs => cs.isEmpty
  | '%' :: pattern, cs => (Text.suffixes cs).any fun rest => accepts pattern rest
  | '_' :: pattern, cs =>
    match cs with
    | [] => false
    | _ :: rest => accepts pattern rest
  | '\\' :: c :: pattern, cs =>
    match cs with
    | [] => false
    | d :: rest => c == d && accepts pattern rest
  | c :: pattern, cs =>
    match cs with
    | [] => false
    | d :: rest => c == d && accepts pattern rest

end ContactSegments.Sql.Like
