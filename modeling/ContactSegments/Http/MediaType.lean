import ContactSegments.Http.Message

/-! # Media types

A media type is a type, a slash and a subtype, with parameters after semicolons. A subtype may end
in a suffix after a plus sign. All these are tokens, and so are the values of parameters that stand
without quotes. A type that breaks the grammar anywhere, in a parameter too, is no type.
-/

namespace ContactSegments.Http

open Text

structure MediaType where
  type : List Char
  subtype : List Char
  suffix : Option (List Char)
deriving DecidableEq, Repr

namespace MediaType

/-- The characters that may stand between quotes. -/
def isQuotedChar (c : Char) : Bool := ' ' ≤ c && c < '\x7f'

/-- The rest after a quoted value, whose first character may be a quote itself. -/
def afterQuoted : List Char → Option (List Char)
  | c :: cs =>
    if isQuotedChar c then
      match cs.dropWhile fun d => isQuotedChar d && d != '"' with
      | '"' :: rest =>
        match rest.dropWhile (· == ' ') with
        | ';' :: more => some more
        | [] => some []
        | _ => none
      | _ => none
    else none
  | [] => none

/-- The rest after the value of a parameter and the semicolon that ends it. Only the last value may
    be empty. -/
def afterValue (cs : List Char) : Option (List Char) :=
  match cs with
  | '"' :: quoted => afterQuoted quoted
  | _ =>
    match cs.dropWhile isTokenChar with
    | [] => some []
    | ';' :: rest => if cs.head? == some ';' then none else some rest
    | _ => none

/-- The parameters, of which each is a name, an equals sign and a value. -/
def parametersHold : Nat → List Char → Bool
  | 0, _ => false
  | fuel + 1, cs =>
    match cs with
    | [] => true
    | ' ' :: rest => parametersHold fuel rest
    | _ =>
      match cs.takeWhile fun c => isTokenChar c, cs.dropWhile fun c => isTokenChar c with
      | _ :: _, '=' :: rest => (afterValue rest).any (parametersHold fuel)
      | _, _ => false

/-- A subtype and the suffix after its last plus sign; a plus sign at the front is not one of those
    that separate. -/
def splitSuffix (subtype : List Char) : List Char × Option (List Char) :=
  let tail := (subtype.reverse.takeWhile (· != '+')).reverse
  let front := subtype.take (subtype.length - tail.length - 1)
  if front.isEmpty then (subtype, none) else (front, some tail)

/-- The media type that a text writes, in lower case. Each step of reading the parameters takes a
    character. -/
def ofText? (s : String) : Option MediaType := do
  let cs := s.toList.map Char.toLower
  let type := cs.takeWhile isTokenChar
  if type.isEmpty then none
  match cs.dropWhile isTokenChar with
  | '/' :: rest =>
    let name := rest.takeWhile isTokenChar
    let parameters ← match rest.dropWhile isTokenChar with
      | [] => some []
      | ';' :: parameters => if name.isEmpty then none else some parameters
      | _ => none
    if !parametersHold (parameters.length + 1) parameters then none
    let (subtype, suffix) := splitSuffix name
    return ⟨type, subtype, suffix⟩
  | _ => none

/-- The type of JSON, or of a format written in JSON. -/
def isJson (m : MediaType) : Bool :=
  let json := ['j', 's', 'o', 'n']
  m.type == "application".toList && (m.subtype == json || m.suffix == some json)

end MediaType

end ContactSegments.Http
