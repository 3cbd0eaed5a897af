import ContactSegments.Json.Token

/-! # JSON text as far as it can be read

A draft is the value that a text begins to write. Where the text stops being JSON the draft has a
`fault` or a container that is not closed, and keeps all that stands before. So one who reads a
draft from left to right meets a fault of the text and a value that does not fit in the order in
which they stand.
-/

namespace ContactSegments

/-- A JSON value, or as much of one as its text has. -/
inductive Draft
  /-- No value can be read here. -/
  | fault
  | null
  | bool (value : Bool)
  | number (value : JsonNumber)
  /-- A string; it has no value when it names half of a surrogate pair. -/
  | string (value : Option String)
  | array (items : List Draft) (closed : Bool)
  | object (members : List (Option String × Draft)) (closed : Bool)
deriving Repr

namespace Draft

/-! Each function below returns with what it read the tokens that follow, or none if the text

cannot be followed further. -/

mutual

/-- The value at the front. -/
def value : Nat → List Token → Draft × Option (List Token)
  | 0, _ => (.fault, none)
  | fuel + 1, tokens =>
    match tokens with
    | .null :: rest => (.null, some rest)
    | .bool b :: rest => (.bool b, some rest)
    | .number n :: rest => (.number n, some rest)
    | .string s :: rest => (.string s, some rest)
    | .mark '[' :: .mark ']' :: rest => (.array [] true, some rest)
    | .mark '[' :: rest =>
      let (read, after) := items fuel rest
      (.array read after.isSome, after)
    | .mark '\x7b' :: .mark '\x7d' :: rest => (.object [] true, some rest)
    | .mark '\x7b' :: rest =>
      let (read, after) := members fuel rest
      (.object read after.isSome, after)
    | _ => (.fault, none)

/-- The items of an array from one of them on, to its end. -/
def items : Nat → List Token → List Draft × Option (List Token)
  | 0, _ => ([], none)
  | fuel + 1, tokens =>
    match value fuel tokens with
    | (item, some (.mark ',' :: rest)) =>
      let (read, after) := items fuel rest
      (item :: read, after)
    | (item, some (.mark ']' :: rest)) => ([item], some rest)
    | (item, _) => ([item], none)

/-- The members of an object from one of them on, to its end. -/
def members : Nat → List Token → List (Option String × Draft) × Option (List Token)
  | 0, _ => ([], none)
  | fuel + 1, tokens =>
    match tokens with
    | .string key :: .mark ':' :: rest =>
      match value fuel rest with
      | (item, some (.mark ',' :: rest)) =>
        let (read, after) := members fuel rest
        ((key, item) :: read, after)
      | (item, some (.mark '\x7d' :: rest)) => ([(key, item)], some rest)
      | (item, _) => ([(key, item)], none)
    | .string key :: _ => ([(key, .fault)], none)
    | _ => ([], none)

end

/-- The value that a text begins with, and the tokens after it. A value takes two steps for each of
    its tokens at the most. -/
def ofTokens (tokens : List Token) : Draft × Option (List Token) :=
  value (2 * tokens.length + 2) tokens

/-- The value that a text begins with; what follows it is not looked at. -/
def leading (text : String) : Draft := (ofTokens (Token.ofText text)).1

mutual

/-- The draft of a value is complete. -/
def ofJson : Json → Draft
  | .null => .null
  | .bool b => .bool b
  | .number n => .number n
  | .string s => .string (some s)
  | .array items => .array (ofItems items) true
  | .object members => .object (ofMembers members) true

def ofItems : List Json → List Draft
  | [] => []
  | item :: items => ofJson item :: ofItems items

def ofMembers : List (String × Json) → List (Option String × Draft)
  | [] => []
  | (key, value) :: members => (some key, ofJson value) :: ofMembers members

end

mutual

/-- The text of the draft is JSON to its end. Strings without a value count, and so do numbers of
    any size. -/
def wellFormed : Draft → Bool
  | .fault => false
  | .array items closed => allWellFormed items && closed
  | .object members closed => membersWellFormed members && closed
  | _ => true

def allWellFormed : List Draft → Bool
  | [] => true
  | item :: items => item.wellFormed && allWellFormed items

def membersWellFormed : List (Option String × Draft) → Bool
  | [] => true
  | (_, value) :: members => value.wellFormed && membersWellFormed members

end

end Draft

end ContactSegments
