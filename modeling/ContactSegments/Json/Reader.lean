import ContactSegments.Decimal.Binary64
import ContactSegments.Json.Draft

/-! # Reading records out of JSON

A reader takes a typed value out of a draft. It goes through the draft from left to right and
reports the first problem: a fault of the text, or a value that does not fit.

Records are read from an object, or from an array of their fields in order. Unknown keys are passed
over; a known key twice does not fit. In an array, fields that may be absent may be missing at the
end, while items past the last field count as a fault of the text.
-/

namespace ContactSegments

/-- Why a value cannot be read. -/
inductive ReadError
  /-- The text is not JSON. -/
  | malformed
  /-- The JSON does not fit the type that is read. -/
  | mismatch
deriving DecidableEq, Repr

/-- The number is finite as a binary64. The mantissa of a decimal and its power of ten are rounded
    one by one, and then their product, so a decimal next to the greatest number may be refused or
    admitted by a rounding before the last. -/
def JsonNumber.isFinite : JsonNumber → Bool
  | .integer _ => true
  | .decimal _ mantissa exponent =>
    mantissa == 0 ||
      (Binary64.ofDecimal false mantissa 0 * Binary64.ofDecimal false 1 exponent).isFinite

abbrev Reader (α : Type) := Draft → Except ReadError α

namespace Draft

/-- The problem with a draft where a value of another kind is wanted: a word, a number or a string
    is read to its end before it is refused. -/
def refusal : Draft → ReadError
  | .fault => .malformed
  | .string none => .malformed
  | .number n => if n.isFinite then .mismatch else .malformed
  | _ => .mismatch

mutual

/-- Any value, with at most so many containers inside each other. -/
def toJson? : Nat → Draft → Option Json
  | _, .null => some .null
  | _, .bool b => some (.bool b)
  | _, .number n => if n.isFinite then some (.number n) else none
  | _, .string s => s.map .string
  | depth + 1, .array items true => (itemsToJson? depth items).map .array
  | depth + 1, .object members true => (membersToJson? depth members).map .object
  | _, _ => none

def itemsToJson? : Nat → List Draft → Option (List Json)
  | _, [] => some []
  | depth, item :: items => do
    let first ← item.toJson? depth
    return first :: (← itemsToJson? depth items)

def membersToJson? : Nat → List (Option String × Draft) → Option (List (String × Json))
  | _, [] => some []
  | depth, (key, value) :: members => do
    let first ← value.toJson? depth
    return (← key, first) :: (← membersToJson? depth members)

end

end Draft

namespace Reader

def text : Reader String
  | .string (some s) => .ok s
  | d => .error d.refusal

/-- A whole number below a bound. -/
def natBelow (bound : Nat) : Reader Nat
  | .number (.integer i) => if 0 ≤ i ∧ i < bound then .ok i.toNat else .error .mismatch
  | d => .error d.refusal

/-- A whole number of 64 bits. -/
def word : Reader Nat := natBelow wordBound

/-- Null, or a value. -/
def nullable (reader : Reader α) : Reader (Option α)
  | .null => .ok none
  | d => (reader d).map some

/-- A text that has a reading of its own. -/
def parsed (parse : String → Option α) : Reader α := fun d => do
  match parse (← text d) with
  | some value => return value
  | none => throw .mismatch

def eachItem (reader : Reader α) : List Draft → Except ReadError (List α)
  | [] => .ok []
  | item :: items => do
    let first ← reader item
    return first :: (← eachItem reader items)

/-- What has been read counts only if the container around it is closed. -/
def ifClosed (closed : Bool) (value : α) : Except ReadError α :=
  if closed then .ok value else .error .malformed

def list (reader : Reader α) : Reader (List α)
  | .array items closed => do ifClosed closed (← eachItem reader items)
  | d => .error d.refusal

def eachMember (reader : Reader α) :
    List (Option String × Draft) → Except ReadError (List (String × α))
  | [] => .ok []
  | (none, _) :: _ => .error .malformed
  | (some key, value) :: members => do
    let first ← reader value
    return (key, first) :: (← eachMember reader members)

/-- The members of an object whose values are all read alike. -/
def members (reader : Reader α) : Reader (List (String × α))
  | .object members closed => do ifClosed closed (← eachMember reader members)
  | d => .error d.refusal

/-- One of a list of names, alone or as the only key of an object with the value null. A value that
    is neither string nor object counts as a fault of the text. -/
def choice (names : List (String × α)) : Reader α
  | .string (some s) => (names.lookup s).elim (.error .mismatch) .ok
  | .object ((some key, value) :: more) closed =>
    match names.lookup key, value with
    | none, _ => .error .mismatch
    | some choice, .null => if more.isEmpty then ifClosed closed choice else .error .malformed
    | some _, d => .error d.refusal
  | _ => .error .malformed

/-- One of the given values by its name. -/
def named (all : List α) (name : α → String) : Reader α :=
  choice (all.map fun value => (name value, value))

/-- Any value whose containers stand at most so deep inside each other. -/
def any (depth : Nat) : Reader Json := fun d =>
  (d.toJson? depth).elim (.error .malformed) .ok

/-- The value that a text writes from its beginning to its end. -/
def ofText (reader : Reader α) (text : String) : Except ReadError α := do
  let (draft, rest) := Draft.ofTokens (Token.ofText text)
  let value ← reader draft
  ifClosed (rest == some []) value

end Reader

/-- How a record is read: its fields in order, each with the test that its value has to pass, and
    the record made of the drafts found under their names. -/
structure RecordReader (α : Type) where
  fields : List (String × Reader Unit)
  build : (String → Option Draft) → Except ReadError α

namespace RecordReader

instance : Applicative RecordReader where
  pure value := ⟨[], fun _ => .ok value⟩
  seq f x :=
    { fields := f.fields ++ (x ()).fields
      build := fun found => do
        let make ← f.build found
        return make (← (x ()).build found) }

def only (name : String) (reader : Reader α) : List (String × Reader Unit) :=
  [(name, fun d => (reader d).map fun _ => ())]

/-- A field that has to be there. -/
def required (name : String) (reader : Reader α) : RecordReader α where
  fields := only name reader
  build found := (found name).elim (.error .mismatch) reader

/-- A field that may be absent. -/
def optional (name : String) (reader : Reader α) (absent : α) : RecordReader α where
  fields := only name reader
  build found := (found name).elim (.ok absent) reader

/-- Goes through the members of an object from left to right, with the keys already met. -/
def checkMembers (fields : List (String × Reader Unit)) (met : List String) :
    List (Option String × Draft) → Except ReadError Unit
  | [] => .ok ()
  | (none, _) :: _ => .error .malformed
  | (some key, value) :: members =>
    match fields.lookup key with
    | some check =>
      if met.contains key then .error .mismatch
      else do
        check value
        checkMembers fields (key :: met) members
    | none =>
      if value.wellFormed then checkMembers fields met members else .error .malformed

/-- Goes through the items of an array from left to right, one for each field. -/
def checkItems : List (String × Reader Unit) → List Draft → Except ReadError Unit
  | _, [] => .ok ()
  | [], _ :: _ => .error .malformed
  | (_, check) :: fields, item :: items => do
    check item
    checkItems fields items

def read (record : RecordReader α) : Reader α
  | .object members closed => do
    checkMembers record.fields [] members
    Reader.ifClosed closed ()
    record.build fun name => members.lookup (some name)
  | .array items closed => do
    checkItems record.fields items
    Reader.ifClosed closed ()
    record.build fun name => ((record.fields.map Prod.fst).zip items).lookup name
  | d => .error d.refusal

end RecordReader

end ContactSegments
