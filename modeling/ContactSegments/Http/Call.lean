import ContactSegments.Http.Endpoint
import ContactSegments.Http.MediaType
import ContactSegments.Wire.Segment

/-! # Calls

A call is what a request asks for, with all its parts read. They are read in a fixed order: the id
in the path, the query, the media type of the body, its size, the body. The first one that cannot be
read decides how the request is refused.
-/

namespace ContactSegments.Http

/-- An endpoint with everything that the request had to say. -/
inductive Call
  | list
  | create (new : NewSegment)
  | preview (conditions : List Condition)
  | validate (conditions : List Condition)
  | fields
  | get (id : SegmentId)
  | update (id : SegmentId) (change : SegmentChange)
  | delete (id : SegmentId)
  | count (id : SegmentId)
  /-- The offset is zero when none is given; without a limit the page is the standard one. -/
  | members (id : SegmentId) (offset : Nat) (limit : Option Nat)
deriving DecidableEq

/-- Why the parts of a request cannot be read. -/
inductive Refusal
  | id
  | query
  | mediaType
  | bodySize
  | malformedBody
  | unfitBody
deriving DecidableEq, Repr

namespace Refusal

def status : Refusal → Nat
  | .id | .query | .malformedBody => 400
  | .bodySize => 413
  | .mediaType => 415
  | .unfitBody => 422

end Refusal

/-- A form-encoded text, in which a plus sign stands for a space. -/
def formDecoded? (cs : List Char) : Option String :=
  Text.percentDecoded? (cs.map fun c => if c = '+' then ' ' else c)

/-- The names of a query and their values, in order. -/
def queryPairs (query : List Char) : List (Option String × Option String) :=
  ((Text.splitOn '&' query).filter (!·.isEmpty)).map fun pair =>
    (formDecoded? (pair.takeWhile (· != '=')),
      formDecoded? ((pair.dropWhile (· != '=')).drop 1))

/-- A whole number of 64 bits: digits, maybe after a plus sign. -/
def wordOfText? (s : String) : Option Nat :=
  let digits := match s.toList with
    | '+' :: cs => cs
    | cs => cs
  let n := Nat.ofDigitChars 10 digits 0
  if digits.isEmpty || !digits.all Char.isDigit || wordBound ≤ n then none else some n

/-- The value of a name that occurs at most once in the query. -/
def queryWord (name : String) (pairs : List (Option String × Option String)) :
    Except Refusal (Option Nat) :=
  match pairs.filter (·.1 == some name) with
  | [] => .ok none
  | [(_, value)] =>
    match value.bind wordOfText? with
    | some n => .ok (some n)
    | none => .error .query
  | _ => .error .query

def readId (id : List Char) : Except Refusal SegmentId :=
  match (Text.percentDecoded? id).bind Uuid.ofText? with
  | some id => .ok id
  | none => .error .id

/-- A body that is read has no more bytes than these. -/
def mostBodyBytes : Nat := 2097152

/-- The body is declared to be JSON. -/
def Request.declaresJson (request : Request) : Bool :=
  (request.contentType.bind MediaType.ofText?).any MediaType.isJson

/-- The body of a request, which has to be declared as JSON. One that is too long is not looked at,
    and neither is text after the value. -/
def readBody (reader : Reader α) (request : Request) : Except Refusal α :=
  if !request.declaresJson then .error .mediaType
  else if mostBodyBytes < request.body.utf8ByteSize then .error .bodySize
  else
    match reader (Draft.leading request.body) with
    | .ok value => .ok value
    | .error .malformed => .error .malformedBody
    | .error .mismatch => .error .unfitBody

namespace Endpoint

/-- The call that a request makes at an endpoint. -/
def read (endpoint : Endpoint) (request : Request) : Except Refusal Call := do
  match endpoint with
  | .list => return .list
  | .fields => return .fields
  | .create => return .create (← readBody NewSegment.reader request)
  | .preview => return .preview (← readBody Criteria.reader request).conditions
  | .validate => return .validate (← readBody Criteria.reader request).conditions
  | .get id => return .get (← readId id)
  | .delete id => return .delete (← readId id)
  | .count id => return .count (← readId id)
  | .update id =>
    let id ← readId id
    return .update id (← readBody SegmentChange.reader request)
  | .members id =>
    let id ← readId id
    let pairs := queryPairs request.query
    let offset ← queryWord "offset" pairs
    let limit ← queryWord "limit" pairs
    return .members id (offset.getD 0) limit

end Endpoint

end ContactSegments.Http
