import ContactSegments.Condition

/-! # Segments

A segment is a named group of an organization's contacts: a static one lists its members, a
dynamic one has criteria that are evaluated whenever its members are asked for. Each kind may
carry what only the other kind uses.
-/

namespace ContactSegments

inductive SegmentKind
  | static
  | dynamic
deriving DecidableEq, Repr

namespace SegmentKind

def all : List SegmentKind := [.static, .dynamic]

def name : SegmentKind → String
  | .static => "static"
  | .dynamic => "dynamic"

end SegmentKind

structure Segment where
  id : SegmentId
  organization : OrganizationId
  name : String
  kind : SegmentKind
  criteria : Criteria
  members : List ContactId
  createdAt : Instant
  updatedAt : Instant
deriving DecidableEq

/-- What a segment is made from. -/
structure NewSegment where
  name : String
  kind : SegmentKind
  criteria : Criteria
  members : List ContactId
deriving DecidableEq

namespace NewSegment

def dynamic (name : String) (criteria : Criteria) : NewSegment := ⟨name, .dynamic, criteria, []⟩

def static (name : String) (members : List ContactId) : NewSegment :=
  ⟨name, .static, .empty, members⟩

end NewSegment

/-- New values for parts of a segment; a part that is absent stays as it is. -/
structure SegmentChange where
  name : Option String
  criteria : Option Criteria
  members : Option (List ContactId)
deriving DecidableEq

/-- What a new segment gets from outside: an id, and the time. -/
structure Stamp where
  id : SegmentId
  now : Instant
deriving DecidableEq

/-- The name as it is kept, without blanks at its ends. -/
def checkName (name : String) : Except NameFault String :=
  let kept := Text.trimmed name.toList
  if kept.isEmpty then .error .empty
  else if maxNameLength < kept.length then .error .tooLong
  else .ok (String.ofList kept)

/-- As `checkName`, with the fault as a rejection of the request. -/
def admitName (name : String) : Except ValidationError String :=
  (checkName name).mapError fun fault => ⟨none, .invalidName fault⟩

namespace Segment

/-- The order of a list of segments: the time of creation, then the id. -/
def listedBefore (a b : Segment) : Bool :=
  a.createdAt < b.createdAt ||
    (a.createdAt.rank == b.createdAt.rank && (compare a.id b.id).isLE)

end Segment

end ContactSegments
