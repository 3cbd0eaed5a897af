import ContactSegments.Predicate.OfFilters
import ContactSegments.Service.World
import ContactSegments.Settings.Limits

/-! # The engine

An engine checks conditions against its catalog and its limits, keeps segments, and evaluates
them. Whoever asks does so for one organization. The criteria of a stored segment are checked anew
at every evaluation; when they are no longer valid the evaluation fails.
-/

namespace ContactSegments

structure Engine where
  catalog : Catalog
  limits : Limits

/-- What is to be found out about a segment. -/
inductive Evaluation
  | count
  | members (page : Page)
deriving DecidableEq, Repr

inductive Evaluated
  | count (total : Nat)
  | members (page : MemberPage)
deriving DecidableEq

namespace Action

/-- A value that passed its check. A rejection is counted, unless it is that of a name. -/
def admitted : Except ValidationError α → Action α
  | .ok value => pure value
  | .error error => do
    match error.cause with
    | .invalidName _ => pure ()
    | _ => count .conditionErrors
    throw (.validation error)

/-- A query that is counted and timed, and whose failure is counted too. -/
def measured (counter : Counter) (predicate : Predicate) (window : Window) :
    Action QueryResult := do
  count counter
  let result ← query predicate window
  match result with
  | .ok found =>
    count .timedQueries
    return found
  | .error message =>
    count .evaluationErrors
    count .timedQueries
    fail (.storage message)

/-- How many contacts a predicate matches. -/
def countMatches (predicate : Predicate) : Action Nat := do
  return (← measured .countQueries predicate .countOnly).total

end Action

namespace Engine

open ContactSegments.Action

/-- The page that is shown when no limit is asked for. -/
def defaultPage (engine : Engine) (offset : Nat) : Page :=
  ⟨offset, min engine.limits.defaultPageSize engine.limits.maxPageSize⟩

def check (engine : Engine) (conditions : List Condition) : Except ValidationError FilterGroup :=
  Condition.checkAll engine.catalog engine.limits.maxConditions conditions

/-- The predicate of conditions that were just written. -/
def toPredicate (engine : Engine) (organization : OrganizationId) (conditions : List Condition) :
    Action Predicate := do
  let group ← admitted (engine.check conditions)
  evaluated (group.toPredicate engine.catalog organization)

/-- The predicate of a stored segment. -/
def storedPredicate (engine : Engine) (segment : Segment) : Action Predicate :=
  match segment.kind with
  | .static => return .ofMembers segment.members segment.organization
  | .dynamic =>
    match engine.check segment.criteria.conditions with
    | .ok group => evaluated (group.toPredicate engine.catalog segment.organization)
    | .error error => do
      count .evaluationErrors
      fail (.staleCriteria error)

/-- A page of the contacts that a predicate matches. -/
def pageMatches (engine : Engine) (predicate : Predicate) (page : Page) : Action MemberPage :=
  match page.check engine.limits.maxPageSize with
  | .error cause => throw (.validation ⟨none, cause⟩)
  | .ok () => do
    let found ← measured .pageQueries predicate (.page page)
    return found.toPage page.offset

def previewCount (engine : Engine) (organization : OrganizationId)
    (conditions : List Condition) : Action Nat := do
  let predicate ← engine.toPredicate organization conditions
  let total ← countMatches predicate
  count .previews
  return total

def previewMembers (engine : Engine) (organization : OrganizationId)
    (conditions : List Condition) (page : Page) : Action MemberPage := do
  engine.pageMatches (← engine.toPredicate organization conditions) page

/-- The criteria of a segment of this kind; those of a static segment are not looked at. -/
def admitCriteria (engine : Engine) (kind : SegmentKind) (criteria : Criteria) :
    Except ValidationError Criteria :=
  match kind with
  | .static => .ok criteria
  | .dynamic => (engine.check criteria.conditions).map fun _ => criteria

/-- The segment made from a draft. -/
def draft (engine : Engine) (organization : OrganizationId) (new : NewSegment) (stamp : Stamp) :
    Except ValidationError Segment := do
  let name ← admitName new.name
  let criteria ← engine.admitCriteria new.kind new.criteria
  return { id := stamp.id, organization, name, kind := new.kind, criteria, members := new.members
           createdAt := stamp.now, updatedAt := stamp.now }

/-- The segment with the parts that a change names. -/
def revise (engine : Engine) (segment : Segment) (change : SegmentChange) (now : Instant) :
    Except ValidationError Segment := do
  let name ← match change.name with
    | some name => admitName name
    | none => pure segment.name
  let criteria ← match change.criteria with
    | some criteria => engine.admitCriteria segment.kind criteria
    | none => pure segment.criteria
  let members := change.members.getD segment.members
  return { segment with name, criteria, members, updatedAt := now }

def create (engine : Engine) (organization : OrganizationId) (new : NewSegment) (stamp : Stamp) :
    Action Segment := do
  let segment ← admitted (engine.draft organization new stamp)
  insertSegment segment
  return segment

def get (organization : OrganizationId) (id : SegmentId) : Action Segment := do
  match ← findSegment organization id with
  | some segment => return segment
  | none => throw (.notFound id)

def list (organization : OrganizationId) : Action (List Segment) := listSegments organization

def update (engine : Engine) (organization : OrganizationId) (id : SegmentId)
    (change : SegmentChange) (now : Instant) : Action Segment := do
  let segment ← get organization id
  let revised ← admitted (engine.revise segment change now)
  if ← replaceSegment revised then
    return revised
  else
    throw (.notFound id)

def delete (organization : OrganizationId) (id : SegmentId) : Action Unit := do
  if ← removeSegment organization id then
    return ()
  else
    throw (.notFound id)

def count (engine : Engine) (organization : OrganizationId) (id : SegmentId) : Action Nat := do
  let segment ← get organization id
  countMatches (← engine.storedPredicate segment)

def members (engine : Engine) (organization : OrganizationId) (id : SegmentId) (page : Page) :
    Action MemberPage := do
  let segment ← get organization id
  engine.pageMatches (← engine.storedPredicate segment) page

def evaluate (engine : Engine) (organization : OrganizationId) (id : SegmentId)
    (evaluation : Evaluation) : Action Evaluated := do
  let segment ← get organization id
  let predicate ← engine.storedPredicate segment
  match evaluation with
  | .count => return .count (← countMatches predicate)
  | .members page => return .members (← engine.pageMatches predicate page)

end Engine

end ContactSegments
