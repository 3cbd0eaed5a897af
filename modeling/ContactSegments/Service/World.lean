import ContactSegments.ContactBook
import ContactSegments.SegmentTable

/-! # The world of the service

Operations act on a world: the contacts, the segments, and the metrics that count what happens. A
store can be out of order, so a call to it may fail. An `Action` gives a value or an error, and the
world afterwards in either case.
-/

namespace ContactSegments

/-- What the metrics count. -/
inductive Counter
  /-- Queries for a number of contacts. -/
  | countQueries
  /-- Queries for a page of contacts. -/
  | pageQueries
  /-- Queries whose duration was taken. -/
  | timedQueries
  /-- Previews that gave a number. -/
  | previews
  /-- Evaluations that failed. -/
  | evaluationErrors
  /-- Lists of conditions that were rejected. -/
  | conditionErrors
  /-- Requests without a known key. -/
  | unauthorized
  /-- Requests that were answered as invalid. -/
  | invalidRequests
  /-- Requests that were answered as failed. -/
  | failedRequests
deriving DecidableEq, Repr

namespace Counter

def all : List Counter :=
  [.countQueries, .pageQueries, .timedQueries, .previews, .evaluationErrors, .conditionErrors,
   .unauthorized, .invalidRequests, .failedRequests]

def name : Counter → String
  | .countQueries => "segments.evaluations\x7bmode=count\x7d"
  | .pageQueries => "segments.evaluations\x7bmode=materialize\x7d"
  | .timedQueries => "segments.evaluation_latency_us"
  | .previews => "segments.preview"
  | .evaluationErrors => "segments.evaluation_errors"
  | .conditionErrors => "segments.validation_errors"
  | .unauthorized => "api.unauthorized"
  | .invalidRequests => "api.validation_errors"
  | .failedRequests => "api.errors"

end Counter

/-- How often each thing happened. -/
abbrev Metrics := Counter → Nat

namespace Metrics

def zero : Metrics := fun _ => 0

def increment (metrics : Metrics) (counter : Counter) : Metrics := fun c =>
  if c = counter then metrics c + 1 else metrics c

end Metrics

/-- The calls that the table of segments answers. -/
inductive TableCall
  | insert
  | get
  | list
  | replace
  | remove
deriving DecidableEq, Repr

/-- How a call that is out of order behaves: it fails with a message, or it declines to act. Only
    replacing and removing can be declined. -/
inductive Outage
  | failing (message : String)
  | declining
deriving DecidableEq, Repr

structure World where
  contacts : ContactBook
  segments : SegmentTable
  metrics : Metrics
  /-- How many queries were put to the contacts. -/
  queries : Nat
  /-- The message with which queries fail, while they do. -/
  contactOutage : Option String
  /-- The calls of the table that are out of order. -/
  tableOutage : TableCall → Option Outage

namespace World

/-- Nothing is stored, nothing has happened and everything is in order. -/
def empty : World where
  contacts := .empty
  segments := .empty
  metrics := .zero
  queries := 0
  contactOutage := none
  tableOutage := fun _ => none

/-- The world with one thing more counted. -/
def counting (world : World) (counter : Counter) : World :=
  { world with metrics := world.metrics.increment counter }

end World

/-- Something done in a world, which gives a value or fails. -/
abbrev Action (α : Type) := ExceptT SegmentError (StateM World) α

namespace Action

def count (counter : Counter) : Action Unit := modify (·.counting counter)

def fail (error : EvaluationError) : Action α := throw (.evaluation error)

/-- A value, or an evaluation that failed. -/
def evaluated : Except EvaluationError α → Action α
  | .ok value => pure value
  | .error error => fail error

/-- Puts a query to the contacts. -/
def query (predicate : Predicate) (window : Window) : Action (Except String QueryResult) := do
  modify fun world => { world with queries := world.queries + 1 }
  let world ← get
  match world.contactOutage with
  | some message => return .error message
  | none => return .ok (world.contacts.query predicate window)

/-- A call that reads the table of segments. -/
def readTable (call : TableCall) (read : SegmentTable → α) : Action α := do
  let world ← get
  match world.tableOutage call with
  | some (.failing message) => fail (.storage message)
  | _ => return read world.segments

/-- A call that writes the table of segments and tells whether it did. -/
def writeTable (call : TableCall) (write : SegmentTable → Bool × SegmentTable) : Action Bool := do
  let world ← get
  match world.tableOutage call with
  | some (.failing message) => fail (.storage message)
  | some .declining => return false
  | none =>
    let (done, segments) := write world.segments
    set { world with segments }
    return done

def insertSegment (segment : Segment) : Action Unit := do
  let world ← get
  match world.tableOutage .insert with
  | some (.failing message) => fail (.storage message)
  | _ => set { world with segments := world.segments.insert segment }

def findSegment (organization : OrganizationId) (id : SegmentId) : Action (Option Segment) :=
  readTable .get (·.find? organization id)

def listSegments (organization : OrganizationId) : Action (List Segment) :=
  readTable .list (·.list organization)

def replaceSegment (segment : Segment) : Action Bool :=
  writeTable .replace (·.replace segment)

def removeSegment (organization : OrganizationId) (id : SegmentId) : Action Bool :=
  writeTable .remove (·.remove organization id)

end Action

end ContactSegments
