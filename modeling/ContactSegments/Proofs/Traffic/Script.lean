import ContactSegments.Proofs.Service.Segments

/-! # Operations in parts

Operations of several clients run at the same time. Each of them consists of parts that happen at once,
and no part makes more than one call of the table of segments. Between two parts other clients may act;
what is carried over is a segment.
-/

namespace ContactSegments

open ContactSegments.Action

/-- An operation in parts. If a part fails, the operation does. -/
inductive Script (α : Type)
  | last (act : Action α)
  | part (first : Action Segment) (next : Segment → Script α)

/-- The parts one right after the other. -/
def Script.whole : Script α → Action α
  | .last act => act
  | .part first next => do (next (← first)).whole

/-- What a client can ask for about segments. -/
inductive Operation
  | create (new : NewSegment) (stamp : Stamp)
  | get (id : SegmentId)
  | list
  | update (id : SegmentId) (change : SegmentChange) (now : Instant)
  | delete (id : SegmentId)
  | count (id : SegmentId)
  | members (id : SegmentId) (page : Page)
  | evaluate (id : SegmentId) (evaluation : Evaluation)
deriving DecidableEq

inductive Answer
  | segment (segment : Segment)
  | segments (segments : List Segment)
  | deleted
  | evaluated (evaluated : Evaluated)
deriving DecidableEq

namespace Operation

/-- The segment that an operation is about. One that it creates is not there before. -/
def segment? : Operation → Option SegmentId
  | .get id | .update id _ _ | .delete id | .count id | .members id _ | .evaluate id _ => some id
  | .create _ _ | .list => none

/-- The id of the segment that an operation creates. -/
def creates? : Operation → Option SegmentId
  | .create _ stamp => some stamp.id
  | .get _ | .list | .update _ _ _ | .delete _ | .count _ | .members _ _ | .evaluate _ _ => none

/-- What an operation evaluates, and how. -/
def evaluation? : Operation → Option (SegmentId × Evaluation)
  | .count id => some (id, .count)
  | .members id page => some (id, .members page)
  | .evaluate id evaluation => some (id, evaluation)
  | .create _ _ | .get _ | .list | .update _ _ _ | .delete _ => none

theorem segment?_of_evaluation? {operation : Operation} {id : SegmentId}
    {evaluation : Evaluation} (evaluates : operation.evaluation? = some (id, evaluation)) :
    operation.segment? = some id := by
  cases operation <;> cases evaluates <;> rfl

end Operation

namespace Engine

variable (engine : Engine) (organization : OrganizationId)

/-- An operation as one action. -/
def serve : Operation → Action Answer
  | .create new stamp => return .segment (← engine.create organization new stamp)
  | .get id => return .segment (← get organization id)
  | .list => return .segments (← list organization)
  | .update id change now => return .segment (← engine.update organization id change now)
  | .delete id => do
    delete organization id
    return .deleted
  | .count id => return .evaluated (.count (← engine.count organization id))
  | .members id page => return .evaluated (.members (← engine.members organization id page))
  | .evaluate id evaluation => return .evaluated (← engine.evaluate organization id evaluation)

/-- What is to be found out about a segment that was looked up. -/
def evaluateFound (evaluation : Evaluation) (segment : Segment) : Action Answer := do
  let predicate ← engine.storedPredicate segment
  match evaluation with
  | .count => return .evaluated (.count (← countMatches predicate))
  | .members page => return .evaluated (.members (← engine.pageMatches predicate page))

/-- The last part of an update puts the new record in place of the old one. -/
def storing (id : SegmentId) (revised : Segment) : Script Answer := .last do
  if ← replaceSegment revised then
    return .segment revised
  else
    throw (.notFound id)

/-- An update that has looked up its segment. -/
def revising (id : SegmentId) (change : SegmentChange) (now : Instant) (segment : Segment) :
    Script Answer :=
  .part (admitted (engine.revise segment change now)) (storing id)

/-- An operation cut at its calls of the table. -/
def script : Operation → Script Answer
  | .create new stamp =>
    .part (admitted (engine.draft organization new stamp)) fun segment =>
      .last do
        insertSegment segment
        return .segment segment
  | .get id => .part (get organization id) fun segment => .last (return .segment segment)
  | .list => .last do return .segments (← list organization)
  | .update id change now => .part (get organization id) (engine.revising id change now)
  | .delete id => .last do
    delete organization id
    return .deleted
  | .count id => .part (get organization id) fun segment => .last (engine.evaluateFound .count segment)
  | .members id page =>
    .part (get organization id) fun segment => .last (engine.evaluateFound (.members page) segment)
  | .evaluate id evaluation =>
    .part (get organization id) fun segment => .last (engine.evaluateFound evaluation segment)

/-- Without anything in between, the parts make up the operation. -/
theorem whole_script (operation : Operation) :
    (engine.script organization operation).whole = engine.serve organization operation := by
  cases operation with
  | create new stamp => simp [script, Script.whole, serve, create]
  | get id => rfl
  | list => rfl
  | update id change now =>
      simp only [script, Script.whole, serve, update, revising, storing, bind_assoc]
      refine bind_congr fun segment => bind_congr fun revised => bind_congr fun done => ?_
      cases done <;> rfl
  | delete id => rfl
  | count id => simp [script, Script.whole, serve, count, evaluateFound]
  | members id page => simp [script, Script.whole, serve, members, evaluateFound]
  | evaluate id evaluation =>
    cases evaluation <;> simp [script, Script.whole, serve, evaluate, evaluateFound]

/-- Evaluations look up their segment and find out about it. -/
theorem serve_of_evaluation? {operation : Operation} {id : SegmentId} {evaluation : Evaluation}
    (evaluates : operation.evaluation? = some (id, evaluation)) :
    engine.serve organization operation =
      get organization id >>= engine.evaluateFound evaluation := by
  rw [← engine.whole_script]
  cases operation <;> cases evaluates <;> rfl

end Engine

end ContactSegments
