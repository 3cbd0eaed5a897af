import ContactSegments.Proofs.Condition.Meaning
import ContactSegments.Proofs.Service.Segments

/-! # Members of stored segments

The members of a dynamic segment are those of a preview of its criteria. The engine that evaluates it
need not be the one that stored it: criteria that its catalog and its limits no longer admit give an
evaluation error, before the page that is asked for is looked at or any query is put.
-/

namespace ContactSegments

open ContactSegments.Action

namespace Engine

variable (engine : Engine) {organization : OrganizationId} {conditions : List Condition}
  {segment : Segment} {world : World}

/-- Conditions that pass the check have a predicate. -/
theorem perform_toPredicate_of_ok {group : FilterGroup} (legal : engine.check conditions = .ok group)
    (organization : OrganizationId) :
    ∃ predicate, group.toPredicate engine.catalog organization = .ok predicate ∧
      ∀ world, (engine.toPredicate organization conditions).perform world = (.ok predicate, world) := by
  obtain ⟨predicate, compiled, -⟩ := Condition.exists_toPredicate legal organization
  refine ⟨predicate, compiled, fun world => ?_⟩
  unfold toPredicate
  rw [perform_bind, perform_admitted, legal]
  dsimp only
  rw [perform_evaluated, compiled]
  rfl

theorem perform_toPredicate_of_error {error : ValidationError}
    (illegal : engine.check conditions = .error error) (organization : OrganizationId) (world : World) :
    (engine.toPredicate organization conditions).perform world =
      (.error (.validation error), rejecting error world) := by
  unfold toPredicate
  rw [perform_bind, perform_admitted, illegal]

/-- A stored segment is evaluated by the predicate that its criteria have when they are written. -/
theorem perform_storedPredicate_of_ok (dynamic : segment.kind = .dynamic) {predicate : Predicate}
    (compiled : ((engine.toPredicate segment.organization segment.criteria.conditions).perform
      world).1 = .ok predicate) :
    (engine.toPredicate segment.organization segment.criteria.conditions).perform world =
        (.ok predicate, world) ∧
      (engine.storedPredicate segment).perform world = (.ok predicate, world) := by
  unfold storedPredicate
  rw [dynamic]
  cases checked : engine.check segment.criteria.conditions with
  | error error =>
      rw [engine.perform_toPredicate_of_error checked] at compiled
      cases compiled
  | ok group =>
      obtain ⟨found, made, performed⟩ :=
        engine.perform_toPredicate_of_ok checked segment.organization
      rw [performed] at compiled
      cases compiled
      refine ⟨performed world, ?_⟩
      dsimp only
      rw [perform_evaluated, made]
      rfl

/-- Criteria fail to have a predicate for no other reason than that they are rejected. Those of a stored
    segment are stale then. -/
theorem perform_storedPredicate_of_error (dynamic : segment.kind = .dynamic) {error : SegmentError}
    (failed : ((engine.toPredicate segment.organization segment.criteria.conditions).perform
      world).1 = .error error) :
    ∃ rejection, error = .validation rejection ∧
      (engine.storedPredicate segment).perform world =
        (.error (.evaluation (.staleCriteria rejection)), world.counting .evaluationErrors) := by
  unfold storedPredicate
  rw [dynamic]
  cases checked : engine.check segment.criteria.conditions with
  | error rejection =>
      rw [engine.perform_toPredicate_of_error checked] at failed
      cases failed
      exact ⟨rejection, rfl, rfl⟩
  | ok group =>
      obtain ⟨predicate, -, performed⟩ :=
        engine.perform_toPredicate_of_ok checked segment.organization
      rw [performed] at failed
      cases failed

section

variable {id : SegmentId} (answers : world.Answers .get)
  (held : world.segments.find? organization id = some segment)

include answers held

/-- What is found out about a segment is what its predicate gives. -/
theorem perform_evaluations_of_ok {predicate : Predicate}
    (compiled : (engine.storedPredicate segment).perform world = (.ok predicate, world)) :
    (engine.count organization id).perform world = (countMatches predicate).perform world ∧
      (∀ page, (engine.members organization id page).perform world =
        (engine.pageMatches predicate page).perform world) ∧
      ∀ evaluation, (engine.evaluate organization id evaluation).perform world =
        (match evaluation with
          | .count => do return .count (← countMatches predicate)
          | .members page => do return .members (← engine.pageMatches predicate page) :
            Action Evaluated).perform world := by
  have found := perform_get_held answers held
  refine ⟨?_, fun page => ?_, fun evaluation => ?_⟩
  · unfold count
    rw [perform_bind_ok found, perform_bind_ok compiled]
  · unfold members
    rw [perform_bind_ok found, perform_bind_ok compiled]
  · unfold evaluate
    cases evaluation <;> rw [perform_bind_ok found, perform_bind_ok compiled]

theorem perform_evaluations_of_error {error : SegmentError} {after : World}
    (failed : (engine.storedPredicate segment).perform world = (.error error, after)) :
    (engine.count organization id).perform world = (.error error, after) ∧
      (∀ page, (engine.members organization id page).perform world = (.error error, after)) ∧
      ∀ evaluation, (engine.evaluate organization id evaluation).perform world =
        (.error error, after) := by
  have found := perform_get_held answers held
  refine ⟨?_, fun page => ?_, fun evaluation => ?_⟩
  · unfold count
    rw [perform_bind_ok found, perform_bind_error failed]
  · unfold members
    rw [perform_bind_ok found, perform_bind_error failed]
  · unfold evaluate
    rw [perform_bind_ok found, perform_bind_error failed]

end

/-- A dynamic segment has the members that its criteria have in a preview by the same engine, and it
    has no members but an evaluation error when they are rejected. Whatever the contacts are, and
    whether or not queries fail, the two answer alike. -/
theorem stored_agrees_with_preview {id : SegmentId} (answers : world.Answers .get)
    (held : world.segments.find? organization id = some segment) (dynamic : segment.kind = .dynamic) :
    let conditions := segment.criteria.conditions
    (∀ predicate, ((engine.toPredicate organization conditions).perform world).1 = .ok predicate →
      let total := ((engine.previewCount organization conditions).perform world).1
      ((engine.count organization id).perform world).1 = total ∧
      ((engine.evaluate organization id .count).perform world).1 = total.map .count ∧
      ∀ page,
        let shown := ((engine.previewMembers organization conditions page).perform world).1
        ((engine.members organization id page).perform world).1 = shown ∧
        ((engine.evaluate organization id (.members page)).perform world).1 = shown.map .members) ∧
    ∀ error, ((engine.toPredicate organization conditions).perform world).1 = .error error →
      ∃ rejection, error = .validation rejection ∧
        let stale := SegmentError.evaluation (.staleCriteria rejection)
        ((engine.count organization id).perform world).1 = .error stale ∧
        (∀ page, ((engine.members organization id page).perform world).1 = .error stale) ∧
        ∀ evaluation, ((engine.evaluate organization id evaluation).perform world).1 = .error stale := by
  obtain ⟨-, rfl⟩ := SegmentTable.find?_eq_some_iff.mp held
  constructor
  · intro predicate compiled
    obtain ⟨written, stored⟩ := engine.perform_storedPredicate_of_ok dynamic compiled
    obtain ⟨counted, shown, evaluated⟩ := engine.perform_evaluations_of_ok answers held stored
    have total : ((engine.previewCount segment.organization segment.criteria.conditions).perform
        world).1 = ((countMatches predicate).perform world).1 := by
      unfold previewCount
      rw [perform_bind_ok written, perform_bind]
      rcases (countMatches predicate).perform world with ⟨_ | _, after⟩ <;> rfl
    have pages (page : Page) : (engine.previewMembers segment.organization
        segment.criteria.conditions page).perform world =
          (engine.pageMatches predicate page).perform world := by
      unfold previewMembers
      rw [perform_bind_ok written]
    refine ⟨?_, ?_, fun page => ⟨?_, ?_⟩⟩
    · rw [counted, total]
    · rw [evaluated, total]
      exact perform_map _ _ _
    · rw [shown, pages]
    · rw [evaluated, pages]
      exact perform_map _ _ _
  · intro error failed
    obtain ⟨rejection, rejected, stored⟩ := engine.perform_storedPredicate_of_error dynamic failed
    obtain ⟨counted, shown, evaluated⟩ := engine.perform_evaluations_of_error answers held stored
    refine ⟨rejection, rejected, ?_, fun page => ?_, fun evaluation => ?_⟩
    · rw [counted]
    · rw [shown]
    · rw [evaluated]

end Engine

namespace StoredCriteria

def owner : OrganizationId := ⟨0x41, by decide⟩

def today : Instant := .midnight ⟨2024, 4, 1, by decide⟩

def acme : Segment where
  id := ⟨0x45, by decide⟩
  organization := owner
  name := "Acme people"
  kind := .dynamic
  criteria := ⟨[⟨"c1", "companyName", "equals", "Acme", none⟩]⟩
  members := []
  createdAt := today
  updatedAt := today

def employee : Contact :=
  { Contact.blank ⟨0x43, by decide⟩ owner today with companyName := some "ACME" }

def world : World :=
  { World.empty with
    contacts := ContactBook.empty.insert employee, segments := SegmentTable.empty.insert acme }

def engine : Engine := ⟨.standard, .standard⟩

/-- An engine whose catalog has lost the field of the segment's condition. -/
def later : Engine := ⟨Catalog.standard.erase "companyName", .standard⟩

def predicate : Predicate :=
  ⟨owner, [.text ⟨"companyName", .companyName, "company_name"⟩ .equals "acme"]⟩

/-- The first engine counts the employee, and the one without the field refuses a page that it would
    not show either, for the reason that the criteria are stale. -/
theorem acme_evaluated :
    ((engine.count owner acme.id).perform world).1 =
        ((engine.previewCount owner acme.criteria.conditions).perform world).1 ∧
      ((engine.previewCount owner acme.criteria.conditions).perform world).1 = .ok 1 ∧
      ((later.members owner acme.id ⟨0, 0⟩).perform world).1 =
        .error (.evaluation (.staleCriteria ⟨some "c1", .unknownField "companyName"⟩)) := by
  have answers : world.Answers .get := World.answers_of_working rfl
  have held : world.segments.find? owner acme.id = some acme := by decide +kernel
  have compiled : ((engine.toPredicate owner acme.criteria.conditions).perform world).1 =
      .ok predicate := rfl
  have rejected : ((later.toPredicate owner acme.criteria.conditions).perform world).1 =
      .error (.validation ⟨some "c1", .unknownField "companyName"⟩) := rfl
  have agrees := (engine.stored_agrees_with_preview answers held rfl).1 predicate compiled
  obtain ⟨rejection, same, -, pages, -⟩ :=
    (later.stored_agrees_with_preview answers held rfl).2 _ rejected
  cases same
  exact ⟨agrees.1, rfl, pages ⟨0, 0⟩⟩

end StoredCriteria

end ContactSegments
