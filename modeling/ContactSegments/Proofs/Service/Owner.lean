import ContactSegments.Proofs.Keeping.Admission
import ContactSegments.Proofs.Predicate.OfFilters
import ContactSegments.Proofs.SegmentTable
import ContactSegments.Proofs.Service.Action

/-! # Owners

What an operation looks up, makes or evaluates for an organization belongs to that organization.
-/

namespace ContactSegments

namespace Action

variable {α : Type} {P : α → Prop}

theorem gives_admitted {result : Except ValidationError α} (given : ∀ a, result = .ok a → P a) :
    (admitted result).Gives P := by
  intro world a done
  rw [perform_admitted] at done
  cases result with
  | ok value =>
      cases done
      exact given a rfl
  | error error => cases done

theorem gives_evaluated {result : Except EvaluationError α} (given : ∀ a, result = .ok a → P a) :
    (evaluated result).Gives P := by
  cases result with
  | ok value => exact gives_pure (given value rfl)
  | error error => exact gives_throw _

theorem gives_readTable {call : TableCall} {read : SegmentTable → α}
    (given : ∀ table, P (read table)) : (readTable call read).Gives P := by
  intro world a done
  rw [perform_readTable] at done
  dsimp only at done
  split at done
  · cases done
  · cases done
    exact given world.segments

end Action

namespace Engine

open ContactSegments.Action

variable {engine : Engine} {organization : OrganizationId}

theorem owner_of_draft {new : NewSegment} {stamp : Stamp} {segment : Segment}
    (made : engine.draft organization new stamp = .ok segment) :
    segment.id = stamp.id ∧ segment.organization = organization := by
  rw [draft_eq] at made
  split at made
  · cases made
  · cases made
    exact ⟨rfl, rfl⟩

theorem owner_of_revise {segment revised : Segment} {change : SegmentChange} {now : Instant}
    (made : engine.revise segment change now = .ok revised) :
    revised.id = segment.id ∧ revised.organization = segment.organization := by
  rw [revise_eq] at made
  split at made
  · cases made
  · cases made
    exact ⟨rfl, rfl⟩

theorem gives_toPredicate (conditions : List Condition) :
    (engine.toPredicate organization conditions).Gives (·.organization = organization) := by
  refine (gives_any _).bind fun group _ => gives_evaluated fun predicate made => ?_
  exact (FilterGroup.toPredicate_eq_ok_iff.mp made).1

theorem gives_storedPredicate (segment : Segment) :
    (engine.storedPredicate segment).Gives (·.organization = segment.organization) := by
  unfold storedPredicate
  cases segment.kind with
  | static => exact gives_pure rfl
  | dynamic =>
      cases engine.check segment.criteria.conditions with
      | ok group =>
          refine gives_evaluated fun predicate made => ?_
          exact (FilterGroup.toPredicate_eq_ok_iff.mp made).1
      | error error => exact (gives_any _).bind fun _ _ => gives_throw _

theorem gives_get (organization : OrganizationId) (id : SegmentId) :
    (get organization id).Gives (·.organization = organization) := by
  have found : (findSegment organization id).Gives
      fun found => ∀ segment, found = some segment → segment.organization = organization :=
    gives_readTable fun table segment held => (SegmentTable.find?_eq_some_iff.mp held).2
  refine found.bind fun found owned => ?_
  cases found with
  | some segment => exact gives_pure (owned segment rfl)
  | none => exact gives_throw _

end Engine

end ContactSegments
