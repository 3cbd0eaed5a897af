import ContactSegments.Proofs.Text.Blank
import ContactSegments.Proofs.Traversal
import ContactSegments.Service.Engine

/-! # Admission of segments

What is made of a draft or of a change does not depend on how it is checked: unless something is wrong
with one of the parts that are given, these parts are taken over, names without the blanks at their ends.
Of several faults the one of the name is reported.
-/

namespace ContactSegments

/-- What is wrong with a name, if anything is. -/
def nameFault? (name : String) : Option NameFault :=
  if Text.trim name = "" then some .empty
  else if maxNameLength < (Text.trim name).length then some .tooLong
  else none

theorem nameFault?_eq_none_iff {name : String} :
    nameFault? name = none ↔
      Text.trim name ≠ "" ∧ (Text.trim name).length ≤ maxNameLength := by
  unfold nameFault?
  split
  · rename_i blank
    simp [blank]
  · rename_i shown
    split
    · rename_i long
      simp [Nat.not_le.mpr long]
    · rename_i short
      simp [shown, Nat.le_of_not_lt short]

theorem admitName_eq (name : String) :
    admitName name =
      match nameFault? name with
      | some fault => .error ⟨none, .invalidName fault⟩
      | none => .ok (Text.trim name) := by
  have empty : (Text.trimmed name.toList).isEmpty = true ↔ Text.trim name = "" := by
    rw [List.isEmpty_iff, ← Text.toList_trim, String.toList_eq_nil_iff]
  have length : (Text.trimmed name.toList).length = (Text.trim name).length := by
    rw [← Text.toList_trim, String.length_toList]
  simp only [admitName, checkName, nameFault?, empty, length]
  split
  · rfl
  · split <;> rfl

namespace Engine

variable (engine : Engine)

/-- What is wrong with the criteria of a segment of this kind, if anything is. -/
def criteriaFault? (kind : SegmentKind) (criteria : Criteria) : Option ValidationError :=
  match kind, engine.check criteria.conditions with
  | .dynamic, .error error => some error
  | .dynamic, .ok _ | .static, _ => none

/-- What is wrong with the parts that a segment of this kind is given, if anything is. -/
def fault? (kind : SegmentKind) (name : Option String) (criteria : Option Criteria) :
    Option ValidationError :=
  ((name.bind nameFault?).map fun fault => ⟨none, .invalidName fault⟩).or
    (criteria.bind (engine.criteriaFault? kind))

variable {engine} {kind : SegmentKind}

theorem criteriaFault?_eq_none_iff {criteria : Criteria} :
    engine.criteriaFault? kind criteria = none ↔
      (kind = .dynamic → ∃ group, engine.check criteria.conditions = .ok group) := by
  unfold criteriaFault?
  cases kind <;> cases engine.check criteria.conditions <;> simp

theorem fault?_eq_none_iff {name : Option String} {criteria : Option Criteria} :
    engine.fault? kind name criteria = none ↔
      (∀ given, name = some given → nameFault? given = none) ∧
        ∀ given, criteria = some given → engine.criteriaFault? kind given = none := by
  simp [fault?]

theorem admitCriteria_eq (kind : SegmentKind) (criteria : Criteria) :
    engine.admitCriteria kind criteria =
      match engine.criteriaFault? kind criteria with
      | some error => .error error
      | none => .ok criteria := by
  unfold admitCriteria criteriaFault?
  cases kind with
  | static => rfl
  | dynamic => cases engine.check criteria.conditions <;> rfl

end Engine

/-- The record of a new segment. -/
def NewSegment.segment (new : NewSegment) (organization : OrganizationId) (stamp : Stamp) :
    Segment where
  id := stamp.id
  organization
  name := Text.trim new.name
  kind := new.kind
  criteria := new.criteria
  members := new.members
  createdAt := stamp.now
  updatedAt := stamp.now

/-- The record with the parts that are given in place of its own. -/
def Segment.changedBy (segment : Segment) (change : SegmentChange) (now : Instant) : Segment :=
  { segment with
    name := (change.name.map Text.trim).getD segment.name
    criteria := change.criteria.getD segment.criteria
    members := change.members.getD segment.members
    updatedAt := now }

@[simp] theorem Segment.id_changedBy (segment : Segment) (change : SegmentChange) (now : Instant) :
    (segment.changedBy change now).id = segment.id := rfl

@[simp] theorem Segment.organization_changedBy (segment : Segment) (change : SegmentChange)
    (now : Instant) : (segment.changedBy change now).organization = segment.organization := rfl

namespace Engine

variable (engine : Engine)

theorem draft_eq (organization : OrganizationId) (new : NewSegment) (stamp : Stamp) :
    engine.draft organization new stamp =
      match engine.fault? new.kind (some new.name) (some new.criteria) with
      | some error => .error error
      | none => .ok (new.segment organization stamp) := by
  unfold draft fault?
  rw [admitName_eq, admitCriteria_eq]
  simp only [Option.bind_some]
  cases nameFault? new.name with
  | some fault => rfl
  | none => cases engine.criteriaFault? new.kind new.criteria <;> rfl

theorem revise_eq (segment : Segment) (change : SegmentChange) (now : Instant) :
    engine.revise segment change now =
      match engine.fault? segment.kind change.name change.criteria with
      | some error => .error error
      | none => .ok (segment.changedBy change now) := by
  obtain ⟨name, criteria, members⟩ := change
  unfold revise fault?
  cases name with
  | none =>
      cases criteria with
      | none => rfl
      | some criteria =>
          simp only [admitCriteria_eq, Option.bind_some]
          cases engine.criteriaFault? segment.kind criteria <;> rfl
  | some name =>
      simp only [admitName_eq, Option.bind_some]
      cases nameFault? name with
      | some fault => rfl
      | none =>
          cases criteria with
          | none => rfl
          | some criteria =>
              simp only [admitCriteria_eq, Option.bind_some]
              cases engine.criteriaFault? segment.kind criteria <;> rfl

end Engine

end ContactSegments
