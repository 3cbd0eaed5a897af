import ContactSegments.Proofs.Calendar.Written
import ContactSegments.Proofs.Json.Value
import ContactSegments.Proofs.Uuid
import ContactSegments.Wire.Segment

/-! # Records that are read back

What is written for a segment or a contact gives the same record again. A contact may bring its custom
fields in any order, and they have to be flat enough for a reader of text.
-/

namespace ContactSegments

open Draft Reader RecordReader

theorem Uuid.reverses : Reverses reader toJson := reverses_parsed ofText?_text

theorem OrganizationId.reverses : Reverses reader toJson := by
  intro organization
  show (Uuid.reader (ofJson organization.uuid.toJson)).map mk = .ok organization
  rw [Uuid.reverses organization.uuid]
  rfl

theorem Instant.reverses : Reverses reader toJson := reverses_parsed ofText?_text

theorem Connective.reverses : Reverses reader toJson :=
  reverses_named fun connective => by cases connective <;> rfl

theorem SegmentKind.reverses : Reverses reader toJson :=
  reverses_named fun kind => by cases kind <;> rfl

theorem Condition.reverses : Reverses reader toJson := by
  rintro ⟨id, field, operator, value, connective⟩
  refine Takes.read ?_ (by simp)
  refine .seq (.seq (.seq (.seq (.map (takes_required rfl ?id) _) (takes_required rfl ?field))
    (takes_required rfl ?operator)) (takes_optional rfl ?value _)) (takes_optional rfl ?connective _)
  case id => exact reverses_text id
  case field => exact reverses_text field
  case operator => exact reverses_text operator
  case value => exact reverses_text value
  case connective => exact Connective.reverses.nullable nofun connective

theorem Criteria.reverses : Reverses reader toJson := by
  intro criteria
  refine Takes.read ?_ (by simp)
  exact .map (takes_optional rfl (Condition.reverses.list criteria.conditions) _) _

theorem Segment.reverses : Reverses reader toJson := by
  rintro ⟨id, organization, name, kind, criteria, members, createdAt, updatedAt⟩
  refine Takes.read ?_ (by simp)
  refine .seq (.seq (.seq (.seq (.seq (.seq (.seq (.map (takes_required rfl ?id) _)
    (takes_required rfl ?organization)) (takes_required rfl ?name)) (takes_required rfl ?kind))
    (takes_optional rfl ?criteria _)) (takes_optional rfl ?members _))
    (takes_required rfl ?createdAt)) (takes_required rfl ?updatedAt)
  case id => exact Uuid.reverses id
  case organization => exact OrganizationId.reverses organization
  case name => exact reverses_text name
  case kind => exact SegmentKind.reverses kind
  case criteria => exact Criteria.reverses criteria
  case members => exact Uuid.reverses.list members
  case createdAt => exact Instant.reverses createdAt
  case updatedAt => exact Instant.reverses updatedAt

theorem CustomFields.reader_object {members : List (String × Json)}
    (exact : (Json.object members).Exact) :
    reader (ofJson (.object members)) =
      if (Json.object members).depth ≤ 126 then .ok (ofMembers members)
      else .error .malformed := by
  have each := eachMember_ofMembers exact 125
  simp only [reader, ofJson, Reader.members, each, Json.depth, Nat.reduceLeDiff]
  by_cases flat : Json.depthOfMembers members ≤ 125 <;>
    simp [flat, ifClosed, bind, Except.bind, Except.map]

namespace Contact

variable {contact : Contact} {order : List (String × Json)}

theorem reader_jsonWith (perm : order.Perm contact.customFields.members)
    (exact : (Json.object order).Exact) (flat : (Json.object order).depth ≤ 126) :
    reader (ofJson (contact.jsonWith (.object order))) = .ok contact := by
  obtain ⟨id, organization, email, firstName, lastName, companyName, jobTitle, source, createdAt,
    customFields⟩ := contact
  refine Takes.read ?_ (by simp)
  refine .seq (.seq (.seq (.seq (.seq (.seq (.seq (.seq (.seq (.map (takes_required rfl ?id) _)
    (takes_required rfl ?organization)) (takes_optional rfl ?email _))
    (takes_optional rfl ?firstName _)) (takes_optional rfl ?lastName _))
    (takes_optional rfl ?companyName _)) (takes_optional rfl ?jobTitle _))
    (takes_optional rfl ?source _)) (takes_required rfl ?createdAt))
    (takes_optional rfl ?customFields _)
  case id => exact Uuid.reverses id
  case organization => exact OrganizationId.reverses organization
  case email => exact reverses_text.nullable nofun email
  case firstName => exact reverses_text.nullable nofun firstName
  case lastName => exact reverses_text.nullable nofun lastName
  case companyName => exact reverses_text.nullable nofun companyName
  case jobTitle => exact reverses_text.nullable nofun jobTitle
  case source => exact reverses_text.nullable nofun source
  case createdAt => exact Instant.reverses createdAt
  case customFields =>
    rw [CustomFields.reader_object exact, if_pos flat, CustomFields.ofMembers_of_perm _ perm]

theorem depth_le_of_reader (exact : (Json.object order).Exact) {value : Contact}
    (read : reader (ofJson (contact.jsonWith (.object order))) = .ok value) :
    (Json.object order).depth ≤ 126 := by
  have passed : (CustomFields.reader (ofJson (.object order))).map (fun _ => ()) = .ok () :=
    checks_of_read read (by simp) ("customFields", .object order) (by simp) rfl
  rw [CustomFields.reader_object exact] at passed
  split at passed
  · rename_i flat
    exact flat
  · cases passed

end Contact

namespace Json

theorem exact_orNull_string (value : Option String) : (orNull (value.map string)).Exact := by
  cases value <;> trivial

theorem depth_orNull_string (value : Option String) : (orNull (value.map string)).depth = 0 := by
  cases value <;> rfl

theorem exactItems_map {α : Type} {write : α → Json} (exact : ∀ a, (write a).Exact)
    (values : List α) : ExactItems (values.map write) := by
  induction values with
  | nil => trivial
  | cons a values ih => exact ⟨exact a, ih⟩

end Json

open Json

theorem Uuid.exact_toJson (id : Uuid) : id.toJson.Exact := trivial

theorem Condition.exact_toJson (c : Condition) : c.toJson.Exact := by
  have connective : (orNull (c.connective.map Connective.toJson)).Exact := by
    cases c.connective <;> trivial
  exact ⟨trivial, trivial, trivial, trivial, connective, trivial⟩

theorem Segment.exact_toJson (segment : Segment) : segment.toJson.Exact := by
  have conditions : segment.criteria.toJson.Exact :=
    ⟨exactItems_map Condition.exact_toJson segment.criteria.conditions, trivial⟩
  have members : (Json.array (segment.members.map Uuid.toJson)).Exact :=
    exactItems_map Uuid.exact_toJson segment.members
  exact ⟨trivial, trivial, trivial, trivial, conditions, members, trivial, trivial, trivial⟩

theorem Contact.exact_jsonWith (contact : Contact) {fields : Json} (exact : fields.Exact) :
    (contact.jsonWith fields).Exact :=
  ⟨trivial, trivial, exact_orNull_string _, exact_orNull_string _, exact_orNull_string _,
    exact_orNull_string _, exact_orNull_string _, exact_orNull_string _, trivial, exact, trivial⟩

theorem Contact.depth_jsonWith (contact : Contact) (fields : Json) :
    (contact.jsonWith fields).depth = fields.depth + 1 := by
  simp [jsonWith, Json.depth, depthOfMembers, depth_orNull_string, Uuid.toJson,
    OrganizationId.toJson, Instant.toJson]

theorem Segment.ofText_text (segment : Segment) :
    reader.ofText segment.toJson.text = .ok segment := by
  rw [Reader.ofText_text reader segment.exact_toJson, reverses segment]

/-- As far as the text of a contact can be followed, it gives the contact again. -/
theorem Contact.ofText_text_iff {contact : Contact} {order : List (String × Json)}
    (perm : order.Perm contact.customFields.members) (exact : (Json.object order).Exact) :
    reader.ofText (contact.jsonWith (.object order)).text = .ok contact ↔
      (contact.jsonWith (.object order)).depth ≤ 127 := by
  rw [Reader.ofText_text reader (contact.exact_jsonWith exact), contact.depth_jsonWith,
    Nat.add_le_add_iff_right]
  exact ⟨depth_le_of_reader exact, reader_jsonWith perm exact⟩

end ContactSegments
