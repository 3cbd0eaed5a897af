import ContactSegments.Proofs.Command.Trace
import ContactSegments.Proofs.Wire.Written

/-! # Records that are kept as text

A segment that is put back from its text is the segment that was there, so nothing that is asked of
an engine afterwards is answered otherwise. A contact comes back as it was as long as a reader can
follow its text to the innermost value.
-/

namespace ContactSegments

theorem SegmentTable.insert_held {table : SegmentTable} {segment : Segment}
    (stands : table.records[segment.id]? = some segment) : table.insert segment = table := by
  have same : table.records.insert segment.id segment = table.records := by
    refine Std.ExtTreeMap.ext_getElem? fun id => ?_
    rw [Std.ExtTreeMap.getElem?_insert]
    split
    · rename_i here
      rw [← Std.compare_eq_iff_eq.mp here, stands]
    · rfl
  rw [insert, same]

/-- Whether the table replaces it or not, a segment that stands there already changes nothing. -/
theorem Action.perform_replaceSegment_same {world : World} {segment : Segment}
    (stands : world.segments.records[segment.id]? = some segment) :
    ((replaceSegment segment).perform world).2 = world := by
  have found : world.segments.find? segment.organization segment.id = some segment :=
    SegmentTable.find?_eq_some_iff.mpr ⟨stands, rfl⟩
  rw [replaceSegment, perform_writeTable]
  rcases world.tableOutage .replace with _ | (_ | _)
  · simp only [SegmentTable.replace, found, SegmentTable.insert_held stands]
  · rfl
  · rfl

/-- Segments come back from their text, and so does a contact just if its text is at most 127
    containers deep. After a segment was replaced by what its text gives, every engine answers as
    before. -/
theorem records_persist :
    (∀ segment : Segment, Segment.reader.ofText segment.toJson.text = .ok segment) ∧
    (∀ (contact : Contact) (order : List (String × Json)),
      order.Perm contact.customFields.members → (Json.object order).Exact →
        (Contact.reader.ofText (contact.jsonWith (.object order)).text = .ok contact ↔
          (contact.jsonWith (.object order)).depth ≤ 127)) ∧
    (∀ (world : World) (owner : OrganizationId) (id : SegmentId) (segment copy : Segment),
      world.segments.Filed → world.segments.find? owner id = some segment →
      Segment.reader.ofText segment.toJson.text = .ok copy →
        let performed := (Action.replaceSegment copy).perform world
        (world.tableOutage .replace = none → performed.1 = .ok true) ∧
          ∀ (engine : Engine) (asker : OrganizationId) (command : Command),
            (engine.carryOut asker command).perform performed.2 =
              (engine.carryOut asker command).perform world) := by
  refine ⟨Segment.ofText_text, fun _ _ => Contact.ofText_text_iff, ?_⟩
  intro world owner id segment copy filed found reload
  cases (Segment.ofText_text segment).symm.trans reload
  cases filed.id_of_find? found
  obtain ⟨stands, owned⟩ := SegmentTable.find?_eq_some_iff.mp found
  have same := Action.perform_replaceSegment_same stands
  refine ⟨fun working => ?_, fun engine asker command => ?_⟩
  · rw [Action.perform_replaceSegment_held working (owned ▸ found)]
  · exact congrArg (engine.carryOut asker command).perform same

namespace Nested

/-- A value with so many arrays around it. -/
def arrays : Nat → Json
  | 0 => .null
  | n + 1 => .array [arrays n]

theorem exact_arrays (n : Nat) : (arrays n).Exact := by
  induction n with
  | zero => trivial
  | succ n ih => exact ⟨ih, trivial⟩

theorem keyed_arrays (n : Nat) : (arrays n).Keyed := by
  induction n with
  | zero => trivial
  | succ n ih => exact ⟨ih, trivial⟩

theorem depth_arrays (n : Nat) : (arrays n).depth = n := by
  induction n with
  | zero => rfl
  | succ n ih => simp [arrays, Json.depth, Json.depthOfItems, ih]

/-- A contact that keeps the arrays in a custom field. -/
def contact (n : Nat) : Contact :=
  { Contact.blank SharedId.leads.id SharedId.north SharedId.today with
    customFields := ⟨[("a", arrays n)], List.pairwise_singleton _ _, keyed_arrays n, trivial⟩ }

theorem depth_toJson (n : Nat) : (contact n).toJson.depth = n + 2 := by
  rw [Contact.toJson, Contact.depth_jsonWith]
  simp [contact, CustomFields.toJson, Json.depth, Json.depthOfMembers, depth_arrays]

/-- A contact of 127 containers and a segment come back from their texts. -/
theorem deepest_reloaded :
    let world : World := { World.empty with segments := SharedId.table }
    (contact 125).toJson.depth ≤ 127 ∧
      Contact.reader.ofText (contact 125).toJson.text = .ok (contact 125) ∧
      Segment.reader.ofText SharedId.leads.toJson.text = .ok SharedId.leads ∧
      ((Action.replaceSegment SharedId.leads).perform world).1 = .ok true := by
  obtain ⟨segments, contacts, replacements⟩ := records_persist
  have flat : (contact 125).toJson.depth ≤ 127 := Nat.le_of_eq (depth_toJson 125)
  have filed : SharedId.table.Filed := SegmentTable.filed_empty.insert SharedId.leads
  have found : SharedId.table.find? SharedId.north SharedId.leads.id = some SharedId.leads := by
    decide +kernel
  have exact : (Json.object (contact 125).customFields.members).Exact := ⟨exact_arrays 125, trivial⟩
  have read : Contact.reader.ofText (contact 125).toJson.text = .ok (contact 125) :=
    (contacts (contact 125) _ (.refl _) exact).mpr flat
  obtain ⟨replaced, -⟩ := replacements { World.empty with segments := SharedId.table }
    SharedId.north SharedId.leads.id SharedId.leads SharedId.leads filed found (segments _)
  exact ⟨flat, read, segments SharedId.leads, replaced rfl⟩

/-- One array more and the contact does not come back. -/
theorem deeper_refused : Contact.reader.ofText (contact 126).toJson.text ≠ .ok (contact 126) := by
  intro read
  have exact : (Json.object (contact 126).customFields.members).Exact := ⟨exact_arrays 126, trivial⟩
  have flat : (contact 126).toJson.depth ≤ 127 := (Contact.ofText_text_iff (.refl _) exact).mp read
  have deep := depth_toJson 126
  omega

end Nested

end ContactSegments
