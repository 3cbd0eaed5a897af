import ContactSegments.Proofs.Service.Owner

/-! # Keeping segments

What looking up, changing and deleting a segment gives and leaves. Where the table answers, the outcome
depends on what stands in it alone.
-/

namespace ContactSegments

/-- Calls of this kind do not fail. -/
def World.Answers (world : World) (call : TableCall) : Prop :=
  ∀ message, world.tableOutage call ≠ some (.failing message)

theorem World.answers_of_working {world : World} {call : TableCall}
    (working : world.tableOutage call = none) : world.Answers call := by
  intro message failing
  rw [working] at failing
  cases failing

namespace Action

variable {α : Type} {world : World}

theorem perform_readTable_of_answers {call : TableCall} (answers : world.Answers call)
    (read : SegmentTable → α) :
    (readTable call read).perform world = (.ok (read world.segments), world) := by
  rw [perform_readTable]
  split
  · rename_i message failing
    exact absurd failing (answers message)
  · rfl

theorem perform_insertSegment_of_answers (answers : world.Answers .insert) (segment : Segment) :
    (insertSegment segment).perform world =
      (.ok (), { world with segments := world.segments.insert segment }) := by
  rw [perform_insertSegment]
  split
  · rename_i message failing
    exact absurd failing (answers message)
  · rfl

theorem perform_replaceSegment_of_working (working : world.tableOutage .replace = none)
    (segment : Segment) :
    (replaceSegment segment).perform world =
      match world.segments.find? segment.organization segment.id with
      | some _ => (.ok true, { world with segments := world.segments.insert segment })
      | none => (.ok false, world) := by
  rw [replaceSegment, perform_writeTable, working]
  dsimp only
  unfold SegmentTable.replace
  cases world.segments.find? segment.organization segment.id <;> rfl

theorem perform_replaceSegment_held (working : world.tableOutage .replace = none)
    {segment held : Segment}
    (stands : world.segments.find? segment.organization segment.id = some held) :
    (replaceSegment segment).perform world =
      (.ok true, { world with segments := world.segments.insert segment }) := by
  rw [perform_replaceSegment_of_working working, stands]

theorem perform_removeSegment_of_working (working : world.tableOutage .remove = none)
    (organization : OrganizationId) (id : SegmentId) :
    (removeSegment organization id).perform world =
      match world.segments.find? organization id with
      | some _ => (.ok true, { world with segments := ⟨world.segments.records.erase id⟩ })
      | none => (.ok false, world) := by
  rw [removeSegment, perform_writeTable, working]
  dsimp only
  unfold SegmentTable.remove
  cases world.segments.find? organization id <;> rfl

end Action

namespace Engine

open ContactSegments.Action

variable {organization : OrganizationId} {id : SegmentId} {world : World}

theorem perform_get (answers : world.Answers .get) (organization : OrganizationId) (id : SegmentId) :
    (get organization id).perform world =
      match world.segments.find? organization id with
      | some segment => (.ok segment, world)
      | none => (.error (.notFound id), world) := by
  have looked : (findSegment organization id).perform world =
      (.ok (world.segments.find? organization id), world) := perform_readTable_of_answers answers _
  unfold get
  rw [perform_bind_ok looked]
  cases world.segments.find? organization id <;> rfl

theorem perform_get_held (answers : world.Answers .get) {segment : Segment}
    (held : world.segments.find? organization id = some segment) :
    (get organization id).perform world = (.ok segment, world) := by
  rw [perform_get answers, held]

theorem perform_get_unseen (answers : world.Answers .get)
    (unseen : world.segments.find? organization id = none) :
    (get organization id).perform world = (.error (.notFound id), world) := by
  rw [perform_get answers, unseen]

theorem perform_list (answers : world.Answers .list) (organization : OrganizationId) :
    (list organization).perform world = (.ok (world.segments.list organization), world) :=
  perform_readTable_of_answers answers (SegmentTable.list · organization)

theorem perform_create (engine : Engine) (organization : OrganizationId) (new : NewSegment)
    (stamp : Stamp) (world : World) :
    (engine.create organization new stamp).perform world =
      match engine.draft organization new stamp with
      | .error error => (.error (.validation error), rejecting error world)
      | .ok segment =>
        match world.tableOutage .insert with
        | some (.failing message) => (.error (.evaluation (.storage message)), world)
        | _ => (.ok segment, { world with segments := world.segments.insert segment }) := by
  unfold create
  rw [perform_bind, perform_admitted]
  cases engine.draft organization new stamp with
  | error error => rfl
  | ok segment =>
      dsimp only
      rw [perform_bind, perform_insertSegment]
      rcases world.tableOutage .insert with _ | (_ | _) <;> rfl

/-- The revised segment takes the place of the one that was looked up, which is still there. -/
theorem perform_update (engine : Engine) (working : ∀ call, world.tableOutage call = none)
    (filed : world.segments.Filed) (organization : OrganizationId) (id : SegmentId)
    (change : SegmentChange) (now : Instant) :
    (engine.update organization id change now).perform world =
      match world.segments.find? organization id with
      | none => (.error (.notFound id), world)
      | some segment =>
        match engine.revise segment change now with
        | .error error => (.error (.validation error), rejecting error world)
        | .ok revised => (.ok revised, { world with segments := world.segments.insert revised }) := by
  unfold update
  rw [perform_bind, perform_get (World.answers_of_working (working .get))]
  cases found : world.segments.find? organization id with
  | none => rfl
  | some segment =>
      dsimp only
      rw [perform_bind, perform_admitted]
      cases made : engine.revise segment change now with
      | error error => rfl
      | ok revised =>
          obtain ⟨same, alike⟩ := owner_of_revise made
          have stands : world.segments.find? revised.organization revised.id = some segment := by
            rw [same, alike, filed.id_of_find? found, (SegmentTable.find?_eq_some_iff.mp found).2, found]
          dsimp only
          rw [perform_bind_ok (perform_replaceSegment_held (working .replace) stands)]
          rfl

theorem perform_delete (working : world.tableOutage .remove = none) (organization : OrganizationId)
    (id : SegmentId) :
    (delete organization id).perform world =
      match world.segments.find? organization id with
      | some _ => (.ok (), { world with segments := ⟨world.segments.records.erase id⟩ })
      | none => (.error (.notFound id), world) := by
  unfold delete
  rw [perform_bind, perform_removeSegment_of_working working]
  cases world.segments.find? organization id <;> rfl

theorem perform_delete_unseen (working : world.tableOutage .remove = none)
    (unseen : world.segments.find? organization id = none) :
    (delete organization id).perform world = (.error (.notFound id), world) := by
  rw [perform_delete working, unseen]

end Engine

end ContactSegments
