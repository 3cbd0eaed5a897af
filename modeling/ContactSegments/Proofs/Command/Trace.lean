import ContactSegments.Proofs.Command.Calls
import ContactSegments.Proofs.SegmentTable

/-! # What commands leave behind

A command that fails leaves the stores as they were, and so does one that only reads. One that writes
touches a single record, which is then the one that it shows. A call of a store that fails is never passed
over: its message is what the command reports, and a write that was declined is reported as a segment
that is not there.
-/

namespace ContactSegments

open ContactSegments.Action

namespace Course

variable {engine : Engine} {owner : OrganizationId} {world after : World} {command : Command}
  {result : Except SegmentError Reply}

theorem sameStores_queried (world : World) (window : Window) :
    world.SameStores (world.queried window) := ⟨rfl, rfl, rfl, rfl⟩

theorem sameStores_queryLost (world : World) (window : Window) :
    world.SameStores (world.queryLost window) := ⟨rfl, rfl, rfl, rfl⟩

theorem sameStores_of_error (course : Course engine owner world command result after)
    {error : SegmentError} (failed : result = .error error) : world.SameStores after := by
  subst failed
  cases course with
  | rejected => exact .counting world _
  | refused => exact .refl world
  | missing => exact .refl world
  | unserved => exact .refl world
  | stale => exact .counting world _
  | lost window => exact sameStores_queryLost world window

theorem sameStores_of_reads (course : Course engine owner world command result after)
    (reads : command.writes? = none) : world.SameStores after := by
  cases course with
  | told | refused | missing | unserved => exact .refl world
  | rejected | stale => exact .counting world _
  | found window => exact sameStores_queried world window
  | lost window => exact sameStores_queryLost world window
  | previewed => exact ⟨rfl, rfl, rfl, rfl⟩
  | created | updated | deleted => cases reads

/-- The one record that a command writes is the one that it shows, unless the command erases it. -/
theorem record_of_writes (course : Course engine owner world command result after)
    (filed : world.segments.Filed) {id : SegmentId} {reply : Reply}
    (writes : command.writes? = some id) (done : result = .ok reply) :
    after.contacts = world.contacts ∧
      (∀ other, other ≠ id → after.segments.records[other]? = world.segments.records[other]?) ∧
      ((∃ segment, reply = .segments (.segment segment) ∧
          after.segments.find? owner id = some segment) ∨
        command = .segments (.delete id) ∧ after.segments.records[id]? = none) := by
  subst done
  cases course with
  | told reads | found _ reads => rw [reads] at writes; cases writes
  | previewed => cases writes
  | @created new stamp segment made =>
      cases writes
      obtain ⟨stamped, owned⟩ := Engine.owner_of_draft made
      refine ⟨rfl, fun other different => ?_, .inl ⟨segment, rfl, ?_⟩⟩
      · rw [SegmentTable.getElem?_insert, if_neg (by rw [stamped]; exact different.symm)]
      · rw [SegmentTable.find?_insert, if_pos stamped, if_pos owned]
  | @updated id change now segment revised stands made =>
      cases writes
      obtain ⟨same, alike⟩ := Engine.owner_of_revise made
      have placed : revised.id = id := same.trans (filed.id_of_find? stands)
      have owned := alike.trans (SegmentTable.find?_eq_some_iff.mp stands).2
      refine ⟨rfl, fun other different => ?_, .inl ⟨revised, rfl, ?_⟩⟩
      · rw [SegmentTable.getElem?_insert, if_neg (by rw [placed]; exact different.symm)]
      · rw [SegmentTable.find?_insert, if_pos placed, if_pos owned]
  | deleted stands =>
      cases writes
      refine ⟨rfl, fun other different => ?_, .inr ⟨rfl, ?_⟩⟩
      · simp [Std.ExtTreeMap.getElem?_erase, different.symm]
      · simp

/-- A command whose query fails reports the failure. -/
theorem storage_of_queries {message : String} (course : Course engine owner world command result after)
    (asked : after.queries ≠ world.queries) (outage : world.contactOutage = some message) :
    result = .error (.evaluation (.storage message)) := by
  cases course with
  | told | rejected | refused | missing | unserved | stale | created | updated | deleted =>
      exact absurd rfl asked
  | found _ _ _ working | previewed working =>
      rw [working] at outage
      cases outage
  | lost _ failing =>
      rw [failing] at outage
      cases outage
      rfl

end Course

/-- What a command that gives this result leaves behind, whichever calls are out of order. -/
structure Trace (engine : Engine) (owner : OrganizationId) (world : World) (command : Command)
    (result : Except SegmentError Reply) (after : World) : Prop where
  fails : ∀ error, result = .error error → world.SameStores after
  reads : command.writes? = none → world.SameStores after
  /-- One record is written, and it is the one that is shown, or it is gone. -/
  writes : ∀ id reply, command.writes? = some id → result = .ok reply →
    after.contacts = world.contacts ∧
    (∀ other, other ≠ id → after.segments.records[other]? = world.segments.records[other]?) ∧
    ((∃ segment, reply = .segments (.segment segment) ∧
        after.segments.find? owner id = some segment) ∨
      command = .segments (.delete id) ∧ after.segments.records[id]? = none)
  /-- A query that fails is reported with its message. -/
  queried : ∀ message, after.queries ≠ world.queries → world.contactOutage = some message →
    result = .error (.evaluation (.storage message))
  /-- So is a call of the table that fails. -/
  called : ∀ call message, command.Reaches engine owner world call →
    world.tableOutage call = some (.failing message) →
    result = .error (.evaluation (.storage message))
  /-- A segment that the table does not replace or remove is reported as not there. -/
  spurned : ∀ call id, command.Reaches engine owner world call → call = .replace ∨ call = .remove →
    command.segment? = some id → world.Spurns owner id call → result = .error (.notFound id)
  /-- A call that the command does not get to may be out of order or not. -/
  ignored : ∀ call, ¬command.Reaches engine owner world call → ∀ outage,
    (engine.carryOut owner command).perform (world.withOutage call outage) =
      (result, after.withOutage call outage)

/-- A command that fails or only reads leaves the stores as they were, one that writes touches the record
    that it shows and no other, and no failure of a store is passed over. -/
theorem Engine.trace_carryOut (engine : Engine) (filed : world.segments.Filed)
    (owner : OrganizationId) (command : Command) :
    let performed := (engine.carryOut owner command).perform world
    Trace engine owner world command performed.1 performed.2 := by
  have course := engine.course_carryOut owner command world
  exact {
    fails := fun error failed => course.sameStores_of_error failed
    reads := course.sameStores_of_reads
    writes := fun id reply writes done => course.record_of_writes filed writes done
    queried := fun message => course.storage_of_queries
    called := fun call message reaches outage => congrArg Prod.fst (reaches.perform_failing outage)
    spurned := fun call id reaches writes about spurned =>
      congrArg Prod.fst (reaches.perform_spurned writes about spurned)
    ignored := fun call unreached => Command.ignores_of_not_reaches unreached }

namespace BrokenTable

open SharedId

def engine : Engine := ⟨.standard, .standard⟩

/-- Nothing can be replaced, and removals fail. -/
def world : World :=
  { World.empty with
    segments := table
    tableOutage := fun
      | .replace => some .declining
      | .remove => some (.failing "disk full")
      | .insert | .get | .list => none }

def rename : Command := .segments (.update leads.id ⟨some "Hot leads", none, none⟩ today)

theorem rename_leaves_no_trace :
    let performed := (engine.carryOut north rename).perform world
    world.segments.Filed ∧ performed.1 = .error (.notFound leads.id) ∧
      world.SameStores performed.2 ∧
      ((engine.carryOut north (.segments (.delete leads.id))).perform world).1 =
        .error (.evaluation (.storage "disk full")) := by
  have filed : world.segments.Filed := SegmentTable.filed_empty.insert leads
  have stands : world.segments.find? north leads.id = some leads := by decide +kernel
  have reaches : rename.Reaches engine north world .replace :=
    .replace (World.answers_of_working rfl) stands rfl
  have refused := (engine.trace_carryOut filed north rename).spurned .replace leads.id reaches
    (.inl rfl) rfl (.inl rfl)
  refine ⟨filed, refused, (engine.trace_carryOut filed north rename).fails _ refused, ?_⟩
  exact (engine.trace_carryOut filed north (.segments (.delete leads.id))).called .remove _ .remove rfl

end BrokenTable

end ContactSegments
