import ContactSegments.Proofs.Service.Reading
import ContactSegments.Proofs.Traffic.Schedule

/-! # What the parts of operations do

Only the last part of an operation writes. What it does is decided by what stands in the table at that
time, and by the id and the owner that the operation was asked for with, whatever has happened since its
earlier parts.
-/

namespace ContactSegments

open ContactSegments.Action

/-- The table answers all calls, and every segment in it stands under its own id. -/
structure World.InOrder (world : World) : Prop where
  working : ∀ call, world.tableOutage call = none
  filed : world.segments.Filed

namespace World.InOrder

variable {world after : World}

theorem of_sameStores (order : world.InOrder) (same : world.SameStores after) : after.InOrder where
  working := same.tableOutage ▸ order.working
  filed := same.segments ▸ order.filed

theorem withSegments (order : world.InOrder) {segments : SegmentTable} (filed : segments.Filed) :
    InOrder { world with segments } := ⟨order.working, filed⟩

theorem answers (order : world.InOrder) (call : TableCall) : world.Answers call :=
  World.answers_of_working (order.working call)

end World.InOrder

/-- What the last part of an operation gives in a world, and the world that it leaves. -/
def Operation.Settles (organization : OrganizationId) (operation : Operation) (world : World)
    (result : Except SegmentError Answer) (after : World) : Prop :=
  match operation with
  | .create _ stamp =>
    ∃ segment, segment.id = stamp.id ∧ segment.organization = organization ∧
      (result, after) =
        (.ok (.segment segment), { world with segments := world.segments.insert segment })
  | .update id _ _ =>
    ∃ revised, revised.id = id ∧ revised.organization = organization ∧
      (result, after) =
        match world.segments.find? organization id with
        | some _ => (.ok (.segment revised), { world with segments := world.segments.insert revised })
        | none => (.error (.notFound id), world)
  | .delete id =>
    (result, after) =
      match world.segments.find? organization id with
      | some _ => (.ok .deleted, { world with segments := ⟨world.segments.records.erase id⟩ })
      | none => (.error (.notFound id), world)
  | .get _ | .list | .count _ | .members _ _ | .evaluate _ _ => world.SameStores after

/-- All parts but the last one read, and the last one settles the operation. -/
def Script.Sound (settles : World → Except SegmentError α → World → Prop) : Script α → Prop
  | .last act => ∀ world, world.InOrder → settles world (act.perform world).1 (act.perform world).2
  | .part first next =>
    first.Reads ∧ ∀ world segment, world.InOrder → (first.perform world).1 = .ok segment →
      (next segment).Sound settles

namespace Engine

variable {organization : OrganizationId} {id : SegmentId}

/-- What is looked up has the id and the owner that it was looked up with. -/
theorem found_of_perform_get {world : World} (order : world.InOrder) {segment : Segment}
    (done : ((get organization id).perform world).1 = .ok segment) :
    world.segments.find? organization id = some segment := by
  rw [perform_get (order.answers .get)] at done
  cases found : world.segments.find? organization id with
  | none =>
      rw [found] at done
      cases done
  | some held =>
      rw [found] at done
      cases done
      rfl

theorem made_of_perform_admitted {result : Except ValidationError α} {world : World} {a : α}
    (done : ((admitted result).perform world).1 = .ok a) : result = .ok a := by
  rw [perform_admitted] at done
  cases result with
  | ok value =>
      cases done
      rfl
  | error error => cases done

theorem settles_storing {revised : Segment} (named : revised.id = id)
    (owned : revised.organization = organization) (change : SegmentChange) (now : Instant) :
    (storing id revised).Sound (Operation.Settles organization (.update id change now)) := by
  intro world order
  refine ⟨revised, named, owned, ?_⟩
  rw [perform_bind, perform_replaceSegment_of_working (order.working .replace), named, owned]
  cases world.segments.find? organization id <;> rfl

theorem reads_evaluateFound (engine : Engine) (evaluation : Evaluation) (segment : Segment) :
    (engine.evaluateFound evaluation segment).Reads := by
  refine (engine.reads_storedPredicate segment).bind fun predicate => ?_
  cases evaluation with
  | count => exact (reads_countMatches _).map _
  | members page => exact (engine.reads_pageMatches _ _).map _

theorem sound_script (engine : Engine) (organization : OrganizationId) (operation : Operation) :
    (engine.script organization operation).Sound (operation.Settles organization) := by
  cases operation with
  | create new stamp =>
      refine ⟨reads_admitted _, fun world segment _ done world' order => ?_⟩
      obtain ⟨stamped, owned⟩ := owner_of_draft (made_of_perform_admitted done)
      refine ⟨segment, stamped, owned, ?_⟩
      rw [perform_bind_ok (perform_insertSegment_of_answers (order.answers .insert) segment)]
      rfl
  | get id =>
      exact ⟨reads_get _ _, fun world segment _ _ world' _ => reads_pure _ world'⟩
  | list => exact fun world _ => ((reads_list organization).map _) world
  | update id change now =>
      refine ⟨reads_get _ _, fun world segment order done => ?_⟩
      refine ⟨reads_admitted _, fun _ revised _ made => ?_⟩
      have found := found_of_perform_get order done
      obtain ⟨same, owned⟩ := owner_of_revise (made_of_perform_admitted made)
      exact settles_storing (same.trans (order.filed.id_of_find? found))
        (owned.trans (SegmentTable.find?_eq_some_iff.mp found).2) change now
  | delete id =>
      intro world order
      change (_, _) = _
      rw [perform_bind, perform_delete (order.working .remove)]
      cases world.segments.find? organization id <;> rfl
  | count id =>
      exact ⟨reads_get _ _, fun _ segment _ _ world _ => engine.reads_evaluateFound _ segment world⟩
  | members id page =>
      exact ⟨reads_get _ _, fun _ segment _ _ world _ => engine.reads_evaluateFound _ segment world⟩
  | evaluate id evaluation =>
      exact ⟨reads_get _ _, fun _ segment _ _ world _ => engine.reads_evaluateFound _ segment world⟩

end Engine

theorem Operation.Settles.inOrder {organization : OrganizationId} {operation : Operation}
    {world after : World} {result : Except SegmentError Answer}
    (settled : operation.Settles organization world result after) (order : world.InOrder) :
    after.InOrder := by
  cases operation with
  | create new stamp =>
      obtain ⟨segment, -, -, same⟩ := settled
      cases same
      exact order.withSegments (order.filed.insert segment)
  | update id change now =>
      obtain ⟨revised, -, -, same⟩ := settled
      split at same <;> cases same
      · exact order.withSegments (order.filed.insert revised)
      · exact order
  | delete id =>
      unfold Operation.Settles at settled
      dsimp only at settled
      split at settled <;> cases settled
      · exact order.withSegments (order.filed.erase id)
      · exact order
  | get | list | count | members | evaluate => exact order.of_sameStores settled

/-- What is left of the call settles its operation. -/
def ClientCall.Sound (call : ClientCall) : Prop :=
  ∀ script, call.progress = .running script →
    script.Sound (call.operation.Settles call.organization)

/-- What can become of a call and its world when it is the call's turn. -/
inductive ClientCall.Turn (call : ClientCall) (world : World) : ClientCall → World → Prop
  /-- The call had returned before. -/
  | rests {result : Except SegmentError Answer} (done : call.progress = .returned result) :
      Turn call world call world
  | goesOn {script next : Script Answer} {after : World} (running : call.progress = .running script)
      (sound : next.Sound (call.operation.Settles call.organization))
      (reads : world.SameStores after) : Turn call world { call with progress := .running next } after
  /-- A part that is not the last one fails. -/
  | fails {script : Script Answer} {error : SegmentError} {after : World}
      (running : call.progress = .running script) (reads : world.SameStores after) :
      Turn call world { call with progress := .returned (.error error) } after
  | settles {script : Script Answer} {result : Except SegmentError Answer} {after : World}
      (running : call.progress = .running script)
      (settled : call.operation.Settles call.organization world result after) :
      Turn call world { call with progress := .returned result } after

namespace ClientCall

variable {call advanced : ClientCall} {world after : World}

theorem turn_advance (sound : call.Sound) (order : world.InOrder) :
    call.Turn world (call.advance world).1 (call.advance world).2 := by
  cases progress : call.progress with
  | returned result =>
      rw [advance_returned progress]
      exact .rests progress
  | running script =>
      have settling := sound script progress
      cases script with
      | last act =>
          rw [advance_last progress]
          exact .settles progress (settling world order)
      | part first next =>
          obtain ⟨reads, later⟩ := settling
          have read := reads world
          have sound := later world
          rcases done : first.perform world with ⟨error | segment, after⟩ <;> rw [done] at read sound
          · rw [advance_part_error progress done]
            exact .fails progress read
          · rw [advance_part_ok progress done]
            exact .goesOn progress (sound segment order rfl) read

theorem Turn.inOrder (turn : call.Turn world advanced after) (order : world.InOrder) :
    after.InOrder := by
  cases turn with
  | rests _ => exact order
  | goesOn _ _ reads => exact order.of_sameStores reads
  | fails _ reads => exact order.of_sameStores reads
  | settles _ settled => exact settled.inOrder order

theorem Turn.sound (turn : call.Turn world advanced after) : advanced.Sound := by
  cases turn with
  | rests done =>
      intro script running
      rw [done] at running
      cases running
  | goesOn _ sound _ =>
      intro script running
      cases running
      exact sound
  | fails _ _ => exact fun _ running => nomatch running
  | settles _ _ => exact fun _ running => nomatch running

end ClientCall

namespace Traffic

variable {traffic : Traffic}

/-- The world is in order, and all calls can be relied on to settle their operations. -/
structure Sound (traffic : Traffic) : Prop where
  order : traffic.world.InOrder
  calls : ∀ (i : Nat) (call : ClientCall), traffic.calls[i]? = some call → call.Sound

theorem sound_start (engine : Engine) (asked : List (OrganizationId × Operation)) {world : World}
    (order : world.InOrder) : (start engine asked world).Sound where
  order := order
  calls := by
    intro i call here
    simp only [start, List.getElem?_map, Option.map_eq_some_iff] at here
    obtain ⟨⟨organization, operation⟩, -, rfl⟩ := here
    intro script running
    cases running
    exact engine.sound_script organization operation

theorem Sound.turn (sound : traffic.Sound) {i : Nat} {call : ClientCall}
    (here : traffic.calls[i]? = some call) :
    call.Turn traffic.world (call.advance traffic.world).1 (traffic.step i).world := by
  rw [step_of_some here]
  exact ClientCall.turn_advance (sound.calls i call here) sound.order

theorem Sound.step (sound : traffic.Sound) (i : Nat) : (traffic.step i).Sound := by
  cases here : traffic.calls[i]? with
  | none =>
      rw [step_of_none here]
      exact sound
  | some call =>
      have turn := sound.turn here
      refine ⟨turn.inOrder sound.order, fun j other there => ?_⟩
      by_cases same : i = j
      · subst same
        rw [getElem?_step_self here] at there
        cases there
        exact turn.sound
      · rw [getElem?_step_ne same] at there
        exact sound.calls j other there

theorem Sound.run (sound : traffic.Sound) (schedule : List Nat) : (traffic.run schedule).Sound := by
  induction schedule generalizing traffic with
  | nil => exact sound
  | cons i schedule ih => exact ih (sound.step i)

end Traffic

end ContactSegments
