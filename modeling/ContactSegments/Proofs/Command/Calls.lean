import ContactSegments.Proofs.Command.Course

/-! # Calls of the table

A command calls the table in a few places, and in each of them once. If a call that it gets to fails, the
command does, with the same message; if a write is declined, it is as if the segment were not there.
A call that the command does not get to may be out of order or not.
-/

namespace ContactSegments

open ContactSegments.Action

/-- In this world the command gets as far as this call of the table. -/
inductive Command.Reaches (engine : Engine) (owner : OrganizationId) (world : World) :
    Command → TableCall → Prop
  | list : Reaches engine owner world (.segments .list) .list
  | get {operation : Operation} {id : SegmentId} (about : operation.segment? = some id)
      (keeps : operation ≠ .delete id) : Reaches engine owner world (.segments operation) .get
  | insert {new : NewSegment} {stamp : Stamp} {segment : Segment}
      (made : engine.draft owner new stamp = .ok segment) :
      Reaches engine owner world (.segments (.create new stamp)) .insert
  | replace {id : SegmentId} {change : SegmentChange} {now : Instant} {segment revised : Segment}
      (answers : world.Answers .get) (stands : world.segments.find? owner id = some segment)
      (made : engine.revise segment change now = .ok revised) :
      Reaches engine owner world (.segments (.update id change now)) .replace
  | remove {id : SegmentId} : Reaches engine owner world (.segments (.delete id)) .remove

/-- The table does not do what this call asks for: it declines to, or it has no such segment. -/
def World.Spurns (world : World) (owner : OrganizationId) (id : SegmentId) (call : TableCall) : Prop :=
  world.tableOutage call = some .declining ∨
    world.tableOutage call = none ∧ world.segments.find? owner id = none

namespace Engine

variable (engine : Engine) {owner : OrganizationId} {world : World} {id : SegmentId}

theorem held_of_perform_get {segment : Segment} {after : World}
    (found : (get owner id).perform world = (.ok segment, after)) :
    world.Answers .get ∧ world.segments.find? owner id = some segment := by
  have answers : world.Answers .get := by
    intro message failing
    rw [perform_get_failing failing id] at found
    cases found
  refine ⟨answers, ?_⟩
  rw [perform_get answers] at found
  split at found
  · rename_i held stands
    cases found
    exact stands
  · cases found

/-- Whatever is asked about a segment begins with looking it up, unless it is to be deleted. -/
theorem serve_eq_get_bind (owner : OrganizationId) {operation : Operation}
    (about : operation.segment? = some id)
    (keeps : operation ≠ .delete id) :
    ∃ next, engine.serve owner operation = get owner id >>= next := by
  cases operation with
  | create | list => cases about
  | delete =>
      cases about
      exact absurd rfl keeps
  | update _ change now =>
      cases about
      exact ⟨_, by rw [serve, update, bind_assoc]⟩
  | get =>
      cases about
      exact ⟨_, rfl⟩
  | count | members | evaluate =>
      cases about
      exact ⟨_, engine.serve_of_evaluation? owner rfl⟩

/-- An update that was admitted puts the revised record in place of the old one. -/
theorem perform_update_admitted {segment revised : Segment} {change : SegmentChange} {now : Instant}
    (answers : world.Answers .get) (stands : world.segments.find? owner id = some segment)
    (made : engine.revise segment change now = .ok revised) :
    (engine.update owner id change now).perform world =
      match (replaceSegment revised).perform world with
      | (.ok true, after) => (.ok revised, after)
      | (.ok false, after) => (.error (.notFound id), after)
      | (.error error, after) => (.error error, after) := by
  unfold update
  rw [perform_bind_ok (perform_get_held answers stands), perform_bind, perform_admitted, made]
  dsimp only
  rw [perform_bind]
  rcases (replaceSegment revised).perform world with ⟨error | done, after⟩
  · rfl
  · cases done <;> rfl

end Engine

namespace Command.Reaches

variable {engine : Engine} {owner : OrganizationId} {world : World} {command : Command}
  {call : TableCall}

theorem perform_failing (reaches : command.Reaches engine owner world call) {message : String}
    (outage : world.tableOutage call = some (.failing message)) :
    (engine.carryOut owner command).perform world =
      (.error (.evaluation (.storage message)), world) := by
  cases reaches with
  | list =>
      have failed : (Engine.list owner).perform world =
          (.error (.evaluation (.storage message)), world) := by
        rw [Engine.list, listSegments, perform_readTable, outage]
      exact perform_bind_error (perform_bind_error failed)
  | get about keeps =>
      obtain ⟨next, looked⟩ := engine.serve_eq_get_bind owner about keeps
      refine perform_bind_error ?_
      rw [looked]
      exact perform_bind_error (Engine.perform_get_failing outage _)
  | @insert new stamp segment made =>
      have failed := engine.perform_create owner new stamp world
      rw [made, outage] at failed
      exact perform_bind_error (perform_bind_error failed)
  | @replace id change now segment revised answers stands made =>
      have failed := engine.perform_update_admitted answers stands made
      rw [replaceSegment, perform_writeTable, outage] at failed
      exact perform_bind_error (perform_bind_error failed)
  | @remove id =>
      have failed : (removeSegment owner id).perform world =
          (.error (.evaluation (.storage message)), world) := by
        rw [removeSegment, perform_writeTable, outage]
      exact perform_bind_error (perform_bind_error (perform_bind_error failed))

theorem perform_spurned (reaches : command.Reaches engine owner world call)
    (writes : call = .replace ∨ call = .remove) {id : SegmentId} (about : command.segment? = some id)
    (spurned : world.Spurns owner id call) :
    (engine.carryOut owner command).perform world = (.error (.notFound id), world) := by
  cases reaches with
  | list | get | insert => cases writes <;> contradiction
  | @replace _ change now segment revised answers stands made =>
      cases about
      rcases spurned with declined | ⟨-, absent⟩
      · have failed := engine.perform_update_admitted answers stands made
        rw [replaceSegment, perform_writeTable, declined] at failed
        exact perform_bind_error (perform_bind_error failed)
      · rw [stands] at absent
        cases absent
  | remove =>
      cases about
      refine perform_bind_error (perform_bind_error ?_)
      rcases spurned with declined | ⟨working, absent⟩
      · have undone : (removeSegment owner id).perform world = (.ok false, world) := by
          rw [removeSegment, perform_writeTable, declined]
        unfold Engine.delete
        rw [perform_bind_ok undone]
        rfl
      · exact Engine.perform_delete_unseen working absent

end Command.Reaches

/-- The same world, but this call of the table is so out of order. -/
def World.withOutage (world : World) (call : TableCall) (outage : Option Outage) : World :=
  { world with
    tableOutage := fun other => if other = call then outage else world.tableOutage other }

namespace Action

variable {α β : Type} {call : TableCall} {world : World}

/-- What is done in this world is the same whether or not this call is out of order. -/
def Ignores (act : Action α) (call : TableCall) (world : World) : Prop :=
  ∀ outage, act.perform (world.withOutage call outage) =
    ((act.perform world).1, (act.perform world).2.withOutage call outage)

/-- Later parts are looked at only where the earlier ones lead. -/
theorem Ignores.bind {act : Action α} {next : α → Action β} (first : act.Ignores call world)
    (rest : ∀ a after, act.perform world = (.ok a, after) → (next a).Ignores call after) :
    (act >>= next).Ignores call world := by
  intro outage
  rw [perform_bind, perform_bind, first outage]
  rcases given : act.perform world with ⟨_ | a, after⟩
  · rfl
  · exact rest a after given outage

theorem ignores_pure (a : α) : (pure a : Action α).Ignores call world := fun _ => rfl

theorem Ignores.map {act : Action α} (first : act.Ignores call world) (f : α → β) :
    (do return f (← act) : Action β).Ignores call world :=
  first.bind fun _ _ _ => ignores_pure _

theorem ignores_throw (error : SegmentError) : (throw error : Action α).Ignores call world :=
  fun _ => rfl

theorem ignores_count (counter : Counter) : (count counter).Ignores call world := fun _ => rfl

theorem ignores_evaluated (result : Except EvaluationError α) :
    (evaluated result).Ignores call world := by
  intro outage
  simp only [perform_evaluated]

theorem ignores_admitted (result : Except ValidationError α) :
    (admitted result).Ignores call world := by
  intro outage
  simp only [perform_admitted]
  cases result with
  | ok value => rfl
  | error error =>
      simp only [rejecting]
      split <;> rfl

theorem ignores_measured (counter : Counter) (predicate : Predicate) (window : Window) :
    (measured counter predicate window).Ignores call world := by
  intro outage
  rw [perform_measured, perform_measured]
  obtain ⟨contacts, segments, metrics, queries, lost, tableOutage⟩ := world
  cases lost <;> rfl

theorem withOutage_of_ne {other : TableCall} (different : other ≠ call) (outage : Option Outage) :
    (world.withOutage call outage).tableOutage other = world.tableOutage other := if_neg different

theorem ignores_readTable {other : TableCall} (different : other ≠ call)
    (read : SegmentTable → α) : (readTable other read).Ignores call world := by
  intro outage
  rw [perform_readTable, perform_readTable, withOutage_of_ne different]
  rfl

theorem ignores_writeTable {other : TableCall} (different : other ≠ call)
    (write : SegmentTable → Bool × SegmentTable) :
    (writeTable other write).Ignores call world := by
  intro outage
  rw [perform_writeTable, perform_writeTable, withOutage_of_ne different]
  rcases world.tableOutage other with _ | (_ | _) <;> rfl

theorem ignores_insertSegment (different : .insert ≠ call) (segment : Segment) :
    (insertSegment segment).Ignores call world := by
  intro outage
  rw [perform_insertSegment, perform_insertSegment, withOutage_of_ne different]
  rcases world.tableOutage .insert with _ | (_ | _) <;> rfl

end Action

namespace Engine

variable (engine : Engine) {organization : OrganizationId} {call : TableCall} {world : World}

theorem ignores_toPredicate (conditions : List Condition) :
    (engine.toPredicate organization conditions).Ignores call world :=
  (ignores_admitted _).bind fun _ _ _ => ignores_evaluated _

theorem ignores_storedPredicate (segment : Segment) :
    (engine.storedPredicate segment).Ignores call world := by
  unfold storedPredicate
  cases segment.kind with
  | static => exact ignores_pure _
  | dynamic =>
      cases engine.check segment.criteria.conditions with
      | ok group => exact ignores_evaluated _
      | error error => exact (ignores_count _).bind fun _ _ _ => ignores_throw _

theorem ignores_countMatches (predicate : Predicate) :
    (countMatches predicate).Ignores call world := (ignores_measured _ _ _).map _

theorem ignores_pageMatches (predicate : Predicate) (page : Page) :
    (engine.pageMatches predicate page).Ignores call world := by
  unfold pageMatches
  cases page.check engine.limits.maxPageSize with
  | error cause => exact ignores_throw _
  | ok _ => exact (ignores_measured _ _ _).map _

theorem ignores_evaluateFound (evaluation : Evaluation) (segment : Segment) :
    (engine.evaluateFound evaluation segment).Ignores call world := by
  refine (engine.ignores_storedPredicate segment).bind fun predicate _ _ => ?_
  cases evaluation with
  | count => exact (ignores_countMatches predicate).map _
  | members page => exact (engine.ignores_pageMatches predicate page).map _

theorem ignores_get (different : .get ≠ call) (id : SegmentId) :
    (get organization id).Ignores call world := by
  refine (ignores_readTable different _).bind fun found _ _ => ?_
  cases found with
  | some segment => exact ignores_pure _
  | none => exact ignores_throw _

theorem ignores_list (different : .list ≠ call) : (list organization).Ignores call world := by
  unfold list listSegments
  exact ignores_readTable different _

end Engine

namespace Command

variable {engine : Engine} {owner : OrganizationId} {call : TableCall} {world : World}

theorem ignores_create {new : NewSegment} {stamp : Stamp}
    (unreached : ¬Reaches engine owner world (.segments (.create new stamp)) call) :
    (engine.create owner new stamp).Ignores call world := by
  refine (ignores_admitted _).bind fun segment after made => ?_
  have different : .insert ≠ call := by
    rintro rfl
    rw [perform_admitted] at made
    split at made <;> cases made
    exact unreached (.insert ‹_›)
  exact (ignores_insertSegment different segment).map _

theorem ignores_update {id : SegmentId} {change : SegmentChange} {now : Instant}
    (unreached : ¬Reaches engine owner world (.segments (.update id change now)) call) :
    (engine.update owner id change now).Ignores call world := by
  have looks : .get ≠ call := by
    rintro rfl
    exact unreached (.get rfl nofun)
  refine (Engine.ignores_get looks id).bind fun segment after found => ?_
  refine (ignores_admitted _).bind fun revised later made => ?_
  have replaces : .replace ≠ call := by
    rintro rfl
    obtain ⟨answers, stands⟩ := Engine.held_of_perform_get found
    rw [perform_admitted] at made
    split at made <;> cases made
    exact unreached (.replace answers stands ‹_›)
  refine (ignores_writeTable replaces _).bind fun done _ _ => ?_
  cases done with
  | true => exact ignores_pure _
  | false => exact ignores_throw _

theorem ignores_delete {id : SegmentId}
    (unreached : ¬Reaches engine owner world (.segments (.delete id)) call) :
    (Engine.delete owner id).Ignores call world := by
  have removes : .remove ≠ call := by
    rintro rfl
    exact unreached .remove
  refine (ignores_writeTable removes _).bind fun done _ _ => ?_
  cases done with
  | true => exact ignores_pure _
  | false => exact ignores_throw _

/-- A call that the command does not get to may be out of order or not. -/
theorem ignores_of_not_reaches {command : Command}
    (unreached : ¬command.Reaches engine owner world call) :
    (engine.carryOut owner command).Ignores call world := by
  cases command with
  | fields => exact ignores_pure _
  | predicate conditions => exact (engine.ignores_toPredicate conditions).map _
  | previewCount conditions =>
      exact .map ((engine.ignores_toPredicate conditions).bind fun predicate _ _ =>
        (Engine.ignores_countMatches predicate).bind fun _ _ _ => (ignores_count _).map _) _
  | previewMembers conditions page =>
      exact .map ((engine.ignores_toPredicate conditions).bind fun predicate _ _ =>
        engine.ignores_pageMatches predicate page) _
  | segments operation =>
      refine .map ?_ _
      have looks : ∀ {id}, operation.segment? = some id → operation ≠ .delete id → .get ≠ call := by
        rintro id about keeps rfl
        exact unreached (.get about keeps)
      cases operation with
      | create new stamp => exact (ignores_create unreached).map _
      | update id change now => exact (ignores_update unreached).map _
      | delete id => exact (ignores_delete unreached).bind fun _ _ _ => ignores_pure _
      | get id => exact (Engine.ignores_get (looks rfl nofun) id).map _
      | list =>
          have lists : .list ≠ call := by
            rintro rfl
            exact unreached .list
          exact (Engine.ignores_list lists).map _
      | count id | members id | evaluate id =>
          rw [engine.serve_of_evaluation? owner rfl]
          exact (Engine.ignores_get (looks rfl nofun) id).bind fun segment _ _ =>
            engine.ignores_evaluateFound _ segment

end Command

end ContactSegments
