import ContactSegments.Proofs.Traffic.LastPart

/-! # Deleted segments

A segment that was deleted does not come back, however the operations of any number of clients are
interleaved. The argument counts: a segment is stored as often as it was created and not yet deleted,
and since no two segments are created under one id, it is never created after its deletion.
-/

namespace ContactSegments

open ContactSegments.Action

/-- One if something stands under the id, otherwise zero. -/
def World.holds (world : World) (id : SegmentId) : Nat := world.segments.records[id]?.isSome.toNat

/-- The new segments get ids that differ from one another and from those of all segments that there
    are. -/
def FreshIds (asked : List (OrganizationId × Operation)) (world : World) : Prop :=
  (asked.filterMap (·.2.creates?)).Nodup ∧
    ∀ id ∈ asked.filterMap (·.2.creates?), world.segments.records[id]? = none

namespace ClientCall

variable {call : ClientCall} {id : SegmentId}

/-- The call has created the segment with this id. -/
def created (id : SegmentId) (call : ClientCall) : Bool :=
  match call.operation, call.progress with
  | .create _ stamp, .returned (.ok _) => stamp.id = id
  | _, _ => false

/-- The call has deleted the segment with this id. -/
def erased (id : SegmentId) (call : ClientCall) : Bool :=
  match call.operation, call.progress with
  | .delete deleted, .returned (.ok _) => deleted = id
  | _, _ => false

theorem creates?_of_created (created : call.created id) : call.operation.creates? = some id := by
  unfold ClientCall.created at created
  split at created
  · rename_i asked _
    rw [asked, Operation.creates?, of_decide_eq_true created]
  · cases created

theorem returned_of_erased (erased : call.erased id = true) :
    ∃ result, call.progress = .returned result := by
  cases progress : call.progress with
  | running script => simp [ClientCall.erased, progress] at erased
  | returned result => exact ⟨result, rfl⟩

theorem not_created_of_running {script : Script Answer} (running : call.progress = .running script) :
    call.created id = false := by
  simp [created, running]

theorem not_erased_of_running {script : Script Answer} (running : call.progress = .running script) :
    call.erased id = false := by
  simp [erased, running]

end ClientCall

namespace World

theorem holds_eq_zero_iff {world : World} {id : SegmentId} :
    world.holds id = 0 ↔ world.segments.records[id]? = none := by
  unfold holds
  cases world.segments.records[id]? <;> simp

theorem holds_of_sameStores {world after : World} (same : world.SameStores after) (id : SegmentId) :
    after.holds id = world.holds id := by
  unfold holds
  rw [same.segments]

theorem holds_insert (world : World) (segment : Segment) (id : SegmentId) :
    holds { world with segments := world.segments.insert segment } id =
      if segment.id = id then 1 else world.holds id := by
  unfold holds
  rw [SegmentTable.getElem?_insert]
  split <;> rfl

theorem holds_erase (world : World) (erased id : SegmentId) :
    holds { world with segments := ⟨world.segments.records.erase erased⟩ } id =
      if erased = id then 0 else world.holds id := by
  unfold holds
  simp only [Std.ExtTreeMap.getElem?_erase, Std.compare_eq_iff_eq]
  split <;> rfl

theorem holds_of_find? {world : World} {organization : OrganizationId} {id : SegmentId}
    {segment : Segment} (found : world.segments.find? organization id = some segment) :
    world.holds id = 1 := by
  unfold holds
  rw [(SegmentTable.find?_eq_some_iff.mp found).1]
  rfl

end World

namespace ClientCall

variable {call advanced : ClientCall} {world after : World}

/-- A creation stores one segment more, a deletion one less, and nothing else changes how often an id is
    taken. A creation must not use an id that is taken. -/
theorem Turn.balance (turn : call.Turn world advanced after) (id : SegmentId)
    (unused : advanced.created id = true → call.created id = false → world.holds id = 0) :
    (advanced.created id).toNat + world.holds id + (call.erased id).toNat =
      (call.created id).toNat + after.holds id + (advanced.erased id).toNat := by
  cases turn with
  | rests _ => rfl
  | goesOn running _ reads =>
      rw [not_created_of_running running, not_created_of_running rfl, not_erased_of_running running,
        not_erased_of_running rfl, World.holds_of_sameStores reads]
  | fails running reads =>
      rw [not_created_of_running running, not_erased_of_running running, World.holds_of_sameStores reads]
      simp [created, erased]
  | @settles script result _ running settled =>
      rw [not_created_of_running running] at unused ⊢
      rw [not_erased_of_running running]
      obtain ⟨organization, operation, progress⟩ := call
      cases operation with
      | create new stamp =>
          obtain ⟨segment, stamped, -, same⟩ := settled
          cases same
          rw [World.holds_insert, stamped]
          by_cases own : stamp.id = id
          · have free := unused (decide_eq_true own) rfl
            simp [created, erased, own, free]
          · simp [created, erased, own]
      | update changed change now =>
          obtain ⟨revised, named, -, same⟩ := settled
          split at same <;> cases same
          · rename_i found
            rw [World.holds_insert, named]
            split
            · rename_i own
              subst own
              simp [created, erased, World.holds_of_find? found]
            · simp [created, erased]
          · simp [created, erased]
      | delete deleted =>
          unfold Operation.Settles at settled
          dsimp only at settled
          split at settled <;> cases settled
          · rename_i found
            rw [World.holds_erase]
            by_cases own : deleted = id
            · subst own
              simp [created, erased, World.holds_of_find? found]
            · simp [created, erased, own]
          · simp [created, erased]
      | get | list | count | members | evaluate =>
          rw [World.holds_of_sameStores settled]
          simp [created, erased]

end ClientCall

theorem FreshIds.count_le {asked : List (OrganizationId × Operation)} {world : World}
    (fresh : FreshIds asked world) (id : SegmentId) :
    (asked.filterMap (·.2.creates?)).count id + world.holds id ≤ 1 := by
  obtain ⟨different, unused⟩ := fresh
  have once := List.nodup_iff_count.mp different id
  by_cases new : id ∈ asked.filterMap (·.2.creates?)
  · have free := World.holds_eq_zero_iff.mpr (unused id new)
    omega
  · rw [List.count_eq_zero.mpr new]
    unfold World.holds
    cases world.segments.records[id]? <;> simp

theorem countP_set_add {p : α → Bool} {as : List α} {i : Nat} {a : α} (here : as[i]? = some a) (b : α) :
    (as.set i b).countP p + (p a).toNat = as.countP p + (p b).toNat := by
  obtain ⟨within, rfl⟩ := List.getElem?_eq_some_iff.mp here
  rw [List.countP_set within]
  cases counted : p as[i] with
  | false => cases p b <;> simp
  | true =>
      have some : 0 < as.countP p := List.countP_pos_iff.mpr ⟨_, List.getElem_mem within, counted⟩
      cases p b <;> simp <;> omega

/-- What is counted at most once stands at one place. -/
theorem eq_of_countP_le_one {p : α → Bool} {as : List α} (few : as.countP p ≤ 1) {i j : Nat} {a b : α}
    (first : as[i]? = some a) (counted : p a = true) (second : as[j]? = some b)
    (counted' : p b = true) : i = j := by
  induction as generalizing i j with
  | nil => cases first
  | cons c as ih =>
      rw [List.countP_cons] at few
      -- no counted item follows one that is counted
      have alone : p c = true → ∀ {k : Nat} {d : α}, as[k]? = some d → p d = true → False := by
        intro head k d later also
        have some : 0 < as.countP p := List.countP_pos_iff.mpr ⟨d, List.mem_of_getElem? later, also⟩
        rw [if_pos head] at few
        omega
      cases i with
      | zero =>
          cases first
          cases j with
          | zero => rfl
          | succ j => exact (alone counted second counted').elim
      | succ i =>
          cases j with
          | zero =>
              cases second
              exact (alone counted' first counted).elim
          | succ j => exact congrArg Nat.succ (ih (by omega) first second)

namespace Traffic

variable {traffic : Traffic} {id : SegmentId}

/-- How many calls have created a segment with this id. -/
def born (traffic : Traffic) (id : SegmentId) : Nat := traffic.calls.countP (·.created id)

/-- How many calls have deleted a segment with this id. -/
def gone (traffic : Traffic) (id : SegmentId) : Nat := traffic.calls.countP (·.erased id)

theorem born_le (traffic : Traffic) (id : SegmentId) :
    traffic.born id ≤ (traffic.asked.filterMap (·.2.creates?)).count id := by
  unfold born asked
  rw [List.count_filterMap, List.countP_map]
  refine List.countP_mono_left fun call _ created => ?_
  exact beq_iff_eq.mpr (ClientCall.creates?_of_created created)

/-- So far a segment is stored as often as it was there from the start or created, and not deleted. At
    most once in all does it come into being. -/
structure Tracked (traffic : Traffic) (id : SegmentId) (stock : Nat) : Prop where
  sound : traffic.Sound
  balanced : traffic.born id + stock = traffic.world.holds id + traffic.gone id
  few : (traffic.asked.filterMap (·.2.creates?)).count id + stock ≤ 1

namespace Tracked

variable {stock : Nat}

theorem step (tracked : traffic.Tracked id stock) (i : Nat) : (traffic.step i).Tracked id stock := by
  obtain ⟨sound, balanced, few⟩ := tracked
  refine ⟨sound.step i, ?_, by rwa [asked_step]⟩
  cases here : traffic.calls[i]? with
  | none =>
      rw [step_of_none here]
      exact balanced
  | some call =>
      have most := (traffic.step i).born_le id
      rw [asked_step] at most
      have turn := sound.turn here
      unfold born gone at *
      rw [step_of_some here] at most turn ⊢
      dsimp only at most turn ⊢
      have births := countP_set_add (p := (·.created id)) here (call.advance traffic.world).1
      have deaths := countP_set_add (p := (·.erased id)) here (call.advance traffic.world).1
      have change := turn.balance id fun created not_yet => by
        -- the new segment is the only one under its id, so none was there
        rw [created, not_yet] at births
        simp only [Bool.toNat_true, Bool.toNat_false] at births
        omega
      omega

theorem run (tracked : traffic.Tracked id stock) (schedule : List Nat) :
    (traffic.run schedule).Tracked id stock := by
  induction schedule generalizing traffic with
  | nil => exact tracked
  | cons i schedule ih => exact ih (tracked.step i)

theorem bound (tracked : traffic.Tracked id stock) : traffic.world.holds id + traffic.gone id ≤ 1 := by
  obtain ⟨-, balanced, few⟩ := tracked
  have most := traffic.born_le id
  omega

/-- A segment is deleted by one call at most. -/
theorem eq_of_erased (tracked : traffic.Tracked id stock) {i j : Nat} {call other : ClientCall}
    (here : traffic.calls[i]? = some call) (erased : call.erased id = true)
    (there : traffic.calls[j]? = some other) (erased' : other.erased id = true) : i = j :=
  have bound := tracked.bound
  eq_of_countP_le_one (Nat.le_trans (Nat.le_add_left _ _) bound) here erased there erased'

/-- Nothing stands under the id of a segment that was deleted. -/
theorem absent (tracked : traffic.Tracked id stock) {i : Nat} {call : ClientCall}
    (here : traffic.calls[i]? = some call) (erased : call.erased id = true) :
    traffic.world.segments.records[id]? = none := by
  have bound := tracked.bound
  have some : 0 < traffic.gone id :=
    List.countP_pos_iff.mpr ⟨call, List.mem_of_getElem? here, erased⟩
  have nothing : traffic.world.holds id = 0 := by omega
  exact World.holds_eq_zero_iff.mp nothing

end Tracked

theorem tracked_start (engine : Engine) {asked : List (OrganizationId × Operation)} {world : World}
    (order : world.InOrder) (fresh : FreshIds asked world) (id : SegmentId) :
    (start engine asked world).Tracked id (world.holds id) where
  sound := sound_start engine asked order
  balanced := by
    have nobody : ∀ p : ClientCall → Bool,
        (∀ call script, call.progress = .running script → p call = false) →
        (start engine asked world).calls.countP p = 0 := by
      intro p idle
      rw [start, List.countP_map, List.countP_eq_zero]
      rintro ⟨organization, operation⟩ -
      exact Bool.eq_false_iff.mp (idle _ _ rfl)
    rw [born, gone, nobody _ fun _ _ => ClientCall.not_created_of_running,
      nobody _ fun _ _ => ClientCall.not_erased_of_running]
    exact Nat.add_comm _ _
  few := by
    rw [asked_start]
    exact fresh.count_le id

end Traffic

namespace Engine

variable {organization : OrganizationId} {id : SegmentId} {world : World}

/-- A call that begins when its segment is not there finds that out in its first part. -/
theorem advance_script_of_absent (engine : Engine) {operation : Operation} (order : world.InOrder)
    (absent : world.segments.records[id]? = none) (about : operation.segment? = some id) :
    (Progress.running (engine.script organization operation)).advance world =
      (.returned (.error (.notFound id)), world) := by
  have unseen := SegmentTable.find?_of_absent absent organization
  have failed := perform_get_unseen (order.answers .get) unseen
  have refused := perform_delete_unseen (order.working .remove) unseen
  cases operation with
  | create | list => cases about
  | delete deleted =>
      cases about
      simp only [Progress.advance, script, perform_bind, refused]
  | get | update | count | members | evaluate =>
      cases about
      simp only [Progress.advance, script, failed]

theorem advance_script_list (engine : Engine) (order : world.InOrder) :
    (Progress.running (engine.script organization .list)).advance world =
      (.returned (.ok (.segments (world.segments.list organization))), world) := by
  have listed := perform_list (order.answers .list) organization
  simp only [Progress.advance, script, perform_bind, listed]
  rfl

end Engine

namespace Traffic

variable {engine : Engine} {asked : List (OrganizationId × Operation)} {world : World} {id : SegmentId}

theorem exists_erased {schedule : List Nat} {i : Nat} {owner : OrganizationId} {answer : Answer}
    (deletion : asked[i]? = some (owner, .delete id))
    (done : ((start engine asked world).run schedule).result? i = some (.ok answer)) :
    ∃ call, ((start engine asked world).run schedule).calls[i]? = some call ∧ call.erased id = true := by
  obtain ⟨progress, here⟩ := exists_call_run engine world deletion schedule
  unfold result? at done
  rw [here] at done
  cases Progress.eq_returned_of_result? done
  exact ⟨_, here, decide_eq_true rfl⟩

/-- What a call returns when it begins after the segment was deleted. -/
theorem result?_step_of_absent {traffic : Traffic} (sound : traffic.Sound)
    (absent : traffic.world.segments.records[id]? = none) {j : Nat} {organization : OrganizationId}
    {operation : Operation}
    (waiting : traffic.calls[j]? =
      some ⟨organization, operation, .running (engine.script organization operation)⟩) :
    (operation.segment? = some id → (traffic.step j).result? j = some (.error (.notFound id))) ∧
      (operation = .list → ∃ segments, (traffic.step j).result? j = some (.ok (.segments segments)) ∧
        ∀ segment ∈ segments, segment.id ≠ id) := by
  have stepped := getElem?_step_self waiting
  unfold ClientCall.advance at stepped
  unfold result?
  rw [stepped]
  refine ⟨fun about => ?_, ?_⟩
  · rw [engine.advance_script_of_absent sound.order absent about]
    rfl
  · rintro rfl
    rw [engine.advance_script_list sound.order]
    exact ⟨_, rfl, sound.order.filed.not_listed absent organization⟩

/-- The call at this place has deleted the segment. -/
structure DeletedBy (traffic : Traffic) (id : SegmentId) (i : Nat) : Prop where
  tracked : ∃ stock, traffic.Tracked id stock
  erased : ∃ call, traffic.calls[i]? = some call ∧ call.erased id = true

namespace DeletedBy

variable {traffic : Traffic} {i j : Nat}

theorem sound (deleted : traffic.DeletedBy id i) : traffic.Sound :=
  have ⟨_, tracked⟩ := deleted.tracked
  tracked.sound

theorem absent (deleted : traffic.DeletedBy id i) : traffic.world.segments.records[id]? = none := by
  obtain ⟨⟨_, tracked⟩, call, here, erased⟩ := deleted
  exact tracked.absent here erased

theorem run (deleted : traffic.DeletedBy id i) (schedule : List Nat) :
    (traffic.run schedule).DeletedBy id i := by
  obtain ⟨⟨stock, tracked⟩, call, here, erased⟩ := deleted
  obtain ⟨result, done⟩ := ClientCall.returned_of_erased erased
  exact ⟨⟨stock, tracked.run schedule⟩, call, getElem?_run_of_returned here done schedule, erased⟩

theorem eq_of_deleted (deleted : traffic.DeletedBy id i) {call : ClientCall}
    (there : traffic.calls[j]? = some call) (erased : call.erased id = true) : j = i := by
  obtain ⟨⟨_, tracked⟩, other, here, erased'⟩ := deleted
  exact tracked.eq_of_erased there erased here erased'

theorem result?_run_of_waiting (deleted : traffic.DeletedBy id i) {organization : OrganizationId}
    {operation : Operation}
    (waiting : traffic.calls[j]? =
      some ⟨organization, operation, .running (engine.script organization operation)⟩)
    {schedule : List Nat} (comes : j ∈ schedule) :
    (operation.segment? = some id →
      (traffic.run schedule).result? j = some (.error (.notFound id))) ∧
    (operation = .list → ∃ segments,
      (traffic.run schedule).result? j = some (.ok (.segments segments)) ∧
        ∀ segment ∈ segments, segment.id ≠ id) := by
  -- the first turn of the call settles its result
  obtain ⟨earlier, later, rfl, begins⟩ := List.eq_append_cons_of_mem comes
  have turn : traffic.run (earlier ++ j :: later) = ((traffic.run earlier).step j).run later :=
    run_append earlier (j :: later)
  obtain ⟨missing, listing⟩ := result?_step_of_absent (deleted.run earlier).sound
    (deleted.run earlier).absent ((getElem?_run_of_notMem begins).trans waiting)
  rw [turn]
  refine ⟨fun about => result?_run (missing about) later, fun listed => ?_⟩
  obtain ⟨segments, returned, without⟩ := listing listed
  exact ⟨segments, result?_run returned later, without⟩

theorem step_of_update (deleted : traffic.DeletedBy id i) {call : ClientCall} {change : SegmentChange}
    {now : Instant} {act : Action Answer} (there : traffic.calls[j]? = some call)
    (updating : call.operation = .update id change now)
    (running : call.progress = .running (.last act)) :
    (traffic.step j).world = traffic.world ∧
      (traffic.step j).result? j = some (.error (.notFound id)) := by
  have settled := deleted.sound.calls j call there _ running traffic.world deleted.sound.order
  rw [updating] at settled
  obtain ⟨revised, -, -, same⟩ := settled
  rw [SegmentTable.find?_of_absent deleted.absent, Prod.mk.injEq] at same
  have stepped := getElem?_step_self there
  rw [ClientCall.advance_last running, same.1] at stepped
  unfold result?
  rw [stepped, step_of_some there, ClientCall.advance_last running]
  exact ⟨same.2, rfl⟩

end DeletedBy

/-- Whatever the number of clients and the order of their turns, nobody sees a segment after it was
    deleted, an update that looked it up before writes nothing, and no other deletion of it succeeds. -/
theorem deleted_for_good (reachable : world.segments.Reachable)
    (working : ∀ call, world.tableOutage call = none) (fresh : FreshIds asked world) {before : List Nat}
    {i : Nat} {owner : OrganizationId} (deletion : asked[i]? = some (owner, .delete id))
    (done : ((start engine asked world).run before).result? i = some (.ok .deleted))
    (after : List Nat) :
    let traffic := ((start engine asked world).run before).run after
    (∀ organization, traffic.world.segments.find? organization id = none ∧
      ∀ segment ∈ traffic.world.segments.list organization, segment.id ≠ id) ∧
    (∀ j organization operation, asked[j]? = some (organization, operation) → j ∉ before → j ∈ after →
      (operation.segment? = some id → traffic.result? j = some (.error (.notFound id))) ∧
      (operation = .list → ∃ segments, traffic.result? j = some (.ok (.segments segments)) ∧
        ∀ segment ∈ segments, segment.id ≠ id)) ∧
    (∀ j call change now act, traffic.calls[j]? = some call → call.operation = .update id change now →
      call.progress = .running (.last act) →
      (traffic.step j).world = traffic.world ∧
        (traffic.step j).result? j = some (.error (.notFound id))) ∧
    (∀ j organization answer, asked[j]? = some (organization, .delete id) →
      traffic.result? j = some (.ok answer) → j = i) := by
  have tracked := tracked_start engine ⟨working, reachable.filed⟩ fresh id
  have deleted : ((start engine asked world).run before).DeletedBy id i := by
    obtain ⟨call, here, erased⟩ := exists_erased deletion done
    exact ⟨⟨_, tracked.run before⟩, call, here, erased⟩
  have now := deleted.run after
  refine ⟨fun organization => ?_, ?_, ?_, ?_⟩
  · exact ⟨SegmentTable.find?_of_absent now.absent organization,
      now.sound.order.filed.not_listed now.absent organization⟩
  · intro j organization operation there late comes
    have waiting := getElem?_start engine world there
    exact deleted.result?_run_of_waiting ((getElem?_run_of_notMem late).trans waiting) comes
  · intro j call change time act there updating running
    exact now.step_of_update there updating running
  · intro j organization answer there returned
    rw [← run_append] at returned
    obtain ⟨call, stands, erased⟩ := exists_erased there returned
    rw [run_append] at stands
    exact now.eq_of_deleted stands erased

end Traffic

namespace LateUpdate

open SharedId

def engine : Engine := ⟨.standard, .standard⟩

/-- A segment with another id is there before. -/
def world : World := { World.empty with segments := table }

def today : Instant := .midnight ⟨2024, 6, 1, by decide⟩

/-- The id of a new segment. -/
def offers : SegmentId := ⟨0x38, by decide⟩

def rename : SegmentChange := ⟨some "Summer offers", none, none⟩

def asked : List (OrganizationId × Operation) :=
  [(north, .create (.static "Offers" []) ⟨offers, today⟩), (north, .update offers rename today),
   (north, .delete offers), (north, .delete offers), (north, .count offers), (north, .list)]

/-- The new segment is deleted when the update has looked it up and not yet replaced it. -/
def deleted : Traffic := (Traffic.start engine asked world).run [0, 0, 1, 1, 2]

/-- The later calls do not see the segment, and the update writes nothing. -/
theorem offers_deleted :
    (world.segments.Reachable ∧ (∀ call, world.tableOutage call = none) ∧ FreshIds asked world ∧
      asked[2]? = some (north, .delete offers) ∧ deleted.result? 2 = some (.ok .deleted)) ∧
    (deleted.run [4, 5, 3]).world.segments.find? north offers = none ∧
    (deleted.run [4, 5, 3]).result? 4 = some (.error (.notFound offers)) ∧
    (∃ segments, (deleted.run [4, 5, 3]).result? 5 = some (.ok (.segments segments)) ∧
      ∀ segment ∈ segments, segment.id ≠ offers) ∧
    (deleted.run [4, 5, 3]).result? 3 = some (.error (.notFound offers)) ∧
    ((deleted.run [4, 5, 3]).step 1).world = (deleted.run [4, 5, 3]).world ∧
    ((deleted.run [4, 5, 3]).step 1).result? 1 = some (.error (.notFound offers)) := by
  have reachable : world.segments.Reachable := .insert .empty leads
  have fresh : FreshIds asked world := ⟨by decide, by decide +kernel⟩
  have done : deleted.result? 2 = some (.ok .deleted) := rfl
  obtain ⟨unseen, late, stale, -⟩ :=
    Traffic.deleted_for_good reachable (fun _ => rfl) fresh rfl done [4, 5, 3]
  have counted := (late 4 north _ rfl (by decide) (by decide)).1 rfl
  have again := (late 3 north _ rfl (by decide) (by decide)).1 rfl
  have listed := (late 5 north _ rfl (by decide) (by decide)).2 rfl
  have update := stale 1 _ rename today _ rfl rfl rfl
  exact ⟨⟨reachable, fun _ => rfl, fresh, rfl, done⟩, (unseen north).1, counted, listed, again, update⟩

end LateUpdate

end ContactSegments
