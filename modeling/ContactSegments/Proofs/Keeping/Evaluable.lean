import ContactSegments.Proofs.Keeping.Shelves
import ContactSegments.Proofs.Membership.Stored
import Mathlib.Data.List.Pairwise

/-! # Stored segments can be evaluated

A segment that is stored has a proper name and comes from the one operation that created it, and if its
kind is dynamic its criteria are legal: so they were when they were written, and the kind of a segment
never changes. Evaluations therefore fail for no other reason than that a store does.
-/

namespace ContactSegments

open ContactSegments.Action

/-- A segment as it may be stored. -/
structure Segment.Proper (engine : Engine) (segment : Segment) : Prop where
  trimmed : Text.trim segment.name = segment.name
  named : segment.name ≠ ""
  short : segment.name.length ≤ maxNameLength
  legal : segment.kind = .dynamic → ∃ group, engine.check segment.criteria.conditions = .ok group

/-- The segment comes from a draft that was among what was asked for. It may have been changed since. -/
def Segment.ComesFrom (segment : Segment) (new : NewSegment)
    (asked : List (OrganizationId × Operation)) : Prop :=
  new.kind = segment.kind ∧
    (segment.organization, .create new ⟨segment.id, segment.createdAt⟩) ∈ asked

section

variable {engine : Engine} {owner : OrganizationId}

theorem NewSegment.proper_segment {new : NewSegment}
    (faultless : engine.fault? new.kind (some new.name) (some new.criteria) = none)
    (owner : OrganizationId) (stamp : Stamp) : (new.segment owner stamp).Proper engine := by
  obtain ⟨names, criteria⟩ := Engine.fault?_eq_none_iff.mp faultless
  obtain ⟨named, short⟩ := nameFault?_eq_none_iff.mp (names _ rfl)
  exact ⟨Text.trim_trim new.name, named, short, Engine.criteriaFault?_eq_none_iff.mp (criteria _ rfl)⟩

theorem Segment.Proper.changedBy {segment : Segment} (proper : segment.Proper engine)
    {change : SegmentChange}
    (faultless : engine.fault? segment.kind change.name change.criteria = none) (now : Instant) :
    (segment.changedBy change now).Proper engine := by
  obtain ⟨names, criteria⟩ := Engine.fault?_eq_none_iff.mp faultless
  obtain ⟨name, criteria', members⟩ := change
  have legal : segment.kind = .dynamic → ∃ group,
      engine.check (criteria'.getD segment.criteria).conditions = .ok group := by
    cases criteria' with
    | none => exact proper.legal
    | some given => exact Engine.criteriaFault?_eq_none_iff.mp (criteria given rfl)
  cases name with
  | none => exact ⟨proper.trimmed, proper.named, proper.short, legal⟩
  | some given =>
      obtain ⟨named, short⟩ := nameFault?_eq_none_iff.mp (names given rfl)
      exact ⟨Text.trim_trim given, named, short, legal⟩

end

namespace Shelves

variable {engine : Engine} {asked : List (OrganizationId × Operation)} {shelves left : Shelves}
  {owner : OrganizationId} {operation : Operation} {answer : Except SegmentError Answer}

/-- Every segment is proper, stands in its place and was created there. -/
def Sound (engine : Engine) (asked : List (OrganizationId × Operation)) (shelves : Shelves) : Prop :=
  ∀ owner id segment, shelves owner id = some segment →
    segment.Proper engine ∧ segment.organization = owner ∧ segment.id = id ∧
      ∃ new, segment.ComesFrom new asked

theorem Sound.put (sound : Sound engine asked shelves) {id : SegmentId} {held : Option Segment}
    (placed : ∀ segment, held = some segment → segment.Proper engine ∧
      segment.organization = owner ∧ segment.id = id ∧ ∃ new, segment.ComesFrom new asked) :
    Sound engine asked (shelves.put owner id held) := by
  intro organization other segment stands
  unfold Shelves.put at stands
  split at stands
  · rename_i here
    obtain ⟨rfl, rfl⟩ := here
    exact placed segment stands
  · exact sound organization other segment stands

/-- One case for each way in which an operation is answered. -/
theorem Sound.serves (sound : Sound engine asked shelves) (among : (owner, operation) ∈ asked)
    (serves : shelves.Serves engine owner operation answer left) : Sound engine asked left := by
  cases serves with
  | @created new stamp faultless =>
      refine sound.put fun segment placed => ?_
      cases placed
      exact ⟨new.proper_segment faultless owner stamp, rfl, rfl, new, rfl, among⟩
  | @updated id change now segment stands faultless =>
      obtain ⟨proper, owned, named, created⟩ := sound owner id segment stands
      refine sound.put fun changed placed => ?_
      cases placed
      exact ⟨proper.changedBy faultless now, owned, named, created⟩
  | deleted _ =>
      refine sound.put fun segment placed => ?_
      cases placed
  | notCreated | got | listed | notUpdated | evaluated | missing => exact sound

theorem Sound.run {done : List (OrganizationId × Operation)}
    {answers : List (Except SegmentError Answer)} (sound : Sound engine asked shelves)
    (among : done ⊆ asked) (run : Run engine shelves done answers left) :
    Sound engine asked left := by
  induction run with
  | done => exact sound
  | step first _ ih =>
      obtain ⟨now, later⟩ := List.cons_subset.mp among
      exact ih (sound.serves now first) later

end Shelves

/-- No segment is created by both. -/
def Operation.Apart (operation other : Operation) : Prop :=
  ∀ id, operation.creates? = some id → other.creates? ≠ some id

/-- No other operation creates the segment. -/
theorem FreshIds.unique {asked : List (OrganizationId × Operation)} {world : World}
    (fresh : FreshIds asked world) {id : SegmentId} {entry other : OrganizationId × Operation}
    (among : entry ∈ asked) (creates : entry.2.creates? = some id) (among' : other ∈ asked)
    (creates' : other.2.creates? = some id) : other = entry := by
  have symmetric : Std.Symm fun first second : OrganizationId × Operation => first.2.Apart second.2 :=
    ⟨fun _ _ apart id creates creates' => apart id creates' creates⟩
  have apart : asked.Pairwise fun first second => first.2.Apart second.2 :=
    (List.pairwise_filterMap.mp fresh.1).imp fun differ id creates creates' =>
      differ id creates id creates' rfl
  by_contra different
  exact apart.forall among' among different id creates' creates

namespace Action

variable {α β : Type} {world : World}

/-- If the action fails to evaluate something, a store has failed. -/
def FailsByStore (act : Action α) (world : World) : Prop :=
  ∀ error, (act.perform world).1 = .error (.evaluation error) → ∃ message, error = .storage message

theorem FailsByStore.map {act : Action α} (first : act.FailsByStore world) (f : α → β) :
    (do return f (← act) : Action β).FailsByStore world := by
  intro error failed
  rw [perform_map] at failed
  refine first error ?_
  cases given : (act.perform world).1 with
  | error other =>
      rw [given] at failed
      cases failed
      rfl
  | ok a =>
      rw [given] at failed
      cases failed

theorem failsByStore_measured (counter : Counter) (predicate : Predicate) (window : Window) :
    (measured counter predicate window).FailsByStore world := by
  intro error failed
  rw [perform_measured] at failed
  cases outage : world.contactOutage with
  | none =>
      rw [outage] at failed
      cases failed
  | some message =>
      rw [outage] at failed
      cases failed
      exact ⟨message, rfl⟩

end Action

namespace Engine

variable {engine : Engine} {organization : OrganizationId} {id : SegmentId} {world : World}
  {segment : Segment}

theorem failsByStore_pageMatches (predicate : Predicate) (page : Page) :
    (engine.pageMatches predicate page).FailsByStore world := by
  unfold pageMatches
  cases page.check engine.limits.maxPageSize with
  | error cause => exact nofun
  | ok _ => exact (failsByStore_measured _ _ _).map _

/-- Whether or not the table works, nothing is found that does not stand in it. -/
theorem failsByStore_get_bind {α : Type} {next : Segment → Action α}
    (rest : ∀ segment, world.segments.find? organization id = some segment →
      (next segment).FailsByStore world) :
    (get organization id >>= next).FailsByStore world := by
  by_cases answers : world.Answers .get
  · intro error failed
    rw [perform_bind, perform_get answers] at failed
    cases stands : world.segments.find? organization id with
    | none =>
        rw [stands] at failed
        cases failed
    | some segment =>
        rw [stands] at failed
        exact rest segment stands error failed
  · obtain ⟨message, failing⟩ := not_forall_not.mp answers
    have broken : (get organization id).perform world =
        (.error (.evaluation (.storage message)), world) := by
      unfold get findSegment
      rw [perform_bind, perform_readTable, failing]
    intro error failed
    rw [perform_bind_error broken] at failed
    cases failed
    exact ⟨message, rfl⟩

end Engine

/-- What a proper segment is evaluated by does not depend on the world. -/
theorem Segment.Proper.performs {engine : Engine} {segment : Segment} (proper : segment.Proper engine) :
    ∃ predicate, ∀ world, (engine.storedPredicate segment).perform world = (.ok predicate, world) := by
  cases dynamic : segment.kind with
  | static =>
      refine ⟨.ofMembers segment.members segment.organization, fun world => ?_⟩
      unfold Engine.storedPredicate
      rw [dynamic]
      rfl
  | dynamic =>
      obtain ⟨group, legal⟩ := proper.legal dynamic
      obtain ⟨predicate, -, performed⟩ := engine.perform_toPredicate_of_ok legal segment.organization
      refine ⟨predicate, fun world => ?_⟩
      exact (engine.perform_storedPredicate_of_ok dynamic (by rw [performed])).2

namespace Engine

variable {engine : Engine} {world : World} {asked : List (OrganizationId × Operation)}

/-- The predicate of a proper segment is there, so only what is done with it can fail. -/
theorem failsByStore_stored_bind {α : Type} {next : Predicate → Action α}
    {organization : OrganizationId} {id : SegmentId}
    (proper : ∀ segment, world.segments.find? organization id = some segment → segment.Proper engine)
    (rest : ∀ predicate, (next predicate).FailsByStore world) :
    (get organization id >>= fun segment =>
      engine.storedPredicate segment >>= next).FailsByStore world := by
  refine failsByStore_get_bind fun segment stands => ?_
  obtain ⟨predicate, performed⟩ := (proper segment stands).performs
  intro error failed
  rw [perform_bind_ok (performed world)] at failed
  exact rest predicate error failed

theorem failsByStore_evaluations {organization : OrganizationId} {id : SegmentId}
    (proper : ∀ segment, world.segments.find? organization id = some segment →
      segment.Proper engine) :
    (engine.count organization id).FailsByStore world ∧
      (∀ page, (engine.members organization id page).FailsByStore world) ∧
      ∀ evaluation, (engine.evaluate organization id evaluation).FailsByStore world := by
  have counts : ∀ predicate, (countMatches predicate).FailsByStore world :=
    fun predicate => (failsByStore_measured _ _ _).map _
  have pages : ∀ page predicate, (engine.pageMatches predicate page).FailsByStore world :=
    fun page predicate => failsByStore_pageMatches predicate page
  refine ⟨failsByStore_stored_bind proper counts,
    fun page => failsByStore_stored_bind proper (pages page), fun evaluation => ?_⟩
  refine failsByStore_stored_bind proper fun predicate => ?_
  cases evaluation with
  | count => exact (counts predicate).map _
  | members page => exact (pages page predicate).map _

/-- Whatever was asked for, by whomever, the segments that are stored have proper names, they are of
    the owner, the kind and the time of their creation, and evaluating them works as long as the stores
    do. What a static segment is given as criteria does not matter. -/
theorem evaluable_of_serveAll (engine : Engine) (blank : world.segments = .empty)
    (working : ∀ call, world.tableOutage call = none) (fresh : FreshIds asked world) :
    let table := (engine.serveAll asked world).2.segments
    (∀ id segment, table.records[id]? = some segment →
      segment.id = id ∧
      (Text.trim segment.name = segment.name ∧ segment.name ≠ "" ∧
        segment.name.length ≤ maxNameLength) ∧
      (∃ new, segment.ComesFrom new asked ∧
        ∀ entry ∈ asked, entry.2.creates? = some id →
          entry = (segment.organization, .create new ⟨id, segment.createdAt⟩)) ∧
      (segment.kind = .dynamic →
        (∃ group, engine.check segment.criteria.conditions = .ok group) ∧
          ∃ predicate, ∀ now, (engine.storedPredicate segment).perform now = (.ok predicate, now))) ∧
    ∀ now, now.segments = table → ∀ organization id,
      (engine.count organization id).FailsByStore now ∧
        (∀ page, (engine.members organization id page).FailsByStore now) ∧
        ∀ evaluation, (engine.evaluate organization id evaluation).FailsByStore now := by
  have run := engine.run_serveAll (inOrder_blank blank working) fresh
  rw [blank, SegmentTable.find?_empty] at run
  have nothing : Shelves.empty.Sound engine asked := fun _ _ _ stands => by cases stands
  have sound := nothing.run (List.Subset.refl asked) run
  refine ⟨fun id segment held => ?_, fun now same organization id => failsByStore_evaluations ?_⟩
  · have stands := SegmentTable.find?_eq_some_iff.mpr ⟨held, rfl⟩
    obtain ⟨proper, -, rfl, new, comes⟩ := sound segment.organization id segment stands
    refine ⟨rfl, ⟨proper.trimmed, proper.named, proper.short⟩, ⟨new, comes, ?_⟩, fun dynamic => ?_⟩
    · exact fun entry among creates => fresh.unique comes.2 rfl among creates
    · exact ⟨proper.legal dynamic, proper.performs⟩
  · rw [same]
    exact fun segment stands => (sound organization id segment stands).1

end Engine

namespace TwoShelves

open SharedId

theorem hot_leads_evaluable :
    let table := (engine.serveAll asked World.empty).2.segments
    FreshIds asked World.empty ∧ table.records[leadsId]? = some hotLeads ∧
      hotLeads.ComesFrom (.dynamic "Leads" leads.criteria) asked ∧
      ∃ predicate, ∀ now, (engine.storedPredicate hotLeads).perform now = (.ok predicate, now) := by
  have fresh : FreshIds asked World.empty := ⟨by decide, by decide +kernel⟩
  have held : (engine.serveAll asked World.empty).2.segments.records[leadsId]? = some hotLeads := by
    decide +kernel
  obtain ⟨stored, -⟩ := engine.evaluable_of_serveAll rfl (fun _ => rfl) fresh
  obtain ⟨-, -, -, evaluable⟩ := stored leadsId hotLeads held
  exact ⟨fresh, held, ⟨rfl, by decide⟩, (evaluable rfl).2⟩

end TwoShelves

end ContactSegments
