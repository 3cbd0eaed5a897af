import ContactSegments.Proofs.Service.Action
import ContactSegments.Service.Engine

/-! # Reading

Checks, previews, lookups and evaluations read. They may count what happens, and leave the contacts
and the segments as they are.
-/

namespace ContactSegments

/-- The worlds hold the same, and the same calls are out of order. -/
structure World.SameStores (world other : World) : Prop where
  contacts : world.contacts = other.contacts
  segments : world.segments = other.segments
  contactOutage : world.contactOutage = other.contactOutage
  tableOutage : world.tableOutage = other.tableOutage

theorem World.SameStores.refl (world : World) : world.SameStores world := ⟨rfl, rfl, rfl, rfl⟩

theorem World.SameStores.trans {u v w : World} (first : u.SameStores v) (second : v.SameStores w) :
    u.SameStores w where
  contacts := first.contacts.trans second.contacts
  segments := first.segments.trans second.segments
  contactOutage := first.contactOutage.trans second.contactOutage
  tableOutage := first.tableOutage.trans second.tableOutage

theorem World.SameStores.counting (world : World) (counter : Counter) :
    world.SameStores (world.counting counter) := ⟨rfl, rfl, rfl, rfl⟩

namespace Action

variable {α β : Type}

/-- Both stores are left as they are. -/
def Reads (act : Action α) : Prop := act.Moves World.SameStores

theorem Reads.bind {act : Action α} {next : α → Action β} (first : act.Reads)
    (rest : ∀ a, (next a).Reads) : (act >>= next).Reads :=
  Moves.bind .trans first (gives_any act) fun a _ => rest a

theorem reads_pure (a : α) : (pure a : Action α).Reads := World.SameStores.refl

theorem Reads.map {act : Action α} (first : act.Reads) (f : α → β) :
    (act >>= fun a => pure (f a)).Reads :=
  first.bind fun a => reads_pure (f a)

theorem reads_throw (error : SegmentError) : (throw error : Action α).Reads := World.SameStores.refl

theorem reads_count (counter : Counter) : (count counter).Reads := fun world =>
  .counting world counter

theorem reads_evaluated (result : Except EvaluationError α) : (evaluated result).Reads := by
  intro world
  rw [perform_evaluated]
  exact .refl world

theorem reads_admitted (result : Except ValidationError α) : (admitted result).Reads := by
  intro world
  rw [perform_admitted]
  cases result with
  | ok value => exact .refl world
  | error error =>
      simp only [rejecting]
      split
      · exact .refl world
      · exact .counting world _

theorem reads_readTable (call : TableCall) (read : SegmentTable → α) :
    (readTable call read).Reads := by
  intro world
  rw [perform_readTable]
  exact .refl world

theorem reads_measured (counter : Counter) (predicate : Predicate) (window : Window) :
    (measured counter predicate window).Reads := by
  intro world
  rw [perform_measured]
  cases world.contactOutage <;> exact ⟨rfl, rfl, rfl, rfl⟩

theorem reads_countMatches (predicate : Predicate) : (countMatches predicate).Reads :=
  (reads_measured _ _ _).map _

end Action

namespace Engine

open ContactSegments.Action

variable (engine : Engine)

theorem reads_toPredicate (organization : OrganizationId) (conditions : List Condition) :
    (engine.toPredicate organization conditions).Reads :=
  (reads_admitted _).bind fun _ => reads_evaluated _

theorem reads_storedPredicate (segment : Segment) : (engine.storedPredicate segment).Reads := by
  unfold storedPredicate
  cases segment.kind with
  | static => exact reads_pure _
  | dynamic =>
      cases engine.check segment.criteria.conditions with
      | ok group => exact reads_evaluated _
      | error error => exact (reads_count _).bind fun _ => reads_throw _

theorem reads_pageMatches (predicate : Predicate) (page : Page) :
    (engine.pageMatches predicate page).Reads := by
  unfold pageMatches
  cases page.check engine.limits.maxPageSize with
  | error cause => exact reads_throw _
  | ok _ => exact (reads_measured _ _ _).map _

theorem reads_previewCount (organization : OrganizationId) (conditions : List Condition) :
    (engine.previewCount organization conditions).Reads :=
  (engine.reads_toPredicate _ _).bind fun _ => (reads_countMatches _).bind fun _ =>
    (reads_count _).map _

theorem reads_get (organization : OrganizationId) (id : SegmentId) :
    (get organization id).Reads := by
  refine (reads_readTable _ _).bind fun found => ?_
  cases found with
  | some segment => exact reads_pure _
  | none => exact reads_throw _

theorem reads_list (organization : OrganizationId) : (list organization).Reads := reads_readTable _ _

theorem reads_count (organization : OrganizationId) (id : SegmentId) :
    (engine.count organization id).Reads :=
  (reads_get _ _).bind fun _ => (engine.reads_storedPredicate _).bind fun _ => reads_countMatches _

theorem reads_members (organization : OrganizationId) (id : SegmentId) (page : Page) :
    (engine.members organization id page).Reads :=
  (reads_get _ _).bind fun _ => (engine.reads_storedPredicate _).bind fun _ =>
    engine.reads_pageMatches _ _

end Engine

end ContactSegments
