import ContactSegments.Proofs.ContactBook
import ContactSegments.Proofs.Service.Owner
import ContactSegments.Proofs.Service.Reading

/-! # Confinement

What an organization can tell about a world is which contacts it has, which segments it finds and
which calls are out of order. Its operations answer the same in worlds that it cannot tell apart, and
leave worlds that it cannot tell apart. Operations of others leave a world that it cannot tell from
the one before.
-/

namespace ContactSegments

/-- The organization cannot tell the worlds apart. -/
structure World.SameFor (organization : OrganizationId) (world other : World) : Prop where
  contacts : world.contacts.contactsOf organization = other.contacts.contactsOf organization
  segments : world.segments.SameFor organization other.segments
  contactOutage : world.contactOutage = other.contactOutage
  tableOutage : world.tableOutage = other.tableOutage

namespace World

variable {organization : OrganizationId}

theorem SameStores.sameFor {world other : World} (same : world.SameStores other) :
    world.SameFor organization other where
  contacts := by rw [same.contacts]
  segments := by rw [same.segments]; exact fun _ => rfl
  contactOutage := same.contactOutage
  tableOutage := same.tableOutage

theorem SameFor.refl (world : World) : world.SameFor organization world :=
  (SameStores.refl world).sameFor

theorem SameFor.trans {u v w : World} (first : u.SameFor organization v)
    (second : v.SameFor organization w) : u.SameFor organization w where
  contacts := first.contacts.trans second.contacts
  segments := fun id => (first.segments id).trans (second.segments id)
  contactOutage := first.contactOutage.trans second.contactOutage
  tableOutage := first.tableOutage.trans second.tableOutage

/-- Metrics and queries are not told apart. -/
theorem SameFor.congr {world other world' other' : World} (same : world.SameFor organization other)
    (first : world.SameStores world') (second : other.SameStores other') :
    world'.SameFor organization other' where
  contacts := by rw [← first.contacts, ← second.contacts, same.contacts]
  segments := by rw [← first.segments, ← second.segments]; exact same.segments
  contactOutage := by rw [← first.contactOutage, ← second.contactOutage, same.contactOutage]
  tableOutage := by rw [← first.tableOutage, ← second.tableOutage, same.tableOutage]

theorem SameFor.withSegments {world other : World} (same : world.SameFor organization other)
    {first second : SegmentTable} (written : first.SameFor organization second) :
    SameFor organization { world with segments := first } { other with segments := second } :=
  ⟨same.contacts, written, same.contactOutage, same.tableOutage⟩

end World

/-- In worlds that the organization cannot tell apart the step gives the same, and the worlds that it
    leaves cannot be told apart either. -/
def Confined (organization : OrganizationId) (step : World → α × World) : Prop :=
  ∀ world other, world.SameFor organization other →
    (step world).1 = (step other).1 ∧ (step world).2.SameFor organization (step other).2

section

variable {α β : Type} {organization : OrganizationId}

open ContactSegments.Action

theorem confined_pure (a : α) : Confined organization (pure a : Action α).perform :=
  fun _ _ same => ⟨rfl, same⟩

theorem confined_throw (error : SegmentError) :
    Confined organization (throw error : Action α).perform :=
  fun _ _ same => ⟨rfl, same⟩

theorem confined_count (counter : Counter) : Confined organization (count counter).perform :=
  fun _ _ same => ⟨rfl, same.congr (.counting _ _) (.counting _ _)⟩

/-- Later parts may rely on what earlier ones give. -/
theorem Confined.bind {act : Action α} {next : α → Action β} {P : α → Prop}
    (first : Confined organization act.perform) (gives : act.Gives P)
    (rest : ∀ a, P a → Confined organization (next a).perform) :
    Confined organization (act >>= next).perform := by
  intro world other same
  obtain ⟨given, left⟩ := first world other same
  have sound := gives world
  rw [perform_bind, perform_bind]
  rcases here : act.perform world with ⟨result, after⟩
  rcases there : act.perform other with ⟨result', after'⟩
  rw [here, there] at given left
  rw [here] at sound
  cases given
  cases result with
  | error error => exact ⟨rfl, left⟩
  | ok a => exact rest a (sound a rfl) after after' left

theorem Confined.map {act : Action α} (first : Confined organization act.perform) (f : α → β) :
    Confined organization (act >>= fun a => pure (f a)).perform :=
  first.bind (gives_any act) fun a _ => confined_pure (f a)

theorem confined_evaluated (result : Except EvaluationError α) :
    Confined organization (evaluated result).perform := by
  cases result with
  | ok value => exact confined_pure value
  | error error => exact confined_throw _

theorem confined_admitted (result : Except ValidationError α) :
    Confined organization (admitted result).perform := by
  intro world other same
  have left := same.congr (reads_admitted result world) (reads_admitted result other)
  rw [perform_admitted, perform_admitted] at left ⊢
  cases result with
  | ok value => exact ⟨rfl, left⟩
  | error error => exact ⟨rfl, left⟩

/-- A query tells about the contacts of the predicate's organization alone. -/
theorem confined_measured (counter : Counter) {predicate : Predicate}
    (owned : predicate.organization = organization) (window : Window) :
    Confined organization (measured counter predicate window).perform := by
  intro world other same
  have left := same.congr (reads_measured counter predicate window world)
    (reads_measured counter predicate window other)
  have answer := ContactBook.query_congr (owned ▸ same.contacts) window
  refine ⟨?_, left⟩
  rw [perform_measured, perform_measured, same.contactOutage, answer]
  cases other.contactOutage <;> rfl

theorem confined_countMatches {predicate : Predicate}
    (owned : predicate.organization = organization) :
    Confined organization (countMatches predicate).perform :=
  (confined_measured _ owned _).map _

theorem confined_readTable (call : TableCall) {read : SegmentTable → α}
    (only : ∀ {table other}, table.SameFor organization other → read table = read other) :
    Confined organization (readTable call read).perform := by
  intro world other same
  rw [perform_readTable, perform_readTable, same.tableOutage, only same.segments]
  exact ⟨rfl, same⟩

theorem confined_writeTable (call : TableCall) {write : SegmentTable → Bool × SegmentTable}
    (only : ∀ {table other}, table.SameFor organization other →
      (write table).1 = (write other).1 ∧ (write table).2.SameFor organization (write other).2) :
    Confined organization (writeTable call write).perform := by
  intro world other same
  obtain ⟨told, written⟩ := only same.segments
  have outages : world.tableOutage call = other.tableOutage call := by rw [same.tableOutage]
  rw [perform_writeTable, perform_writeTable, outages, told]
  cases other.tableOutage call with
  | none => exact ⟨rfl, same.withSegments written⟩
  | some outage => cases outage <;> exact ⟨rfl, same⟩

theorem confined_insertSegment (segment : Segment) :
    Confined organization (insertSegment segment).perform := by
  intro world other same
  have written := same.withSegments (same.segments.insert segment)
  have outages : world.tableOutage .insert = other.tableOutage .insert := by rw [same.tableOutage]
  rw [perform_insertSegment, perform_insertSegment, outages]
  split
  · exact ⟨rfl, same⟩
  · exact ⟨rfl, written⟩

end

namespace Engine

open ContactSegments.Action

variable {organization : OrganizationId} (engine : Engine)

theorem confined_toPredicate (conditions : List Condition) :
    Confined organization (engine.toPredicate organization conditions).perform :=
  (confined_admitted _).bind (gives_any _) fun _ _ => confined_evaluated _

theorem confined_storedPredicate (segment : Segment) :
    Confined organization (engine.storedPredicate segment).perform := by
  unfold storedPredicate
  cases segment.kind with
  | static => exact confined_pure _
  | dynamic =>
      cases engine.check segment.criteria.conditions with
      | ok group => exact confined_evaluated _
      | error error => exact (confined_count _).bind (gives_any _) fun _ _ => confined_throw _

theorem confined_pageMatches {predicate : Predicate}
    (owned : predicate.organization = organization) (page : Page) :
    Confined organization (engine.pageMatches predicate page).perform := by
  unfold pageMatches
  cases page.check engine.limits.maxPageSize with
  | error cause => exact confined_throw _
  | ok _ => exact (confined_measured _ owned _).map _

theorem confined_previewCount (conditions : List Condition) :
    Confined organization (engine.previewCount organization conditions).perform :=
  (engine.confined_toPredicate _).bind (gives_toPredicate _) fun _ owned =>
    (confined_countMatches owned).bind (gives_any _) fun _ _ => (confined_count _).map _

theorem confined_create (new : NewSegment) (stamp : Stamp) :
    Confined organization (engine.create organization new stamp).perform :=
  (confined_admitted _).bind (gives_any _) fun _ _ =>
    (confined_insertSegment _).map _

theorem confined_get (id : SegmentId) : Confined organization (get organization id).perform := by
  refine (confined_readTable _ fun same => same id).bind (gives_any _) fun found _ => ?_
  cases found with
  | some segment => exact confined_pure _
  | none => exact confined_throw _

theorem confined_list : Confined organization (list organization).perform :=
  confined_readTable _ fun same => same.list

theorem confined_update (id : SegmentId) (change : SegmentChange) (now : Instant) :
    Confined organization (engine.update organization id change now).perform := by
  refine (confined_get id).bind (gives_get _ _) fun segment owned => ?_
  have revised : (admitted (engine.revise segment change now)).Gives
      (·.organization = organization) :=
    gives_admitted fun _ made => (owner_of_revise made).2.trans owned
  refine (confined_admitted _).bind revised fun segment owned => ?_
  refine (confined_writeTable _ fun same => same.replace owned).bind (gives_any _) fun done _ => ?_
  cases done with
  | true => exact confined_pure _
  | false => exact confined_throw _

theorem confined_delete (id : SegmentId) :
    Confined organization (delete organization id).perform := by
  refine (confined_writeTable _ fun same => same.remove id).bind (gives_any _) fun done _ => ?_
  cases done with
  | true => exact confined_pure _
  | false => exact confined_throw _

theorem confined_count (id : SegmentId) :
    Confined organization (engine.count organization id).perform :=
  (confined_get id).bind (gives_get _ _) fun segment owned =>
    (engine.confined_storedPredicate _).bind (gives_storedPredicate segment) fun _ same =>
      confined_countMatches (same.trans owned)

theorem confined_members (id : SegmentId) (page : Page) :
    Confined organization (engine.members organization id page).perform :=
  (confined_get id).bind (gives_get _ _) fun segment owned =>
    (engine.confined_storedPredicate _).bind (gives_storedPredicate segment) fun _ same =>
      engine.confined_pageMatches (same.trans owned) page

end Engine

end ContactSegments
