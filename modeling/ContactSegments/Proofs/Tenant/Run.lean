import ContactSegments.Proofs.Service.Segments
import ContactSegments.Proofs.Tenant.Requests

/-! # Runs of several organizations

Requests and writes of contacts come one after the other, from any organization or from none. What
one organization is answered does not depend on what the others did before.
-/

namespace ContactSegments

open ContactSegments.Action

/-- Something that happens to the service. A new segment gets the id of the stamp. -/
inductive Event
  | request (request : Http.Request) (stamp : Stamp)
  | insertContact (contact : Contact)
  | removeContact (organization : OrganizationId) (id : ContactId)

theorem World.SameFor.symm {organization : OrganizationId} {world other : World}
    (same : world.SameFor organization other) : other.SameFor organization world where
  contacts := same.contacts.symm
  segments := fun id => (same.segments id).symm
  contactOutage := same.contactOutage.symm
  tableOutage := same.tableOutage.symm

theorem World.SameFor.withContacts {organization : OrganizationId} {world other : World}
    (same : world.SameFor organization other) {first second : ContactBook}
    (written : first.contactsOf organization = second.contactsOf organization) :
    SameFor organization { world with contacts := first } { other with contacts := second } :=
  ⟨written, same.segments, same.contactOutage, same.tableOutage⟩

namespace Http.Service

variable (service : Service) {organization : OrganizationId}

/-- The organization whose event it is; a request without a known key is nobody's. -/
def owner? : Event → Option OrganizationId
  | .request request _ => service.tenant? request
  | .insertContact contact => some contact.organization
  | .removeContact organization _ => some organization

/-- What an event is answered, if it is a request, and the world afterwards. -/
def meet (event : Event) (world : World) : Option Response × World :=
  match event with
  | .request request stamp =>
    let (response, after) := service.exchange request stamp world
    (some response, after)
  | .insertContact contact => (none, { world with contacts := world.contacts.insert contact })
  | .removeContact organization id =>
    (none, { world with contacts := (world.contacts.remove organization id).2 })

/-- What the organization's own events are answered, in their order. -/
def answersTo (organization : OrganizationId) : List Event → World → List (Option Response)
  | [], _ => []
  | event :: events, world =>
    let (answer, after) := service.meet event world
    let answers := answersTo organization events after
    if service.owner? event = some organization then answer :: answers else answers

/-- A segment that the event creates gets an id under which nothing stands. -/
def FreshIn (world : World) : Event → Prop
  | .request request stamp =>
    (service.exchange request stamp world).1.status = 201 →
      world.segments.records[stamp.id]? = none
  | .insertContact _ | .removeContact _ _ => True

/-- All segments that the events create get ids under which nothing stands at the time. -/
def Fresh : List Event → World → Prop
  | [], _ => True
  | event :: events, world => service.FreshIn world event ∧ Fresh events (service.meet event world).2

instance decidableFreshIn (world : World) : (event : Event) → Decidable (service.FreshIn world event)
  | .request _ _ => inferInstanceAs (Decidable (_ → _))
  | .insertContact _ | .removeContact _ _ => inferInstanceAs (Decidable True)

instance decidableFresh : (events : List Event) → (world : World) →
    Decidable (service.Fresh events world)
  | [], _ => inferInstanceAs (Decidable True)
  | event :: events, world =>
    have := decidableFresh events (service.meet event world).2
    inferInstanceAs (Decidable (_ ∧ _))

theorem confined_meet {event : Event} (owned : service.owner? event = some organization) :
    Confined organization (service.meet event) := by
  intro world other same
  cases event with
  | request request stamp =>
      obtain ⟨given, left⟩ := service.confined_exchange owned stamp world other same
      exact ⟨congrArg some given, left⟩
  | insertContact contact =>
      refine ⟨rfl, same.withContacts ?_⟩
      rw [ContactBook.contactsOf_insert, ContactBook.contactsOf_insert, same.contacts]
  | removeContact owner id =>
      refine ⟨rfl, same.withContacts ?_⟩
      simp only [ContactBook.remove, ContactBook.contactsOf_erase, same.contacts]

theorem sameFor_meet {event : Event} (foreign : service.owner? event ≠ some organization)
    {world : World} (fresh : service.FreshIn world event) :
    world.SameFor organization (service.meet event world).2 := by
  cases event with
  | request request stamp =>
      refine service.sameFor_exchange foreign stamp world fun created => ?_
      exact SegmentTable.find?_of_absent (fresh created) organization
  | insertContact contact =>
      have elsewhere : contact.organization ≠ organization := fun same => foreign (congrArg some same)
      refine (World.SameFor.refl world).withContacts ?_
      rw [ContactBook.contactsOf_insert, if_neg elsewhere]
  | removeContact owner id =>
      have elsewhere : owner ≠ organization := fun same => foreign (congrArg some same)
      refine (World.SameFor.refl world).withContacts ?_
      simp only [ContactBook.remove, ContactBook.contactsOf_erase, if_neg elsewhere]

/-- The events of the organization alone. -/
def eventsOf (organization : OrganizationId) (events : List Event) : List Event :=
  events.filter fun event => service.owner? event = some organization

/-- The run with all events and the run with the organization's own events go on in worlds that it
    cannot tell apart. -/
theorem answersTo_eventsOf {events : List Event} {world other : World}
    (same : world.SameFor organization other) (fresh : service.Fresh events world) :
    service.answersTo organization events world =
      service.answersTo organization (service.eventsOf organization events) other := by
  induction events generalizing world other with
  | nil => rfl
  | cons event events ih =>
      obtain ⟨now, later⟩ := fresh
      simp only [answersTo, eventsOf, List.filter_cons, decide_eq_true_eq]
      split
      · -- an event of its own happens in both runs
        rename_i owned
        obtain ⟨given, left⟩ := service.confined_meet owned world other same
        simp only [answersTo, owned, if_true, given]
        rw [ih left later]
        rfl
      · -- an event of others happens in the first run alone, and is not seen
        rename_i foreign
        have unseen := service.sameFor_meet foreign now
        exact ih (unseen.symm.trans same) later

end Http.Service

/-- The world without whatever stands under an id. -/
def World.without (world : World) (id : SegmentId) : World :=
  { world with segments := ⟨world.segments.records.erase id⟩ }

theorem World.sameFor_without {organization : OrganizationId} {world : World} {id : SegmentId}
    (unseen : world.segments.find? organization id = none) :
    world.SameFor organization (world.without id) := by
  refine (SameFor.refl world).withSegments fun other => ?_
  rw [SegmentTable.find?_erase]
  split
  · rename_i same
    rw [← same, unseen]
  · rfl

/-- The segment that a call is about. -/
def Http.Call.segment? : Http.Call → Option SegmentId
  | .get id | .update id _ | .delete id | .count id | .members id _ _ => some id
  | .list | .create _ | .preview _ | .validate _ | .fields => none

theorem Http.Service.call_unseen (service : Http.Service) {organization : OrganizationId}
    {world : World} {id : SegmentId} (working : ∀ call, world.tableOutage call = none)
    (unseen : world.segments.find? organization id = none) (stamp : Stamp) {call : Http.Call}
    (asks : call.segment? = some id) :
    service.call organization stamp call world = (errorResponse (.notFound id), world) := by
  have failed : (service.run organization stamp call).perform world =
      (.error (.notFound id), world) := by
    have found := Engine.perform_get_unseen (World.answers_of_working (working .get)) unseen
    cases call with
    | get id' =>
        cases asks
        exact perform_bind_error found
    | update id' change =>
        cases asks
        exact perform_bind_error (perform_bind_error found)
    | delete id' =>
        cases asks
        exact perform_bind_error (Engine.perform_delete_unseen (working .remove) unseen)
    | count id' =>
        cases asks
        exact perform_bind_error (perform_bind_error found)
    | members id' offset limit =>
        cases asks
        exact perform_bind_error (perform_bind_error found)
    | list | create | preview | validate | fields => cases asks
  rw [Http.Service.call_eq, failed]
  rfl

/-- What an organization is answered in a run is what it would be answered if there were no events but
    its own. A segment of another organization is to it as one that is not there. -/
theorem Http.Service.answersTo_alone (service : Http.Service) (organization : OrganizationId)
    (world : World) :
    (∀ events, service.Fresh events world →
      service.answersTo organization events world =
        service.answersTo organization (service.eventsOf organization events) world) ∧
    ∀ id segment, world.segments.records[id]? = some segment →
      segment.organization ≠ organization →
      (∀ request stamp, service.tenant? request = some organization →
        (service.exchange request stamp world).1 =
          (service.exchange request stamp (world.without id)).1) ∧
      ((∀ call, world.tableOutage call = none) →
        ∀ stamp call, call.segment? = some id →
          (service.call organization stamp call world).1 = errorResponse (.notFound id)) := by
  refine ⟨fun events fresh => service.answersTo_eventsOf (.refl world) fresh, ?_⟩
  intro id segment held foreign
  have unseen := SegmentTable.find?_eq_none_of_foreign held foreign
  constructor
  · intro request stamp owned
    exact (service.confined_exchange owned stamp _ _ (World.sameFor_without unseen)).1
  · intro working stamp call asks
    rw [service.call_unseen working unseen stamp asks]

namespace TwoTenants

def north : OrganizationId := ⟨1, by decide⟩

def south : OrganizationId := ⟨2, by decide⟩

def today : Instant := .midnight ⟨2024, 2, 1, by decide⟩

def stamp : Stamp := ⟨⟨9, by decide⟩, today⟩

def taken : SegmentId := ⟨5, by decide⟩

def service : Http.Service where
  engine := ⟨.standard, .standard⟩
  keys := .ofList [("north", north), ("south", south)]
  nodeId := "node"

def leads : Segment where
  id := taken
  organization := south
  name := "Leads"
  kind := .static
  criteria := .empty
  members := []
  createdAt := today
  updatedAt := today

/-- Only a segment of the south is stored. -/
def start : World := { World.empty with segments := SegmentTable.empty.insert leads }

def ask (method : Http.Method) (path key body : String) : Event :=
  .request ⟨method, path.toList, [], some key, some "application/json", body⟩ stamp

def events : List Event :=
  [ask .post "/v1/segments" "south"
    "\x7b\"name\":\"Hot\",\"type\":\"static\",\"contactIds\":[]\x7d",
   .insertContact (.blank ⟨3, by decide⟩ south today),
   ask .get "/v1/segments" "north" "",
   ask .delete "/v1/segments/00000000-0000-0000-0000-000000000005" "south" "",
   ask .get "/v1/segments/00000000-0000-0000-0000-000000000005" "north" ""]

theorem answersTo_north :
    service.Fresh events start ∧ (service.eventsOf north events).length = 2 ∧
      service.answersTo north events start =
        service.answersTo north (service.eventsOf north events) start ∧
      (service.call north stamp (.get taken) start).1 = Http.errorResponse (.notFound taken) := by
  have fresh : service.Fresh events start := by decide +kernel
  have two : (service.eventsOf north events).length = 2 := by decide +kernel
  have held : start.segments.records[taken]? = some leads := by decide +kernel
  have foreign : leads.organization ≠ north := by decide
  obtain ⟨runs, others⟩ := service.answersTo_alone north start
  exact ⟨fresh, two, runs events fresh,
    (others taken leads held foreign).2 (fun _ => rfl) stamp (.get taken) rfl⟩

end TwoTenants

end ContactSegments
