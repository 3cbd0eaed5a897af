import ContactSegments.Http.Service
import ContactSegments.Proofs.Service.Segments
import ContactSegments.Proofs.Tenant.Confinement

/-! # Requests of an organization and of others

What holds of operations holds of the requests that ask for them. The one operation that could touch
what another organization sees is the creation of a segment, if the id that it is given were in use.
-/

namespace ContactSegments

open ContactSegments.Action

section

variable {organization owner : OrganizationId} {α : Type}

/-- The organization cannot tell that the action took place. -/
def Action.HiddenFrom (organization : OrganizationId) (act : Action α) : Prop :=
  act.Moves (World.SameFor organization)

theorem Action.Reads.hidden {act : Action α} (reads : act.Reads) : act.HiddenFrom organization :=
  fun world => (reads world).sameFor

theorem Action.HiddenFrom.bind {β : Type} {act : Action α} {next : α → Action β} {P : α → Prop}
    (first : act.HiddenFrom organization) (gives : act.Gives P)
    (rest : ∀ a, P a → (next a).HiddenFrom organization) : (act >>= next).HiddenFrom organization :=
  Moves.bind .trans first gives rest

theorem Action.HiddenFrom.map {β : Type} {act : Action α} (first : act.HiddenFrom organization)
    (f : α → β) : (act >>= fun a => pure (f a)).HiddenFrom organization :=
  first.bind (gives_any act) fun a _ => (reads_pure (f a)).hidden

theorem hidden_writeTable (call : TableCall) {write : SegmentTable → Bool × SegmentTable}
    (unseen : ∀ table : SegmentTable, table.SameFor organization (write table).2) :
    (writeTable call write).HiddenFrom organization := by
  intro world
  have written := (World.SameFor.refl world).withSegments (unseen world.segments)
  rw [perform_writeTable]
  rcases world.tableOutage call with _ | (_ | _)
  · exact written
  · exact .refl world
  · exact .refl world

theorem Engine.hidden_update (engine : Engine) (foreign : owner ≠ organization) (id : SegmentId)
    (change : SegmentChange) (now : Instant) :
    (engine.update owner id change now).HiddenFrom organization := by
  refine (reads_get owner id).hidden.bind (gives_get _ _) fun segment owned => ?_
  have revised : (admitted (engine.revise segment change now)).Gives (·.organization = owner) :=
    gives_admitted fun _ made => (owner_of_revise made).2.trans owned
  refine (reads_admitted _).hidden.bind revised fun segment owned => ?_
  have elsewhere : segment.organization ≠ organization := owned ▸ foreign
  have replaced := hidden_writeTable .replace
    fun table : SegmentTable => table.sameFor_replace elsewhere
  refine replaced.bind (gives_any _) fun done _ => ?_
  cases done with
  | true => exact (reads_pure _).hidden
  | false => exact (reads_throw _).hidden

theorem Engine.hidden_delete (foreign : owner ≠ organization) (id : SegmentId) :
    (Engine.delete owner id).HiddenFrom organization := by
  have removed := hidden_writeTable .remove fun table : SegmentTable => table.sameFor_remove foreign id
  refine removed.bind (gives_any _) fun done _ => ?_
  cases done with
  | true => exact (reads_pure _).hidden
  | false => exact (reads_throw _).hidden

/-- A segment that others create under an id that is not in use is not seen. -/
theorem Engine.sameFor_create (engine : Engine) (foreign : owner ≠ organization) (new : NewSegment)
    (stamp : Stamp) (world : World)
    (fresh : ∀ segment, ((engine.create owner new stamp).perform world).1 = .ok segment →
      world.segments.find? organization stamp.id = none) :
    world.SameFor organization ((engine.create owner new stamp).perform world).2 := by
  rw [perform_create] at fresh ⊢
  cases made : engine.draft owner new stamp with
  | error error =>
      have counted := reads_admitted (α := Segment) (.error error) world
      rw [perform_admitted] at counted
      exact counted.sameFor
  | ok segment =>
      obtain ⟨stamped, owned⟩ := owner_of_draft made
      rw [made] at fresh
      dsimp only at fresh ⊢
      split
      · exact .refl world
      · rename_i working
        have unused : world.segments.find? organization segment.id = none := by
          rw [stamped]
          refine fresh segment ?_
          split
          · rename_i failing
            exact absurd failing (working _)
          · rfl
        have elsewhere : segment.organization ≠ organization := owned ▸ foreign
        exact (World.SameFor.refl world).withSegments (SegmentTable.sameFor_insert elsewhere unused)

end

namespace Http.Service

variable (service : Service) {organization owner : OrganizationId}

theorem confined_run (stamp : Stamp) (call : Call) :
    Confined organization (service.run organization stamp call).perform := by
  cases call with
  | list => exact Engine.confined_list.map _
  | create new =>
      exact (service.engine.confined_create new stamp).map _
  | preview conditions =>
      exact (service.engine.confined_previewCount _).map _
  | validate conditions =>
      exact (service.engine.confined_toPredicate _).map _
  | fields => exact confined_pure _
  | get id => exact (Engine.confined_get id).map _
  | update id change =>
      exact (service.engine.confined_update _ _ _).map _
  | delete id => exact (Engine.confined_delete id).map _
  | count id =>
      exact (service.engine.confined_count id).map _
  | members id offset limit =>
      exact (service.engine.confined_members id _).map _

/-- Only a call that creates a segment can be seen by others, and only when the id was in use. -/
theorem sameFor_run (foreign : owner ≠ organization) (stamp : Stamp) (call : Call) (world : World)
    (fresh : ∀ response, ((service.run owner stamp call).perform world).1 = .ok response →
      response.status = 201 → world.segments.find? organization stamp.id = none) :
    world.SameFor organization ((service.run owner stamp call).perform world).2 := by
  cases call with
  | create new =>
      have kept := service.engine.sameFor_create foreign new stamp world
      simp only [run, perform_bind] at fresh ⊢
      rcases done : (service.engine.create owner new stamp).perform world with ⟨result, after⟩
      rw [done] at fresh kept
      cases result with
      | error error => exact kept fun _ given => by cases given
      | ok segment => exact kept fun _ _ => fresh (.json 201 segment.toJson) rfl rfl
  | list => exact ((Engine.reads_list owner).map _).hidden world
  | preview conditions =>
      exact ((service.engine.reads_previewCount owner _).map _).hidden world
  | validate conditions =>
      exact ((service.engine.reads_toPredicate owner _).map _).hidden world
  | fields => exact .refl world
  | get id => exact ((Engine.reads_get owner id).map _).hidden world
  | update id change =>
      exact (service.engine.hidden_update foreign _ _ _).map _ world
  | delete id =>
      exact (Engine.hidden_delete foreign id).map _ world
  | count id =>
      exact ((service.engine.reads_count owner id).map _).hidden world
  | members id offset limit =>
      exact ((service.engine.reads_members owner id _).map _).hidden world

/-- The world in which an error was answered. -/
def answering (error : SegmentError) (world : World) : World :=
  (errorCounter? error).elim world world.counting

theorem sameStores_answering (error : SegmentError) (world : World) :
    world.SameStores (answering error world) := by
  unfold answering
  cases errorCounter? error with
  | none => exact .refl world
  | some counter => exact .counting world counter

theorem call_eq (stamp : Stamp) (call : Call) (world : World) :
    service.call organization stamp call world =
      match (service.run organization stamp call).perform world with
      | (.ok response, after) => (response, after)
      | (.error error, after) => (errorResponse error, answering error after) := by
  unfold Service.call perform answering
  simp only [bind, StateT.bind, ExceptT.run]
  rcases service.run organization stamp call world with ⟨_ | _, after⟩
  · rename_i error
    cases error <;> rfl
  · rfl

theorem confined_call (stamp : Stamp) (call : Call) :
    Confined organization (service.call organization stamp call) := by
  intro world other same
  have run := service.confined_run stamp call world other same
  rw [call_eq, call_eq]
  rcases here : (service.run organization stamp call).perform world with ⟨result, after⟩
  rcases there : (service.run organization stamp call).perform other with ⟨result', after'⟩
  rw [here, there] at run
  obtain ⟨given, left⟩ := run
  cases given
  cases result with
  | ok response => exact ⟨rfl, left⟩
  | error error =>
      exact ⟨rfl, left.congr (sameStores_answering _ _) (sameStores_answering _ _)⟩

theorem sameFor_call (foreign : owner ≠ organization) (stamp : Stamp) (call : Call) (world : World)
    (fresh : (service.call owner stamp call world).1.status = 201 →
      world.segments.find? organization stamp.id = none) :
    world.SameFor organization (service.call owner stamp call world).2 := by
  have kept := service.sameFor_run foreign stamp call world
  rw [call_eq] at fresh ⊢
  rcases done : (service.run owner stamp call).perform world with ⟨result, after⟩
  rw [done] at fresh kept
  cases result with
  | ok response =>
      refine kept fun response' given => ?_
      cases given
      exact fresh
  | error error => exact (kept fun _ given => by cases given).trans (sameStores_answering error after).sameFor

/-- The response to a request, and the world afterwards. -/
def exchange (request : Request) (stamp : Stamp) (world : World) : Response × World :=
  service.respond request stamp world

/-- A request for the head changes the world as a request for the whole does. -/
theorem exchange_eq (request : Request) (stamp : Stamp) (world : World) :
    service.exchange request stamp world =
      match request.method with
      | .options => (.bare 200, world)
      | .head =>
        ((service.dispatch .get request stamp world).1.headOnly,
          (service.dispatch .get request stamp world).2)
      | method => service.dispatch method request stamp world := by
  unfold exchange respond
  cases request.method <;> rfl

/-- What a path leads to is fixed, or it is an endpoint. -/
theorem dispatch_cases (method : Method) (request : Request) (stamp : Stamp) :
    (∃ response, ∀ world, service.dispatch method request stamp world = (response, world)) ∨
      ∃ endpoint, service.dispatch method request stamp = service.answer endpoint request stamp := by
  unfold dispatch
  cases Resource.ofPath? request.path with
  | none => exact .inl ⟨_, fun _ => rfl⟩
  | some resource =>
      dsimp only
      rcases resource.target? method with _ | (_ | _ | endpoint)
      · exact .inl ⟨_, fun _ => rfl⟩
      · exact .inl ⟨_, fun _ => rfl⟩
      · exact .inl ⟨_, fun _ => rfl⟩
      · exact .inr ⟨endpoint, rfl⟩

variable {request : Request}

theorem confined_answer (owned : service.tenant? request = some organization) (endpoint : Endpoint)
    (stamp : Stamp) : Confined organization (service.answer endpoint request stamp) := by
  unfold answer
  rw [owned]
  cases endpoint.read request with
  | error refusal => exact fun _ _ same => ⟨rfl, same⟩
  | ok call => exact service.confined_call stamp call

theorem confined_dispatch (owned : service.tenant? request = some organization) (method : Method)
    (stamp : Stamp) : Confined organization (service.dispatch method request stamp) := by
  rcases service.dispatch_cases method request stamp with ⟨response, fixed⟩ | ⟨endpoint, answered⟩
  · intro world other same
    rw [fixed, fixed]
    exact ⟨rfl, same⟩
  · rw [answered]
    exact service.confined_answer owned endpoint stamp

/-- An organization's request tells it nothing about others. -/
theorem confined_exchange (owned : service.tenant? request = some organization) (stamp : Stamp) :
    Confined organization (service.exchange request stamp) := by
  intro world other same
  rw [exchange_eq, exchange_eq]
  cases request.method with
  | options => exact ⟨rfl, same⟩
  | head =>
      obtain ⟨given, left⟩ := service.confined_dispatch owned .get stamp world other same
      exact ⟨congrArg Response.headOnly given, left⟩
  | get | post | put | delete | other =>
      exact service.confined_dispatch owned _ stamp world other same

variable (foreign : service.tenant? request ≠ some organization)

include foreign

theorem sameFor_answer (endpoint : Endpoint) (stamp : Stamp) (world : World)
    (fresh : (service.answer endpoint request stamp world).1.status = 201 →
      world.segments.find? organization stamp.id = none) :
    world.SameFor organization (service.answer endpoint request stamp world).2 := by
  unfold answer at fresh ⊢
  cases owned : service.tenant? request with
  | none => exact (World.SameStores.counting world .unauthorized).sameFor
  | some owner =>
      rw [owned] at fresh foreign
      have elsewhere : owner ≠ organization := fun same => foreign (congrArg some same)
      cases read : endpoint.read request with
      | error refusal => exact .refl world
      | ok call =>
          rw [read] at fresh
          exact service.sameFor_call elsewhere stamp call world fresh

theorem sameFor_dispatch (method : Method) (stamp : Stamp) (world : World)
    (fresh : (service.dispatch method request stamp world).1.status = 201 →
      world.segments.find? organization stamp.id = none) :
    world.SameFor organization (service.dispatch method request stamp world).2 := by
  rcases service.dispatch_cases method request stamp with ⟨response, fixed⟩ | ⟨endpoint, answered⟩
  · rw [fixed]
    exact .refl world
  · rw [answered] at fresh ⊢
    exact service.sameFor_answer foreign endpoint stamp world fresh

/-- Nor does it see what others ask for, if the ids of new segments are not in use. -/
theorem sameFor_exchange (stamp : Stamp) (world : World)
    (fresh : (service.exchange request stamp world).1.status = 201 →
      world.segments.find? organization stamp.id = none) :
    world.SameFor organization (service.exchange request stamp world).2 := by
  rw [exchange_eq] at fresh ⊢
  cases asked : request.method with
  | options => exact .refl world
  | head | get | post | put | delete | other =>
      rw [asked] at fresh
      exact service.sameFor_dispatch foreign _ stamp world fresh

end Http.Service

end ContactSegments
