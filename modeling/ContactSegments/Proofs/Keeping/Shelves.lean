import ContactSegments.Proofs.Keeping.Admission
import ContactSegments.Proofs.Keeping.Listing
import ContactSegments.Proofs.Traffic.Deletion

/-! # Segments on shelves

Whoever asks one thing after the other finds each organization's segments on a shelf of its own, under
their ids. The table keeps the segments of all organizations under their ids alone; it answers as the
shelves do as long as no id is given out twice.
-/

namespace ContactSegments

open ContactSegments.Action

/-- The segments of all organizations. -/
abbrev Shelves := OrganizationId → Shelf

namespace Shelves

def empty : Shelves := fun _ _ => none

/-- The shelves with a segment, or with nothing, in one place. -/
def put (shelves : Shelves) (owner : OrganizationId) (id : SegmentId) (held : Option Segment) :
    Shelves := fun organization other =>
  if organization = owner ∧ other = id then held else shelves organization other

/-- What an operation is answered, and the shelves afterwards. What an evaluation finds out about a
    segment is left open. -/
inductive Serves (engine : Engine) (shelves : Shelves) (owner : OrganizationId) :
    Operation → Except SegmentError Answer → Shelves → Prop
  | created {new : NewSegment} {stamp : Stamp}
      (faultless : engine.fault? new.kind (some new.name) (some new.criteria) = none) :
      Serves engine shelves owner (.create new stamp) (.ok (.segment (new.segment owner stamp)))
        (shelves.put owner stamp.id (some (new.segment owner stamp)))
  | notCreated {new : NewSegment} {stamp : Stamp} {error : ValidationError}
      (fault : engine.fault? new.kind (some new.name) (some new.criteria) = some error) :
      Serves engine shelves owner (.create new stamp) (.error (.validation error)) shelves
  | got {id : SegmentId} {segment : Segment} (stands : shelves owner id = some segment) :
      Serves engine shelves owner (.get id) (.ok (.segment segment)) shelves
  | listed {segments : List Segment} (lists : (shelves owner).Lists segments) :
      Serves engine shelves owner .list (.ok (.segments segments)) shelves
  | updated {id : SegmentId} {change : SegmentChange} {now : Instant} {segment : Segment}
      (stands : shelves owner id = some segment)
      (faultless : engine.fault? segment.kind change.name change.criteria = none) :
      Serves engine shelves owner (.update id change now)
        (.ok (.segment (segment.changedBy change now)))
        (shelves.put owner id (some (segment.changedBy change now)))
  | notUpdated {id : SegmentId} {change : SegmentChange} {now : Instant} {segment : Segment}
      {error : ValidationError} (stands : shelves owner id = some segment)
      (fault : engine.fault? segment.kind change.name change.criteria = some error) :
      Serves engine shelves owner (.update id change now) (.error (.validation error)) shelves
  | deleted {id : SegmentId} {segment : Segment} (stands : shelves owner id = some segment) :
      Serves engine shelves owner (.delete id) (.ok .deleted) (shelves.put owner id none)
  | evaluated {operation : Operation} {id : SegmentId} {evaluation : Evaluation} {segment : Segment}
      (evaluates : operation.evaluation? = some (id, evaluation))
      (stands : shelves owner id = some segment) (answer : Except SegmentError Answer) :
      Serves engine shelves owner operation answer shelves
  | missing {operation : Operation} {id : SegmentId} (about : operation.segment? = some id)
      (absent : shelves owner id = none) :
      Serves engine shelves owner operation (.error (.notFound id)) shelves

/-- What operations are answered one after the other, and the shelves in the end. -/
inductive Run (engine : Engine) :
    Shelves → List (OrganizationId × Operation) → List (Except SegmentError Answer) → Shelves → Prop
  | done {shelves : Shelves} : Run engine shelves [] [] shelves
  | step {shelves middle left : Shelves} {owner : OrganizationId} {operation : Operation}
      {asked : List (OrganizationId × Operation)} {answer : Except SegmentError Answer}
      {answers : List (Except SegmentError Answer)}
      (first : shelves.Serves engine owner operation answer middle)
      (rest : Run engine middle asked answers left) :
      Run engine shelves ((owner, operation) :: asked) (answer :: answers) left

variable {engine : Engine} {shelves left left' : Shelves} {owner : OrganizationId}
  {operation : Operation} {answer answer' : Except SegmentError Answer}

/-- Evaluations apart, there is one answer only. -/
theorem Serves.unique (upkeep : operation.evaluation? = none)
    (serves : shelves.Serves engine owner operation answer left)
    (serves' : shelves.Serves engine owner operation answer' left') :
    answer = answer' ∧ left = left' := by
  cases serves with
  | listed lists =>
      cases serves' with
      | listed lists' => exact ⟨by rw [lists.unique lists'], rfl⟩
      | evaluated evaluates => cases evaluates
      | missing about => cases about
  | created | notCreated | got | updated | notUpdated | deleted | evaluated | missing =>
      cases serves' <;> simp_all [Operation.segment?, Operation.evaluation?]

theorem Run.unique {asked : List (OrganizationId × Operation)}
    {answers answers' : List (Except SegmentError Answer)}
    (upkeep : ∀ entry ∈ asked, entry.2.evaluation? = none) (run : Run engine shelves asked answers left)
    (run' : Run engine shelves asked answers' left') : answers = answers' := by
  induction run generalizing answers' with
  | done =>
      cases run'
      rfl
  | step first _ ih =>
      cases run' with
      | step first' rest' =>
          obtain ⟨now, later⟩ := List.forall_mem_cons.mp upkeep
          obtain ⟨rfl, rfl⟩ := first.unique now first'
          rw [ih later rest']

/-- Nothing stands under an id that was not used and that the operation does not use. -/
theorem Serves.unused {id : SegmentId} (serves : shelves.Serves engine owner operation answer left)
    (unused : ∀ organization, shelves organization id = none) (other : operation.creates? ≠ some id)
    (organization : OrganizationId) : left organization id = none := by
  cases serves with
  | @created new stamp _ =>
      have apart : ¬ (organization = owner ∧ id = stamp.id) :=
        fun same => other (congrArg some same.2.symm)
      simp only [put, apart, if_false, unused]
  | @updated changed change now segment stands _ =>
      have apart : ¬ (organization = owner ∧ id = changed) := by
        rintro ⟨-, rfl⟩
        rw [unused] at stands
        cases stands
      simp only [put, apart, if_false, unused]
  | deleted _ =>
      simp only [put, unused, ite_self]
  | notCreated | got | listed | notUpdated | evaluated | missing => exact unused organization

/-- A segment that is updated keeps its place. -/
theorem Serves.places_of_update {id : SegmentId} {change : SegmentChange} {now : Instant}
    (serves : shelves.Serves engine owner (.update id change now) answer left)
    (organization : OrganizationId) (other : SegmentId) :
    (left organization other).map Segment.place = (shelves organization other).map Segment.place := by
  cases serves with
  | @updated _ _ _ segment stands _ =>
      unfold put
      split
      · rename_i here
        obtain ⟨rfl, rfl⟩ := here
        rw [stands]
        rfl
      · rfl
  | notUpdated | evaluated | missing => rfl

end Shelves

namespace SegmentTable

variable {table : SegmentTable} {segment : Segment}

theorem getElem?_eq_none_iff {id : SegmentId} :
    table.records[id]? = none ↔ ∀ organization, table.find? organization id = none := by
  refine ⟨find?_of_absent, fun unseen => ?_⟩
  cases held : table.records[id]? with
  | none => rfl
  | some segment =>
      have found := find?_eq_some_iff.mpr ⟨held, rfl⟩
      rw [unseen] at found
      cases found

/-- Where nobody else has a segment, an insertion puts the segment on its owner's shelf. -/
theorem find?_insert_eq_put (table : SegmentTable) (segment : Segment)
    (free : ∀ organization, organization ≠ segment.organization →
      table.find? organization segment.id = none) :
    (table.insert segment).find? =
      Shelves.put table.find? segment.organization segment.id (some segment) := by
  funext organization id
  rw [find?_insert, Shelves.put]
  by_cases same : segment.id = id
  · subst same
    by_cases own : segment.organization = organization
    · simp [own]
    · simp [own, Ne.symm own, free organization (Ne.symm own)]
  · simp [same, Ne.symm same]

theorem find?_erase_eq_put {owner : OrganizationId} {id : SegmentId}
    (stands : table.find? owner id = some segment) :
    SegmentTable.find? ⟨table.records.erase id⟩ = Shelves.put table.find? owner id none := by
  funext organization other
  rw [find?_erase, Shelves.put]
  by_cases same : id = other
  · subst same
    by_cases own : organization = owner
    · simp [own]
    · simp [own, find?_eq_none_of_owner (Ne.symm own) stands]
  · simp [same, Ne.symm same]

theorem find?_empty : SegmentTable.empty.find? = Shelves.empty := by
  funext organization id
  exact find?_of_absent (by simp [empty]) organization

end SegmentTable

namespace Engine

variable {owner : OrganizationId} {operation : Operation} {world : World}

theorem segments_rejecting (error : ValidationError) (world : World) :
    (rejecting error world).segments = world.segments := by
  unfold rejecting
  split <;> rfl

theorem serves_evaluation {id : SegmentId} {evaluation : Evaluation} (engine : Engine)
    (order : world.InOrder) (owner : OrganizationId)
    (evaluates : operation.evaluation? = some (id, evaluation)) :
    let served := (engine.serve owner operation).perform world
    Shelves.Serves engine world.segments.find? owner operation served.1 served.2.segments.find? := by
  rw [engine.serve_of_evaluation? owner evaluates, perform_bind, perform_get (order.answers .get)]
  cases stands : world.segments.find? owner id with
  | none => exact .missing (Operation.segment?_of_evaluation? evaluates) stands
  | some segment =>
      have same := (engine.reads_evaluateFound evaluation segment world).segments
      simp only [← same]
      exact .evaluated evaluates stands _

/-- An operation is answered as on shelves, if a segment that it creates gets an unused id. -/
theorem serves_serve (engine : Engine) (order : world.InOrder) (owner : OrganizationId)
    (unused : ∀ id, operation.creates? = some id → world.segments.records[id]? = none) :
    let served := (engine.serve owner operation).perform world
    Shelves.Serves engine world.segments.find? owner operation served.1 served.2.segments.find? := by
  cases operation with
  | create new stamp =>
      simp only [serve, perform_return, perform_create, draft_eq]
      cases fault : engine.fault? new.kind (some new.name) (some new.criteria) with
      | some error =>
          simp only [segments_rejecting]
          exact .notCreated fault
      | none =>
          have free := SegmentTable.getElem?_eq_none_iff.mp (unused stamp.id rfl)
          have put := world.segments.find?_insert_eq_put (new.segment owner stamp)
            fun organization _ => free organization
          simp only [order.working]
          rw [put]
          exact .created fault
  | get id =>
      simp only [serve, perform_return, perform_get (order.answers .get)]
      cases stands : world.segments.find? owner id with
      | none => exact .missing rfl stands
      | some segment => exact .got stands
  | list =>
      simp only [serve, perform_return, perform_list (order.answers .list)]
      exact .listed (order.filed.lists owner)
  | update id change now =>
      simp only [serve, perform_return, perform_update engine order.working order.filed]
      cases stands : world.segments.find? owner id with
      | none => exact .missing rfl stands
      | some segment =>
          simp only [revise_eq]
          cases fault : engine.fault? segment.kind change.name change.criteria with
          | some error =>
              simp only [segments_rejecting]
              exact .notUpdated stands fault
          | none =>
              obtain rfl := order.filed.id_of_find? stands
              obtain rfl := (SegmentTable.find?_eq_some_iff.mp stands).2
              have put := world.segments.find?_insert_eq_put (segment.changedBy change now)
                fun _ foreign => SegmentTable.find?_eq_none_of_owner (Ne.symm foreign) stands
              simp only [put, Segment.id_changedBy, Segment.organization_changedBy]
              exact .updated stands fault
  | delete id =>
      simp only [serve, perform_bind, perform_delete (order.working .remove)]
      cases stands : world.segments.find? owner id with
      | none => exact .missing rfl stands
      | some segment =>
          simp only [SegmentTable.find?_erase_eq_put stands, perform_pure]
          exact .deleted stands
  | count | members | evaluate => exact engine.serves_evaluation order owner rfl

/-- What operations are answered one after the other, and the world in the end. -/
def serveAll (engine : Engine) :
    List (OrganizationId × Operation) → World → List (Except SegmentError Answer) × World
  | [], world => ([], world)
  | (owner, operation) :: asked, world =>
    let served := (engine.serve owner operation).perform world
    let others := engine.serveAll asked served.2
    (served.1 :: others.1, others.2)

theorem inOrder_serve (engine : Engine) (order : world.InOrder) (owner : OrganizationId)
    (operation : Operation) : ((engine.serve owner operation).perform world).2.InOrder := by
  -- as a call of a single client, which is not interrupted
  have alone : [(owner, operation)][0]? = some (owner, operation) := rfl
  obtain ⟨turns, left, -⟩ := Traffic.run_uninterrupted engine alone
  rw [← left]
  exact ((Traffic.sound_start engine [(owner, operation)] order).run _).order

theorem inOrder_serveAll (engine : Engine) (order : world.InOrder)
    (asked : List (OrganizationId × Operation)) : (engine.serveAll asked world).2.InOrder := by
  induction asked generalizing world with
  | nil => exact order
  | cons entry asked ih => exact ih (engine.inOrder_serve order entry.1 entry.2)

end Engine

namespace FreshIds

variable {asked : List (OrganizationId × Operation)} {owner : OrganizationId} {operation : Operation}
  {world : World}

theorem unused (fresh : FreshIds ((owner, operation) :: asked) world) (id : SegmentId)
    (creates : operation.creates? = some id) : world.segments.records[id]? = none := by
  refine fresh.2 id ?_
  simp only [List.filterMap_cons, creates]
  exact List.mem_cons_self

theorem serve (engine : Engine) (order : world.InOrder)
    (fresh : FreshIds ((owner, operation) :: asked) world) :
    FreshIds asked ((engine.serve owner operation).perform world).2 := by
  have serves := engine.serves_serve order owner fresh.unused
  obtain ⟨different, free⟩ := fresh
  have remain : ∀ id ∈ asked.filterMap (·.2.creates?), world.segments.records[id]? = none →
      operation.creates? ≠ some id →
      ((engine.serve owner operation).perform world).2.segments.records[id]? = none := by
    intro id _ nothing other
    rw [SegmentTable.getElem?_eq_none_iff] at nothing ⊢
    exact serves.unused nothing other
  cases creates : operation.creates? with
  | none =>
      simp only [List.filterMap_cons, creates] at different free
      exact ⟨different, fun id member => remain id member (free id member) (by simp [creates])⟩
  | some created =>
      simp only [List.filterMap_cons, creates] at different free
      obtain ⟨alone, different⟩ := List.nodup_cons.mp different
      refine ⟨different, fun id member => remain id member (free id (.tail _ member)) ?_⟩
      rw [creates]
      rintro ⟨⟩
      exact alone member

end FreshIds

namespace Engine

variable {world : World} {asked : List (OrganizationId × Operation)}

theorem run_serveAll (engine : Engine) (order : world.InOrder) (fresh : FreshIds asked world) :
    let served := engine.serveAll asked world
    Shelves.Run engine world.segments.find? asked served.1 served.2.segments.find? := by
  induction asked generalizing world with
  | nil => exact .done
  | cons entry asked ih =>
      obtain ⟨owner, operation⟩ := entry
      exact .step (engine.serves_serve order owner fresh.unused)
        (ih (engine.inOrder_serve order owner operation) (fresh.serve engine order))

theorem places_update (engine : Engine) (order : world.InOrder) (owner : OrganizationId)
    (id : SegmentId) (change : SegmentChange) (now : Instant) (organization : OrganizationId) :
    let after := ((engine.update owner id change now).perform world).2
    (after.segments.list organization).map Segment.place =
      (world.segments.list organization).map Segment.place := by
  have serves : Shelves.Serves engine world.segments.find? owner (.update id change now) _ _ :=
    engine.serves_serve order owner nofun
  have left := engine.inOrder_serve order owner (.update id change now)
  simp only [serve, perform_return] at serves left
  exact (left.filed.lists organization).places_eq (order.filed.lists organization)
    (serves.places_of_update organization)

theorem inOrder_blank (blank : world.segments = .empty)
    (working : ∀ call, world.tableOutage call = none) : world.InOrder where
  working := working
  filed := by
    rw [blank]
    exact SegmentTable.filed_empty

/-- Whatever is asked for one after the other, by whomever, is answered as if the segments stood on
    shelves, and apart from what evaluations find out no other answers are possible then. In particular
    lists do not depend on the order in which the table gives its records, and no update moves a segment
    in them. -/
theorem serveAll_on_shelves (engine : Engine) (blank : world.segments = .empty)
    (working : ∀ call, world.tableOutage call = none) (fresh : FreshIds asked world) :
    let served := engine.serveAll asked world
    let table := served.2.segments
    Shelves.Run engine .empty asked served.1 table.find? ∧
    ((∀ entry ∈ asked, entry.2.evaluation? = none) →
      ∀ answers left, Shelves.Run engine .empty asked answers left → answers = served.1) ∧
    (∀ organization records, table.Enumerates records →
      table.list organization =
        (records.filter (·.organization == organization)).mergeSort Segment.listedBefore) ∧
    ∀ owner id change now organization,
      let after := ((engine.update owner id change now).perform served.2).2.segments
      (after.list organization).map Segment.place = (table.list organization).map Segment.place := by
  have order := inOrder_blank blank working
  have left := engine.inOrder_serveAll order asked
  have run := engine.run_serveAll order fresh
  rw [blank, SegmentTable.find?_empty] at run
  refine ⟨run, fun upkeep answers others run' => ?_, fun organization records all => ?_, ?_⟩
  · exact run'.unique upkeep run
  · exact left.filed.list_of_enumerates all organization
  · exact engine.places_update left

end Engine

namespace TwoShelves

open SharedId

def engine : Engine := ⟨.standard, .standard⟩

def later : Instant := .midnight ⟨2024, 7, 1, by decide⟩

def leadsId : SegmentId := ⟨0x3a, by decide⟩

def teamId : SegmentId := ⟨0x39, by decide⟩

def rename : SegmentChange := ⟨some " Hot leads", none, none⟩

def asked : List (OrganizationId × Operation) :=
  [(north, .create (.dynamic "Leads" ⟨[⟨"c1", "email", "contains", "@", none⟩]⟩) ⟨leadsId, today⟩),
   (south, .create (.static "Team" []) ⟨teamId, today⟩),
   (south, .update leadsId rename later),
   (north, .update leadsId rename later),
   (north, .list),
   (south, .delete teamId),
   (south, .list)]

def leads : Segment where
  id := leadsId
  organization := north
  name := "Leads"
  kind := .dynamic
  criteria := ⟨[⟨"c1", "email", "contains", "@", none⟩]⟩
  members := []
  createdAt := today
  updatedAt := today

def hotLeads : Segment := { leads with name := "Hot leads", updatedAt := later }

def team : Segment where
  id := teamId
  organization := south
  name := "Team"
  kind := .static
  criteria := .empty
  members := []
  createdAt := today
  updatedAt := today

def answers : List (Except SegmentError Answer) :=
  [.ok (.segment leads), .ok (.segment team), .error (.notFound leadsId), .ok (.segment hotLeads),
   .ok (.segments [hotLeads]), .ok .deleted, .ok (.segments [])]

theorem asked_on_shelves :
    FreshIds asked World.empty ∧ (engine.serveAll asked World.empty).1 = answers ∧
      (∃ left, Shelves.Run engine .empty asked answers left) ∧
      ∀ others left, Shelves.Run engine .empty asked others left → others = answers := by
  have fresh : FreshIds asked World.empty := ⟨by decide, by decide +kernel⟩
  have given : (engine.serveAll asked World.empty).1 = answers := by decide +kernel
  obtain ⟨run, only, -⟩ := engine.serveAll_on_shelves rfl (fun _ => rfl) fresh
  rw [given] at run
  refine ⟨fresh, given, ⟨_, run⟩, fun others left other => ?_⟩
  rw [← given]
  exact only (by decide) others left other

end TwoShelves

end ContactSegments
