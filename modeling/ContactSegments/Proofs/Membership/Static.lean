import ContactSegments.Proofs.FlatBook
import ContactSegments.Proofs.Membership.Stored
import ContactSegments.Proofs.Membership.Walk
import ContactSegments.Sql.Statement

/-! # Members of static segments

A static segment lists its members, in any order and with any repetitions. Those of them that are
contacts of its organization at the moment are its members, whatever else is listed and whatever its
criteria are. Contacts that come and go are seen at the next evaluation, and nothing of the segment has
to change for it.
-/

namespace ContactSegments

open ContactSegments.Action

namespace Predicate

variable {ids others : List ContactId} {organization : OrganizationId}

theorem holds_ofMembers_iff {contact : Contact} :
    (ofMembers ids organization).holds contact = true ↔
      contact.organization = organization ∧ contact.id ∈ ids := by
  rw [holds_iff, ofMembers, List.forall_mem_singleton, Clause.holds, ← Std.ExtTreeSet.mem_iff_contains,
    Std.ExtTreeSet.mem_ofList, List.contains_iff_mem]

/-- Listing the same members in another order, or some of them again, makes no other predicate. -/
theorem ofMembers_congr (same : ∀ id, id ∈ ids ↔ id ∈ others) (organization : OrganizationId) :
    ofMembers ids organization = ofMembers others organization := by
  have equal : Std.ExtTreeSet.ofList ids compare = Std.ExtTreeSet.ofList others compare := by
    apply Std.ExtTreeSet.ext_mem
    intro id
    simp only [Std.ExtTreeSet.mem_ofList, List.contains_iff_mem, same]
  rw [ofMembers, ofMembers, equal]

/-- The statement binds the organization and the listed members, each of them once and in ascending
    order. -/
theorem exists_parameters_ofMembers (ids : List ContactId) (organization : OrganizationId) :
    ∃ listed : List ContactId, listed.Pairwise (fun a b => compare a b = .lt) ∧
      (∀ id, id ∈ listed ↔ id ∈ ids) ∧
      (ofMembers ids organization).toSql.parameters = [.uuid organization.uuid, .uuids listed] := by
  refine ⟨(Std.ExtTreeSet.ofList ids).toList, Std.ExtTreeSet.ordered_toList, fun id => ?_, rfl⟩
  rw [Std.ExtTreeSet.mem_toList, Std.ExtTreeSet.mem_ofList, List.contains_iff_mem]

end Predicate

namespace ContactBook

variable {book : ContactBook}

theorem Reachable.run (reachable : book.Reachable) (writes : List ContactWrite) :
    (keeping.run book writes).2.Reachable := by
  induction writes generalizing book with
  | nil => exact reachable
  | cons write writes ih =>
      cases write with
      | insert contact => exact ih (reachable.insert contact)
      | extend contacts => exact ih (reachable.extend contacts)
      | remove organization id => exact ih (reachable.remove organization id)

/-- Of the listed ids those are found that name a contact of the organization. -/
theorem Filed.mem_members_ofMembers_iff (filed : book.Filed) {ids : List ContactId}
    {organization : OrganizationId} {id : ContactId} :
    id ∈ book.members (.ofMembers ids organization) ↔
      id ∈ ids ∧ ∃ contact, book.find? organization id = some contact := by
  rw [filed.mem_members_iff]
  constructor
  · rintro ⟨contact, found, matched⟩
    obtain ⟨-, listed⟩ := Predicate.holds_ofMembers_iff.mp matched
    exact ⟨(filed _ _ _ found).1 ▸ listed, contact, found⟩
  · rintro ⟨listed, contact, found⟩
    obtain ⟨own, owner⟩ := filed _ _ _ found
    exact ⟨contact, found, Predicate.holds_ofMembers_iff.mpr ⟨owner, own ▸ listed⟩⟩

end ContactBook

/-- The world after contacts were written; the segments stay as they are. -/
def World.written (world : World) (writes : List ContactWrite) : World :=
  { world with contacts := (ContactBook.keeping.run world.contacts writes).2 }

namespace Engine

variable (engine : Engine) {organization : OrganizationId} {id : SegmentId} {segment : Segment}
  {world : World}

/-- Segments with the same predicate are evaluated alike. -/
theorem perform_evaluations_of_alike (answers : world.Answers .get) {other : SegmentId}
    {twin : Segment} (held : world.segments.find? organization id = some segment)
    (stands : world.segments.find? organization other = some twin)
    (alike : engine.storedPredicate twin = engine.storedPredicate segment) :
    (engine.count organization other).perform world = (engine.count organization id).perform world ∧
      (∀ page, (engine.members organization other page).perform world =
        (engine.members organization id page).perform world) ∧
      ∀ evaluation, (engine.evaluate organization other evaluation).perform world =
        (engine.evaluate organization id evaluation).perform world := by
  have found := perform_get_held answers held
  have twinFound := perform_get_held answers stands
  refine ⟨?_, fun page => ?_, fun evaluation => ?_⟩
  · unfold count
    rw [perform_bind_ok found, perform_bind_ok twinFound, alike]
  · unfold members
    rw [perform_bind_ok found, perform_bind_ok twinFound, alike]
  · unfold evaluate
    rw [perform_bind_ok found, perform_bind_ok twinFound, alike]

/-- What is told of a stored segment while everything works: the number of the contacts that its
    predicate matches, and the pages of their ids. -/
theorem perform_evaluations_of_working (answers : world.Answers .get)
    (working : world.contactOutage = none)
    (held : world.segments.find? organization id = some segment) {predicate : Predicate}
    (stored : (engine.storedPredicate segment).perform world = (.ok predicate, world)) :
    let ids := world.contacts.members predicate
    ((engine.count organization id).perform world).1 = .ok ids.length ∧
      ((engine.evaluate organization id .count).perform world).1 = .ok (.count ids.length) ∧
      ∀ page : Page, 1 ≤ page.limit → page.limit ≤ engine.limits.maxPageSize →
        let shown := QueryResult.toPage ⟨ids.length, page.slice ids⟩ page.offset
        ((engine.members organization id page).perform world).1 = .ok shown ∧
          ((engine.evaluate organization id (.members page)).perform world).1 =
            .ok (.members shown) := by
  obtain ⟨counted, shown, evaluated⟩ := engine.perform_evaluations_of_ok answers held stored
  have total := perform_countMatches_of_working working predicate
  refine ⟨by rw [counted, total], ?_, fun page room small => ?_⟩
  · rw [evaluated]
    refine (perform_map _ _ _).trans ?_
    rw [total]
    rfl
  · have part := perform_pageMatches_of_working working (page.check_eq_ok room small) predicate
    refine ⟨by rw [shown, part], ?_⟩
    rw [evaluated]
    refine (perform_map _ _ _).trans ?_
    rw [part]
    rfl

theorem storedPredicate_static (static : segment.kind = .static) :
    engine.storedPredicate segment = pure (.ofMembers segment.members segment.organization) := by
  rw [storedPredicate, static]

/-- Whatever contacts were written meanwhile, a static segment has as its members the listed ids that
    now name contacts of its organization: so many are counted, and the pages show their parts of them in
    ascending order. The statement that is rendered binds the listed ids once each, ascending. Another
    static segment of the organization that lists the same ids gives the same answers, whatever else is
    stored with the two. -/
theorem static_members_live (reachable : world.contacts.Reachable)
    (working : world.contactOutage = none) (answers : world.Answers .get)
    (held : world.segments.find? organization id = some segment) (static : segment.kind = .static)
    (writes : List ContactWrite) :
    let now := world.written writes
    (∃ live : List ContactId, live.Pairwise (fun a b => compare a b = .lt) ∧
      (∀ member, member ∈ live ↔ member ∈ segment.members ∧
        ∃ contact, now.contacts.find? organization member = some contact) ∧
      ((engine.count organization id).perform now).1 = .ok live.length ∧
      ((engine.evaluate organization id .count).perform now).1 = .ok (.count live.length) ∧
      ∀ page : Page, 1 ≤ page.limit → page.limit ≤ engine.limits.maxPageSize →
        ∃ next, (live.length < wordBound → next = page.next? live) ∧
          let shown := ⟨page.slice live, live.length, page.offset, next⟩
          ((engine.members organization id page).perform now).1 = .ok shown ∧
          ((engine.evaluate organization id (.members page)).perform now).1 = .ok (.members shown)) ∧
    (∃ predicate listed, (engine.storedPredicate segment).perform now = (.ok predicate, now) ∧
      predicate.toSql.parameters = [.uuid organization.uuid, .uuids listed] ∧
      listed.Pairwise (fun a b => compare a b = .lt) ∧
      ∀ member, member ∈ listed ↔ member ∈ segment.members) ∧
    ∀ other twin, world.segments.find? organization other = some twin → twin.kind = .static →
      (∀ member, member ∈ twin.members ↔ member ∈ segment.members) →
      engine.storedPredicate twin = engine.storedPredicate segment ∧
      (engine.count organization other).perform now = (engine.count organization id).perform now ∧
      (∀ page, (engine.members organization other page).perform now =
        (engine.members organization id page).perform now) ∧
      ∀ evaluation, (engine.evaluate organization other evaluation).perform now =
        (engine.evaluate organization id evaluation).perform now := by
  intro now
  have filed : now.contacts.Filed := (reachable.run writes).filed
  obtain ⟨-, rfl⟩ := SegmentTable.find?_eq_some_iff.mp held
  let predicate : Predicate := .ofMembers segment.members segment.organization
  have answersNow : now.Answers .get := answers
  have heldNow : now.segments.find? segment.organization id = some segment := held
  have stored : (engine.storedPredicate segment).perform now = (.ok predicate, now) := by
    rw [engine.storedPredicate_static static]
    rfl
  refine ⟨?live, ?statement, fun other twin stands alsoStatic same => ?twins⟩
  case live =>
    obtain ⟨counted, evaluated, pages⟩ :=
      engine.perform_evaluations_of_working answersNow working heldNow stored
    refine ⟨now.contacts.members predicate, filed.members_ascending predicate,
      fun member => filed.mem_members_ofMembers_iff, counted, evaluated, fun page room small => ?_⟩
    exact ⟨_, fun few => congrArg MemberPage.nextOffset (page.toPage_slice few), pages page room small⟩
  case statement =>
    obtain ⟨listed, ascending, same, bound⟩ :=
      Predicate.exists_parameters_ofMembers segment.members segment.organization
    exact ⟨predicate, listed, stored, bound, ascending, same⟩
  case twins =>
    have alike : engine.storedPredicate twin = engine.storedPredicate segment := by
      rw [engine.storedPredicate_static static, engine.storedPredicate_static alsoStatic,
        (SegmentTable.find?_eq_some_iff.mp stands).2, Predicate.ofMembers_congr same]
    exact ⟨alike, engine.perform_evaluations_of_alike answersNow heldNow stands alike⟩

end Engine

namespace HandPicked

def owner : OrganizationId := ⟨0x51, by decide⟩

def stranger : OrganizationId := ⟨0x52, by decide⟩

def today : Instant := .midnight ⟨2024, 3, 2, by decide⟩

def first : ContactId := ⟨0x54, by decide⟩

def second : ContactId := ⟨0x53, by decide⟩

/-- A contact of the other organization. -/
def foreign : ContactId := ⟨0x55, by decide⟩

/-- Listed before there is a contact with this id. -/
def late : ContactId := ⟨0x56, by decide⟩

/-- The criteria of the segment are not legal, and nobody looks at them. -/
def picked (id : SegmentId) (members : List ContactId) : Segment where
  id
  organization := owner
  name := "Picked by hand"
  kind := .static
  criteria := ⟨[⟨"c1", "nowhere", "equals", "", none⟩]⟩
  members
  createdAt := today
  updatedAt := today

def list : Segment := picked ⟨0x57, by decide⟩ [late, first, foreign, second, first]

def sameList : Segment := picked ⟨0x58, by decide⟩ [first, second, late, late, foreign]

def world : World :=
  { World.empty with
    contacts := ContactBook.empty.extend
      [.blank first owner today, .blank second owner today, .blank foreign stranger today]
    segments := (SegmentTable.empty.insert list).insert sameList }

/-- One of the members goes, and another one comes. -/
def writes : List ContactWrite := [.remove owner second, .insert (.blank late owner today)]

def engine : Engine := ⟨.empty, .standard⟩

theorem members_after_writes :
    world.segments.find? owner list.id = some list ∧
      ((engine.members owner list.id ⟨1, 5⟩).perform (world.written writes)).1 =
        .ok ⟨[late], 2, 1, none⟩ ∧
      ((engine.members owner sameList.id ⟨1, 5⟩).perform (world.written writes)).1 =
        .ok ⟨[late], 2, 1, none⟩ := by
  have reachable : world.contacts.Reachable := .extend .empty _
  have held : world.segments.find? owner list.id = some list := by decide +kernel
  have stands : world.segments.find? owner sameList.id = some sameList := by decide +kernel
  have same : ∀ member, member ∈ sameList.members ↔ member ∈ list.members := by
    intro member
    simp only [sameList, list, picked, List.mem_cons, List.not_mem_nil, or_false]
    tauto
  have shown : ((engine.members owner list.id ⟨1, 5⟩).perform (world.written writes)).1 =
      .ok ⟨[late], 2, 1, none⟩ := by decide +kernel
  have answers : world.Answers .get := World.answers_of_working rfl
  obtain ⟨-, -, twins⟩ := engine.static_members_live reachable rfl answers held rfl writes
  obtain ⟨-, -, pages, -⟩ := twins sameList.id sameList stands rfl same
  exact ⟨held, shown, by rw [pages, shown]⟩

end HandPicked

end ContactSegments
