import ContactSegments.SegmentTable

/-! # The segments of each organization

What an organization sees of the table is what it finds under each id. Writes in the name of another
organization leave that as it is, unless a new segment is put under an id that is taken.
-/

namespace ContactSegments

namespace SegmentTable

variable {table other : SegmentTable} {organization : OrganizationId} {id : SegmentId}
  {segment : Segment}

theorem find?_eq_some_iff :
    table.find? organization id = some segment ↔
      table.records[id]? = some segment ∧ segment.organization = organization := by
  simp [find?, Option.filter_eq_some_iff]

theorem find?_of_absent (absent : table.records[id]? = none) (organization : OrganizationId) :
    table.find? organization id = none := by
  rw [find?, absent]
  rfl

theorem find?_insert (table : SegmentTable) (segment : Segment) (organization : OrganizationId)
    (id : SegmentId) :
    (table.insert segment).find? organization id =
      if segment.id = id then (if segment.organization = organization then some segment else none)
      else table.find? organization id := by
  simp only [find?, insert, Std.ExtTreeMap.getElem?_insert, Std.compare_eq_iff_eq]
  split
  · simp [Option.filter]
  · rfl

theorem find?_erase (table : SegmentTable) (erased : SegmentId) (organization : OrganizationId)
    (id : SegmentId) :
    SegmentTable.find? ⟨table.records.erase erased⟩ organization id =
      if erased = id then none else table.find? organization id := by
  simp only [find?, Std.ExtTreeMap.getElem?_erase, Std.compare_eq_iff_eq]
  split
  · rfl
  · rfl

/-- The organization finds the same in both tables. -/
def SameFor (organization : OrganizationId) (table other : SegmentTable) : Prop :=
  ∀ id, table.find? organization id = other.find? organization id

theorem SameFor.list (same : table.SameFor organization other) :
    table.list organization = other.list organization := by
  let owned (t : SegmentTable) := t.records.filter fun _ s => s.organization == organization
  have found : ∀ t : SegmentTable, ∀ id, (owned t)[id]? = t.find? organization id := by
    intro t id
    exact Std.ExtTreeMap.getElem?_filter'
  have listed : ∀ t : SegmentTable,
      t.list organization = ((owned t).toList.map (·.2)).mergeSort Segment.listedBefore := by
    intro t
    simp only [SegmentTable.list, owned, Std.ExtTreeMap.toList_filter, List.filter_map]
    rfl
  -- a list is read off the part of the table that lookups see
  have equal : owned table = owned other := by
    apply Std.ExtTreeMap.ext_getElem?
    intro id
    rw [found, found, same id]
  rw [listed, listed, equal]

theorem mem_list_iff :
    segment ∈ table.list organization ↔
      ∃ id : SegmentId, table.find? organization id = some segment := by
  simp [list, Std.ExtTreeMap.mem_toList_iff_getElem?_eq_some, find?_eq_some_iff]

/-- The tables that come about by insertions, replacements and removals. -/
inductive Reachable : SegmentTable → Prop
  | empty : Reachable .empty
  | insert {table : SegmentTable} (reachable : Reachable table) (segment : Segment) :
      Reachable (table.insert segment)
  | replace {table : SegmentTable} (reachable : Reachable table) (segment : Segment) :
      Reachable (table.replace segment).2
  | remove {table : SegmentTable} (reachable : Reachable table) (organization : OrganizationId)
      (id : SegmentId) : Reachable (table.remove organization id).2

/-- Every segment stands under its own id. -/
def Filed (table : SegmentTable) : Prop :=
  ∀ (id : SegmentId) (segment : Segment), table.records[id]? = some segment → segment.id = id

theorem getElem?_insert (table : SegmentTable) (segment : Segment) (id : SegmentId) :
    (table.insert segment).records[id]? =
      if segment.id = id then some segment else table.records[id]? := by
  simp only [insert, Std.ExtTreeMap.getElem?_insert, Std.compare_eq_iff_eq]

theorem filed_empty : Filed .empty := by
  intro id segment stands
  simp [empty] at stands

theorem Filed.insert (filed : table.Filed) (segment : Segment) : (table.insert segment).Filed := by
  intro id held stands
  rw [getElem?_insert] at stands
  split at stands
  · rename_i same
    cases stands
    exact same
  · exact filed id held stands

theorem Filed.erase (filed : table.Filed) (erased : SegmentId) :
    Filed ⟨table.records.erase erased⟩ := by
  intro id held stands
  simp only [Std.ExtTreeMap.getElem?_erase] at stands
  split at stands
  · cases stands
  · exact filed id held stands

theorem Reachable.filed (reachable : table.Reachable) : table.Filed := by
  induction reachable with
  | empty => exact filed_empty
  | insert _ segment ih => exact ih.insert segment
  | @replace table _ segment ih =>
      unfold SegmentTable.replace
      cases table.find? segment.organization segment.id with
      | none => exact ih
      | some _ => exact ih.insert segment
  | @remove table _ organization id ih =>
      unfold SegmentTable.remove
      cases table.find? organization id with
      | none => exact ih
      | some _ => exact ih.erase id

theorem Filed.id_of_find? (filed : table.Filed) (found : table.find? organization id = some segment) :
    segment.id = id :=
  filed id segment (find?_eq_some_iff.mp found).1

theorem Filed.not_listed (filed : table.Filed) (absent : table.records[id]? = none)
    (organization : OrganizationId) : ∀ segment ∈ table.list organization, segment.id ≠ id := by
  rintro segment listed rfl
  obtain ⟨under, found⟩ := mem_list_iff.mp listed
  rw [filed.id_of_find? found, find?_of_absent (filed.id_of_find? found ▸ absent)] at *
  cases found

theorem SameFor.insert (same : table.SameFor organization other) (segment : Segment) :
    (table.insert segment).SameFor organization (other.insert segment) := by
  intro id
  rw [find?_insert, find?_insert, same id]

theorem SameFor.replace (same : table.SameFor organization other)
    (owned : segment.organization = organization) :
    (table.replace segment).1 = (other.replace segment).1 ∧
      (table.replace segment).2.SameFor organization (other.replace segment).2 := by
  unfold SegmentTable.replace
  rw [owned, same segment.id]
  cases other.find? organization segment.id with
  | none => exact ⟨rfl, same⟩
  | some held => exact ⟨rfl, same.insert segment⟩

theorem SameFor.remove (same : table.SameFor organization other) (id : SegmentId) :
    (table.remove organization id).1 = (other.remove organization id).1 ∧
      (table.remove organization id).2.SameFor organization (other.remove organization id).2 := by
  unfold SegmentTable.remove
  rw [same id]
  cases other.find? organization id with
  | none => exact ⟨rfl, same⟩
  | some held =>
      refine ⟨rfl, fun other => ?_⟩
      rw [find?_erase, find?_erase, same other]

/-- A new segment of another organization is not seen, provided its id is not in use. -/
theorem sameFor_insert (foreign : segment.organization ≠ organization)
    (unused : table.find? organization segment.id = none) :
    table.SameFor organization (table.insert segment) := by
  intro id
  rw [find?_insert, if_neg foreign]
  split
  · rename_i same
    rw [← same, unused]
  · rfl

theorem find?_eq_none_of_foreign (held : table.records[id]? = some segment)
    (foreign : segment.organization ≠ organization) : table.find? organization id = none := by
  simp [find?, held, Option.filter, foreign]

theorem find?_eq_none_of_owner {owner : OrganizationId} (foreign : owner ≠ organization)
    (held : table.find? owner id = some segment) : table.find? organization id = none := by
  obtain ⟨stands, owned⟩ := find?_eq_some_iff.mp held
  exact find?_eq_none_of_foreign stands (owned ▸ foreign)

theorem sameFor_replace (foreign : segment.organization ≠ organization) :
    table.SameFor organization (table.replace segment).2 := by
  unfold SegmentTable.replace
  cases held : table.find? segment.organization segment.id with
  | none => exact fun _ => rfl
  | some old => exact sameFor_insert foreign (find?_eq_none_of_owner foreign held)

theorem sameFor_remove {owner : OrganizationId} (foreign : owner ≠ organization) (id : SegmentId) :
    table.SameFor organization (table.remove owner id).2 := by
  unfold SegmentTable.remove
  cases held : table.find? owner id with
  | none => exact fun _ => rfl
  | some old =>
      intro other
      rw [find?_erase]
      split
      · rename_i same
        rw [← same, find?_eq_none_of_owner foreign held]
      · rfl

/-- Under an id that is taken a new segment of another organization takes the place of what was there. -/
theorem sameFor_insert_iff (foreign : segment.organization ≠ organization) :
    table.SameFor organization (table.insert segment) ↔
      table.find? organization segment.id = none := by
  refine ⟨fun same => ?_, sameFor_insert foreign⟩
  rw [same segment.id, find?_insert, if_pos rfl, if_neg foreign]

/-- The organization finds and lists the same in both tables. -/
def ReadsAlike (organization : OrganizationId) (table other : SegmentTable) : Prop :=
  (∀ id, table.find? organization id = other.find? organization id) ∧
    table.list organization = other.list organization

theorem readsAlike_iff_sameFor :
    ReadsAlike organization table other ↔ table.SameFor organization other :=
  ⟨And.left, fun same => ⟨same, same.list⟩⟩

/-- What another organization replaces or removes is never seen. What it inserts is seen just when the
    id is already that of a segment of the organization. -/
theorem readsAlike_after_write (table : SegmentTable) (organization : OrganizationId) :
    (∀ segment, segment.organization ≠ organization →
      ReadsAlike organization table (table.replace segment).2) ∧
    (∀ owner id, owner ≠ organization →
      ReadsAlike organization table (table.remove owner id).2) ∧
    (∀ segment, segment.organization ≠ organization →
      (ReadsAlike organization table (table.insert segment) ↔
        table.find? organization segment.id = none)) := by
  refine ⟨fun segment foreign => ?_, fun owner id foreign => ?_, fun segment foreign => ?_⟩
  · exact readsAlike_iff_sameFor.mpr (sameFor_replace foreign)
  · exact readsAlike_iff_sameFor.mpr (sameFor_remove foreign id)
  · rw [readsAlike_iff_sameFor, sameFor_insert_iff foreign]

end SegmentTable

open SegmentTable

namespace SharedId

def north : OrganizationId := ⟨0x31, by decide⟩

def south : OrganizationId := ⟨0x32, by decide⟩

def today : Instant := .midnight ⟨2024, 2, 3, by decide⟩

/-- A static segment under one and the same id, whoever owns it. -/
def ownedBy (organization : OrganizationId) (name : String) : Segment where
  id := ⟨0x37, by decide⟩
  organization
  name
  kind := .static
  criteria := .empty
  members := []
  createdAt := today
  updatedAt := today

def leads : Segment := ownedBy north "Leads"

def intruder : Segment := ownedBy south "Mine now"

/-- Only a segment of the north is stored. -/
def table : SegmentTable := SegmentTable.empty.insert leads

theorem intruder_kept_out :
    intruder.organization ≠ north ∧ ReadsAlike north table (table.replace intruder).2 ∧
      ReadsAlike north table (table.remove south intruder.id).2 ∧
      ¬ ReadsAlike north table (table.insert intruder) := by
  have foreign : intruder.organization ≠ north := by decide
  have taken : table.find? north intruder.id ≠ none := by decide +kernel
  obtain ⟨replaced, removed, inserted⟩ := table.readsAlike_after_write north
  exact ⟨foreign, replaced intruder foreign, removed south intruder.id foreign,
    fun same => taken ((inserted intruder foreign).mp same)⟩

/-- An insertion under an id that is taken makes another organization's segment disappear. -/
theorem insert_displaces :
    intruder.organization ≠ north ∧ table.find? north leads.id = some leads ∧
      table.list north = [leads] ∧ (table.insert intruder).find? north leads.id = none ∧
      (table.insert intruder).list north = [] := by
  decide +kernel

end SharedId

end ContactSegments
