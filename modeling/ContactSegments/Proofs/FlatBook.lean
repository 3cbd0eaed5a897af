import ContactSegments.Proofs.ContactBook
import ContactSegments.Proofs.Membership.Page
import ContactSegments.Proofs.Predicate.Holds
import ContactSegments.Proofs.Uuid
import Mathlib.Data.List.Nodup

/-! # The book as one map

Apart from the order in which organizations come the book is one map, from an organization and an id to
the last contact written there. `FlatBook` is that map; its queries go through the contacts of all
organizations and sort what they find. Whatever is written, book and map give the same answers, so the
parts of the book, empty ones too, leave no trace of their own.
-/

namespace ContactSegments

/-- Places come in the order of the organizations, and within one in the order of the ids. -/
def placeOrder : OrganizationId × ContactId → OrganizationId × ContactId → Ordering :=
  compareLex (compareOn Prod.fst) (compareOn Prod.snd)

instance : Std.TransCmp placeOrder :=
  inferInstanceAs (Std.TransCmp (compareLex (compareOn Prod.fst) (compareOn Prod.snd)))

instance : Std.LawfulEqCmp placeOrder where
  eq_of_compare {a b} same := by
    rw [placeOrder, compareLex, Ordering.then_eq_eq] at same
    exact Prod.ext (Std.compare_eq_iff_eq.mp same.1) (Std.compare_eq_iff_eq.mp same.2)

theorem nodup_toList {α β : Type} {cmp : α → α → Ordering} [Std.TransCmp cmp]
    (map : Std.ExtTreeMap α β cmp) : map.toList.Nodup := by
  refine Std.ExtTreeMap.distinct_keys_toList.imp ?_
  rintro a b different rfl
  exact different Std.ReflCmp.compare_self

/-- All contacts under their organization and id. -/
structure FlatBook where
  contacts : Std.ExtTreeMap (OrganizationId × ContactId) Contact placeOrder

namespace FlatBook

def empty : FlatBook := ⟨∅⟩

def insert (flat : FlatBook) (contact : Contact) : FlatBook :=
  ⟨flat.contacts.insert (contact.organization, contact.id) contact⟩

def extend (flat : FlatBook) (contacts : List Contact) : FlatBook := contacts.foldl insert flat

def find? (flat : FlatBook) (organization : OrganizationId) (id : ContactId) : Option Contact :=
  flat.contacts[(organization, id)]?

def remove (flat : FlatBook) (organization : OrganizationId) (id : ContactId) :
    Option Contact × FlatBook :=
  (flat.find? organization id, ⟨flat.contacts.erase (organization, id)⟩)

def size (flat : FlatBook) : Nat := flat.contacts.size

def isEmpty (flat : FlatBook) : Bool := flat.contacts.isEmpty

/-- The ids of all contacts that a predicate matches, sorted. -/
def members (flat : FlatBook) (predicate : Predicate) : List ContactId :=
  (((flat.contacts.toList.map (·.2)).filter predicate.holds).map (·.id)).mergeSort
    fun a b => (compare a b).isLE

def query (flat : FlatBook) (predicate : Predicate) : Window → QueryResult
  | .countOnly => ⟨(flat.members predicate).length, []⟩
  | .page page => ⟨(flat.members predicate).length, page.slice (flat.members predicate)⟩

end FlatBook

/-- What can be done to kept contacts. -/
inductive ContactWrite
  | insert (contact : Contact)
  | extend (contacts : List Contact)
  | remove (organization : OrganizationId) (id : ContactId)

/-- A way to keep contacts. -/
structure ContactKeeping (Kept : Type) where
  insert : Kept → Contact → Kept
  extend : Kept → List Contact → Kept
  remove : Kept → OrganizationId → ContactId → Option Contact × Kept

namespace ContactKeeping

variable {Kept : Type} (keeping : ContactKeeping Kept)

/-- A write gives back the contact that it removes. -/
def write (kept : Kept) : ContactWrite → Option Contact × Kept
  | .insert contact => (none, keeping.insert kept contact)
  | .extend contacts => (none, keeping.extend kept contacts)
  | .remove organization id => keeping.remove kept organization id

/-- What is given back by writes one after the other, and what is kept in the end. -/
def run (kept : Kept) : List ContactWrite → List (Option Contact) × Kept
  | [] => ([], kept)
  | write :: writes =>
    let (answer, next) := keeping.write kept write
    let (answers, last) := run next writes
    (answer :: answers, last)

end ContactKeeping

def ContactBook.keeping : ContactKeeping ContactBook := ⟨insert, extend, remove⟩

def FlatBook.keeping : ContactKeeping FlatBook := ⟨insert, extend, remove⟩

theorem FlatBook.find?_insert (flat : FlatBook) (contact : Contact) (organization : OrganizationId)
    (id : ContactId) :
    (flat.insert contact).find? organization id =
      if contact.organization = organization ∧ contact.id = id then some contact
      else flat.find? organization id := by
  simp only [find?, insert, Std.ExtTreeMap.getElem?_insert,
    Std.LawfulEqCmp.compare_eq_iff_eq, Prod.mk.injEq]

theorem FlatBook.find?_remove (flat : FlatBook) (owner : OrganizationId) (removed : ContactId)
    (organization : OrganizationId) (id : ContactId) :
    (flat.remove owner removed).2.find? organization id =
      if owner = organization ∧ removed = id then none else flat.find? organization id := by
  simp only [find?, remove, Std.ExtTreeMap.getElem?_erase,
    Std.LawfulEqCmp.compare_eq_iff_eq, Prod.mk.injEq]

namespace ContactBook

variable {book : ContactBook} {flat : FlatBook}

/-- The book is in order, and a contact is found in it just where it is found in the map. -/
structure Mirrors (book : ContactBook) (flat : FlatBook) : Prop where
  filed : book.Filed
  same : ∀ organization id, book.find? organization id = flat.find? organization id

theorem mirrors_empty : Mirrors .empty .empty where
  filed := filed_empty
  same organization id := by simp [find?, contactsOf_empty, FlatBook.find?, FlatBook.empty]

theorem Mirrors.insert (mirrors : book.Mirrors flat) (contact : Contact) :
    (book.insert contact).Mirrors (flat.insert contact) where
  filed := mirrors.filed.insert contact
  same organization id := by rw [find?_insert, FlatBook.find?_insert, mirrors.same]

theorem Mirrors.extend (mirrors : book.Mirrors flat) (contacts : List Contact) :
    (book.extend contacts).Mirrors (flat.extend contacts) := by
  induction contacts generalizing book flat with
  | nil => exact mirrors
  | cons contact contacts ih => exact ih (mirrors.insert contact)

theorem Mirrors.remove (mirrors : book.Mirrors flat) (owner : OrganizationId) (removed : ContactId) :
    (book.remove owner removed).2.Mirrors (flat.remove owner removed).2 where
  filed := mirrors.filed.erase owner removed
  same organization id := by
    have erased := find?_erase book owner removed organization id
    rw [FlatBook.find?_remove, ← mirrors.same]
    exact erased

/-- A write is answered alike, and book and map still mirror each other. -/
theorem Mirrors.write (mirrors : book.Mirrors flat) (write : ContactWrite) :
    (keeping.write book write).1 = (FlatBook.keeping.write flat write).1 ∧
      (keeping.write book write).2.Mirrors (FlatBook.keeping.write flat write).2 := by
  cases write with
  | insert contact => exact ⟨rfl, mirrors.insert contact⟩
  | extend contacts => exact ⟨rfl, mirrors.extend contacts⟩
  | remove organization id =>
      exact ⟨mirrors.same organization id, mirrors.remove organization id⟩

theorem Mirrors.run (mirrors : book.Mirrors flat) (writes : List ContactWrite) :
    (keeping.run book writes).1 = (FlatBook.keeping.run flat writes).1 ∧
      (keeping.run book writes).2.Mirrors (FlatBook.keeping.run flat writes).2 := by
  induction writes generalizing book flat with
  | nil => exact ⟨rfl, mirrors⟩
  | cons write writes ih =>
      obtain ⟨answer, next⟩ := mirrors.write write
      obtain ⟨answers, last⟩ := ih next
      exact ⟨congrArg₂ List.cons answer answers, last⟩

/-- The contacts of all organizations with their places. -/
def entries (book : ContactBook) : List ((OrganizationId × ContactId) × Contact) :=
  book.partitions.toList.flatMap fun (organization, held) =>
    held.toList.map fun (id, contact) => ((organization, id), contact)

theorem mem_entries_iff {organization : OrganizationId} {id : ContactId} {contact : Contact} :
    ((organization, id), contact) ∈ book.entries ↔ book.find? organization id = some contact := by
  simp only [entries, List.mem_flatMap, List.mem_map, Prod.exists, Prod.mk.injEq, find?, contactsOf,
    Std.ExtTreeMap.getD_eq_getD_getElem?, Std.ExtTreeMap.mem_toList_iff_getElem?_eq_some]
  constructor
  · rintro ⟨owner, held, part, key, value, found, ⟨rfl, rfl⟩, rfl⟩
    rw [part]
    exact found
  · intro found
    cases part : book.partitions[organization]? with
    | none => simp [part] at found
    | some held =>
        rw [part] at found
        exact ⟨organization, held, part, id, contact, found, ⟨rfl, rfl⟩, rfl⟩

theorem nodup_entries (book : ContactBook) : book.entries.Nodup := by
  refine List.pairwise_flatMap.mpr ⟨?within, ?between⟩
  case within =>
    rintro ⟨organization, held⟩ -
    refine (nodup_toList held).map ?_
    rintro ⟨id, contact⟩ ⟨id', contact'⟩ same
    simpa using same
  case between =>
    refine Std.ExtTreeMap.distinct_keys_toList.imp ?_
    rintro ⟨organization, held⟩ ⟨organization', held'⟩ different entry within entry' within' same
    obtain ⟨_, -, rfl⟩ := List.mem_map.mp within
    obtain ⟨_, -, rfl⟩ := List.mem_map.mp within'
    simp only [Prod.mk.injEq] at same
    exact different (Std.compare_eq_iff_eq.mpr same.1.1)

theorem length_entries (book : ContactBook) : book.entries.length = book.size := by
  rw [entries, List.length_flatMap, size, Std.ExtTreeMap.foldl_eq_foldl_toList, List.sum_eq_foldl,
    List.foldl_map]
  simp only [List.length_map, Std.ExtTreeMap.length_toList]

/-- The entries of the book are those of the map in some order. -/
theorem Mirrors.entries_perm (mirrors : book.Mirrors flat) :
    book.entries.Perm flat.contacts.toList := by
  rw [List.perm_ext_iff_of_nodup book.nodup_entries (nodup_toList flat.contacts)]
  rintro ⟨⟨organization, id⟩, contact⟩
  rw [mem_entries_iff, mirrors.same, Std.ExtTreeMap.mem_toList_iff_getElem?_eq_some]
  rfl

theorem Mirrors.size_eq (mirrors : book.Mirrors flat) : book.size = flat.size := by
  rw [← length_entries, mirrors.entries_perm.length_eq, Std.ExtTreeMap.length_toList]
  rfl

/-- The matches are those of the predicate's own part. -/
theorem Mirrors.mem_matching_iff (mirrors : book.Mirrors flat) {predicate : Predicate} {id : ContactId} :
    id ∈ ((flat.contacts.toList.map (·.2)).filter predicate.holds).map (·.id) ↔
      ∃ contact, book.find? predicate.organization id = some contact ∧
        predicate.holds contact = true := by
  simp only [List.mem_map, List.mem_filter, ← mirrors.entries_perm.mem_iff, Prod.exists,
    mem_entries_iff]
  constructor
  · rintro ⟨_, ⟨⟨organization, key, contact, found, rfl⟩, matched⟩, rfl⟩
    obtain ⟨rfl, rfl⟩ := mirrors.filed _ _ _ found
    rw [← (Predicate.holds_iff.mp matched).1]
    exact ⟨contact, found, matched⟩
  · rintro ⟨contact, found, matched⟩
    exact ⟨contact, ⟨⟨_, id, contact, found, rfl⟩, matched⟩, (mirrors.filed _ _ _ found).1⟩

/-- All matches are of one organization, where an id names one contact. -/
theorem Mirrors.nodup_matching (mirrors : book.Mirrors flat) (predicate : Predicate) :
    (((flat.contacts.toList.map (·.2)).filter predicate.holds).map (·.id)).Nodup := by
  rw [List.filter_map, List.map_map]
  refine ((nodup_toList flat.contacts).filter _).map_on ?_
  rintro ⟨⟨organization, id⟩, contact⟩ first ⟨⟨organization', id'⟩, contact'⟩ second same
  rw [List.mem_filter, ← mirrors.entries_perm.mem_iff, mem_entries_iff] at first second
  obtain ⟨rfl, rfl⟩ := mirrors.filed _ _ _ first.1
  obtain ⟨rfl, rfl⟩ := mirrors.filed _ _ _ second.1
  have owner : contact.organization = contact'.organization :=
    (Predicate.holds_iff.mp first.2).1.trans (Predicate.holds_iff.mp second.2).1.symm
  have sameId : contact.id = contact'.id := same
  have found := first.1
  rw [owner, sameId, second.1] at found
  cases found
  rfl

/-- Sorting all matches gives the ids in the order in which they stand in the predicate's own part. -/
theorem Mirrors.members_eq (mirrors : book.Mirrors flat) (predicate : Predicate) :
    flat.members predicate = book.members predicate := by
  refine Uuid.mergeSort_eq_of_ascending (mirrors.nodup_matching predicate)
    (mirrors.filed.members_ascending predicate) fun id => ?_
  rw [mirrors.mem_matching_iff, mirrors.filed.mem_members_iff]

theorem Mirrors.query_eq (mirrors : book.Mirrors flat) (predicate : Predicate) (window : Window) :
    book.query predicate window = flat.query predicate window := by
  have counted : (book.matching predicate).length = (book.members predicate).length := by
    rw [members, List.length_map]
  cases window with
  | countOnly => rw [query, FlatBook.query, mirrors.members_eq, counted]
  | page page =>
      rw [FlatBook.query, mirrors.members_eq]
      exact page.foldl_visit (book.members predicate)

theorem Mirrors.isEmpty_eq (mirrors : book.Mirrors flat) : book.isEmpty = flat.isEmpty := by
  rw [isEmpty, mirrors.size_eq, FlatBook.isEmpty, Std.ExtTreeMap.isEmpty_eq_size_beq_zero]
  rfl

/-- Two books that one map mirrors answer alike, now and whatever is written to both. -/
theorem Mirrors.alike {other : ContactBook} (mirrors : book.Mirrors flat) (also : other.Mirrors flat)
    (writes : List ContactWrite) :
    (keeping.run other writes).1 = (keeping.run book writes).1 ∧
      (keeping.run other writes).2.size = (keeping.run book writes).2.size ∧
      ∀ predicate window, (keeping.run other writes).2.query predicate window =
        (keeping.run book writes).2.query predicate window := by
  obtain ⟨answers, last⟩ := mirrors.run writes
  obtain ⟨answers', last'⟩ := also.run writes
  refine ⟨answers'.trans answers.symm, last'.size_eq.trans last.size_eq.symm, ?_⟩
  intro predicate window
  rw [last.query_eq, last'.query_eq]

/-- Contacts that are inserted together are inserted one by one. -/
theorem run_inserts (book : ContactBook) (contacts : List Contact) :
    (keeping.run book (contacts.map .insert)).2 = book.extend contacts := by
  induction contacts generalizing book with
  | nil => rfl
  | cons contact contacts ih => exact ih (book.insert contact)

/-- Whatever is written to a new book, it answers as the map of all contacts does: what the removals give
    back, how many contacts there are, what is found where, and each query. Writes that make the same map
    make books that answer alike ever after. -/
theorem run_as_map (writes : List ContactWrite) :
    let book := (keeping.run .empty writes).2
    let flat := (FlatBook.keeping.run .empty writes).2
    (keeping.run .empty writes).1 = (FlatBook.keeping.run .empty writes).1 ∧
      book.size = flat.size ∧ book.isEmpty = flat.isEmpty ∧
      (∀ organization id, book.find? organization id = flat.find? organization id) ∧
      (∀ contacts, book.extend contacts = (keeping.run book (contacts.map .insert)).2) ∧
      (∀ predicate window, book.query predicate window = flat.query predicate window) ∧
      ∀ others, (FlatBook.keeping.run .empty others).2 = flat →
        let other := (keeping.run .empty others).2
        ∀ more, (keeping.run other more).1 = (keeping.run book more).1 ∧
          (keeping.run other more).2.size = (keeping.run book more).2.size ∧
          ∀ predicate window, (keeping.run other more).2.query predicate window =
            (keeping.run book more).2.query predicate window := by
  obtain ⟨answers, mirrors⟩ := mirrors_empty.run writes
  refine ⟨answers, mirrors.size_eq, mirrors.isEmpty_eq, mirrors.same,
    fun contacts => (run_inserts _ contacts).symm, mirrors.query_eq, ?_⟩
  intro others sameMap other
  obtain ⟨-, also⟩ := mirrors_empty.run others
  rw [sameMap] at also
  exact mirrors.alike also

end ContactBook

namespace EmptiedPart

theorem arrival_valid : Calendar.ValidDate 2024 5 17 := by decide

def contact : Contact := .blank .nil ⟨.nil⟩ (.midnight ⟨2024, 5, 17, arrival_valid⟩)

/-- A contact comes and goes. -/
def writes : List ContactWrite := [.insert contact, .remove contact.organization contact.id]

/-- The part of the organization stays behind, and no answer tells that it is there. -/
theorem emptied_without_trace :
    (FlatBook.keeping.run .empty writes).2 = .empty ∧
      (ContactBook.keeping.run .empty writes).2.partitions.size = 1 ∧
      (∀ predicate window, (ContactBook.keeping.run .empty writes).2.query predicate window =
        ContactBook.empty.query predicate window) ∧
      (ContactBook.keeping.run .empty writes).2.size = 0 := by
  have same : (FlatBook.keeping.run .empty writes).2 = .empty := by
    refine congrArg FlatBook.mk (Std.ExtTreeMap.ext_getElem? ?_)
    rintro ⟨organization, id⟩
    refine (FlatBook.find?_remove (FlatBook.empty.insert contact) _ _ organization id).trans ?_
    rw [FlatBook.find?_insert]
    split <;> rfl
  have left : (ContactBook.keeping.run .empty writes).2.partitions.size = 1 := by
    decide +kernel
  obtain ⟨-, -, -, -, -, -, alike⟩ := ContactBook.run_as_map []
  obtain ⟨-, size, queries⟩ := alike writes same []
  exact ⟨same, left, queries, size⟩

end EmptiedPart

end ContactSegments
