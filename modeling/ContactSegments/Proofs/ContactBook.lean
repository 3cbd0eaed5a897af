import ContactSegments.ContactBook

/-! # The contacts of each organization

A write to the book changes the contacts of one organization only, and a query reads those of one
organization only. Whatever is written and erased, a contact stands under its own id among those of its
own organization.
-/

namespace ContactSegments.ContactBook

variable {book other : ContactBook} {organization : OrganizationId}

theorem contactsOf_empty (organization : OrganizationId) :
    empty.contactsOf organization = ∅ := by
  simp [empty, contactsOf, Std.ExtTreeMap.getD_eq_getD_getElem?]

theorem contactsOf_insert (book : ContactBook) (contact : Contact) (organization : OrganizationId) :
    (book.insert contact).contactsOf organization =
      if contact.organization = organization then
        (book.contactsOf organization).insert contact.id contact
      else book.contactsOf organization := by
  simp only [contactsOf, insert, Std.ExtTreeMap.getD_insert, Std.compare_eq_iff_eq]
  split
  · rename_i same
    rw [same]
  · rfl

theorem contactsOf_erase (book : ContactBook) (owner : OrganizationId) (id : ContactId)
    (organization : OrganizationId) :
    (book.erase owner id).contactsOf organization =
      if owner = organization then (book.contactsOf organization).erase id
      else book.contactsOf organization := by
  simp only [contactsOf, erase, Std.ExtTreeMap.getD_eq_getD_getElem?,
    Std.ExtTreeMap.getElem?_modify, Std.compare_eq_iff_eq]
  split
  · rename_i same
    subst same
    -- without a partition there is nothing to modify and nothing to erase
    cases book.partitions[owner]? with
    | none => simp
    | some held => rfl
  · rfl

theorem query_congr {predicate : Predicate}
    (same : book.contactsOf predicate.organization = other.contactsOf predicate.organization)
    (window : Window) : book.query predicate window = other.query predicate window := by
  simp only [query, matching, same]

theorem find?_insert (book : ContactBook) (contact : Contact) (organization : OrganizationId)
    (id : ContactId) :
    (book.insert contact).find? organization id =
      if contact.organization = organization ∧ contact.id = id then some contact
      else book.find? organization id := by
  simp only [find?, contactsOf_insert]
  by_cases own : contact.organization = organization
  · simp only [own, if_true, Std.ExtTreeMap.getElem?_insert, Std.compare_eq_iff_eq, true_and]
  · simp only [own, if_false, false_and]

theorem find?_erase (book : ContactBook) (owner : OrganizationId) (erased : ContactId)
    (organization : OrganizationId) (id : ContactId) :
    (book.erase owner erased).find? organization id =
      if owner = organization ∧ erased = id then none else book.find? organization id := by
  simp only [find?, contactsOf_erase]
  by_cases own : owner = organization
  · simp only [own, if_true, Std.ExtTreeMap.getElem?_erase, Std.compare_eq_iff_eq, true_and]
  · simp only [own, if_false, false_and]

/-- The books that come about by writing and erasing contacts. -/
inductive Reachable : ContactBook → Prop
  | empty : Reachable .empty
  | insert {book : ContactBook} (reachable : Reachable book) (contact : Contact) :
      Reachable (book.insert contact)
  | extend {book : ContactBook} (reachable : Reachable book) (contacts : List Contact) :
      Reachable (book.extend contacts)
  | remove {book : ContactBook} (reachable : Reachable book) (organization : OrganizationId)
      (id : ContactId) : Reachable (book.remove organization id).2

/-- Every contact stands under its own id among the contacts of its own organization. -/
def Filed (book : ContactBook) : Prop :=
  ∀ organization id contact, book.find? organization id = some contact →
    contact.id = id ∧ contact.organization = organization

theorem filed_empty : Filed .empty := by
  intro organization id contact found
  simp [find?, contactsOf_empty] at found

theorem Filed.insert (filed : book.Filed) (contact : Contact) : (book.insert contact).Filed := by
  intro organization id held found
  rw [find?_insert] at found
  split at found
  · rename_i own
    cases found
    exact ⟨own.2, own.1⟩
  · exact filed organization id held found

theorem Filed.extend (filed : book.Filed) (contacts : List Contact) :
    (book.extend contacts).Filed := by
  induction contacts generalizing book with
  | nil => exact filed
  | cons contact contacts ih => exact ih (filed.insert contact)

theorem Filed.erase (filed : book.Filed) (owner : OrganizationId) (erased : ContactId) :
    (book.erase owner erased).Filed := by
  intro organization id contact found
  rw [find?_erase] at found
  split at found
  · cases found
  · exact filed organization id contact found

theorem Reachable.filed (reachable : book.Reachable) : book.Filed := by
  induction reachable with
  | empty => exact filed_empty
  | insert _ contact ih => exact ih.insert contact
  | extend _ contacts ih => exact ih.extend contacts
  | remove _ organization id ih => exact ih.erase organization id

/-- The ids of the contacts that a predicate matches. -/
def members (book : ContactBook) (predicate : Predicate) : List ContactId :=
  (book.matching predicate).map (·.id)

/-- In a book that is in order the ids are those under which the contacts stand. -/
theorem Filed.members_eq (filed : book.Filed) (predicate : Predicate) :
    book.members predicate =
      ((book.contactsOf predicate.organization).toList.filter fun entry =>
        predicate.holds entry.2).map (·.1) := by
  unfold members matching
  rw [List.filter_map, List.map_map]
  apply List.map_congr_left
  intro entry within
  have stands := Std.ExtTreeMap.mem_toList_iff_getElem?_eq_some.mp (List.mem_filter.mp within).1
  exact (filed _ _ _ stands).1

theorem Filed.members_ascending (filed : book.Filed) (predicate : Predicate) :
    (book.members predicate).Pairwise fun a b => compare a b = .lt := by
  rw [filed.members_eq, List.pairwise_map]
  apply List.Pairwise.filter
  have ascending := Std.ExtTreeMap.ordered_keys_toList (t := book.contactsOf predicate.organization)
  exact ascending

theorem Filed.mem_members_iff (filed : book.Filed) {predicate : Predicate} {id : ContactId} :
    id ∈ book.members predicate ↔
      ∃ contact, book.find? predicate.organization id = some contact ∧
        predicate.holds contact = true := by
  rw [filed.members_eq, List.mem_map]
  constructor
  · rintro ⟨entry, within, rfl⟩
    obtain ⟨within, matched⟩ := List.mem_filter.mp within
    exact ⟨entry.2, Std.ExtTreeMap.mem_toList_iff_getElem?_eq_some.mp within, matched⟩
  · rintro ⟨contact, found, matched⟩
    have within := Std.ExtTreeMap.mem_toList_iff_getElem?_eq_some.mpr found
    exact ⟨(id, contact), List.mem_filter.mpr ⟨within, matched⟩, rfl⟩

theorem length_members_le (book : ContactBook) (predicate : Predicate) :
    (book.members predicate).length ≤ (book.contactsOf predicate.organization).size := by
  unfold members matching
  let contacts := (book.contactsOf predicate.organization).toList.map (·.2)
  have counted : contacts.length = (book.contactsOf predicate.organization).size := by
    rw [List.length_map, Std.ExtTreeMap.length_toList]
  rw [List.length_map, ← counted]
  exact List.length_filter_le _ contacts

end ContactSegments.ContactBook
