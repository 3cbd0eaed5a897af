import ContactSegments.Membership
import ContactSegments.Predicate.Basic

/-! # The book of contacts

Contacts are kept apart by organization. Within one organization an id names one contact, the last
one written under it, and ids ascend. A query looks at the contacts of its own organization only.
-/

namespace ContactSegments

structure ContactBook where
  partitions : Std.ExtTreeMap OrganizationId (Std.ExtTreeMap ContactId Contact)

namespace ContactBook

def empty : ContactBook := ⟨∅⟩

/-- The contacts of an organization. -/
def contactsOf (book : ContactBook) (organization : OrganizationId) :
    Std.ExtTreeMap ContactId Contact :=
  book.partitions.getD organization ∅

def insert (book : ContactBook) (contact : Contact) : ContactBook :=
  let held := book.contactsOf contact.organization
  ⟨book.partitions.insert contact.organization (held.insert contact.id contact)⟩

/-- Inserts contacts in their order. -/
def extend (book : ContactBook) (contacts : List Contact) : ContactBook :=
  contacts.foldl insert book

def find? (book : ContactBook) (organization : OrganizationId) (id : ContactId) : Option Contact :=
  (book.contactsOf organization)[id]?

def erase (book : ContactBook) (organization : OrganizationId) (id : ContactId) : ContactBook :=
  ⟨book.partitions.modify organization (·.erase id)⟩

/-- Erases a contact and tells which one it was. -/
def remove (book : ContactBook) (organization : OrganizationId) (id : ContactId) :
    Option Contact × ContactBook :=
  (book.find? organization id, book.erase organization id)

def size (book : ContactBook) : Nat :=
  book.partitions.foldl (fun total _ held => total + held.size) 0

def isEmpty (book : ContactBook) : Bool := book.size == 0

/-- The contacts that a predicate matches, in the order of their ids. -/
def matching (book : ContactBook) (predicate : Predicate) : List Contact :=
  ((book.contactsOf predicate.organization).toList.map (·.2)).filter predicate.holds

def query (book : ContactBook) (predicate : Predicate) (window : Window) : QueryResult :=
  let contacts := book.matching predicate
  match window with
  | .countOnly => ⟨contacts.length, []⟩
  | .page page => (contacts.map (·.id)).foldl page.visit ⟨0, []⟩

end ContactBook

end ContactSegments
