import ContactSegments.Calendar.Instant
import ContactSegments.Json.Value
import ContactSegments.Uuid

/-! # Contacts

A contact belongs to exactly one organization. Filters address its attributes: six texts, each of
which may be missing, and the time of its creation. Custom fields are kept and never filtered.
-/

namespace ContactSegments

/-- The attributes of a contact that filters can address. -/
inductive Attribute
  | email
  | firstName
  | lastName
  | companyName
  | jobTitle
  | source
  | createdAt
deriving DecidableEq, Repr

namespace Attribute

def all : List Attribute :=
  [.email, .firstName, .lastName, .companyName, .jobTitle, .source, .createdAt]

def name : Attribute → String
  | .email => "email"
  | .firstName => "first_name"
  | .lastName => "last_name"
  | .companyName => "company_name"
  | .jobTitle => "job_title"
  | .source => "source"
  | .createdAt => "created_at"

end Attribute

/-- Free-form values by name. Names ascend, in the values inside too. -/
structure CustomFields where
  members : List (String × Json)
  keyed : (Json.object members).Keyed

namespace CustomFields

def empty : CustomFields := ⟨[], List.Pairwise.nil, trivial⟩

/-- The values under their names; of several values with one name the last stays. -/
def ofMembers (members : List (String × Json)) : CustomFields :=
  ⟨Json.keyedMembers [] members, Json.keyed_keyed (.object members)⟩

end CustomFields

structure Contact where
  id : ContactId
  organization : OrganizationId
  email : Option String
  firstName : Option String
  lastName : Option String
  companyName : Option String
  jobTitle : Option String
  source : Option String
  createdAt : Instant
  customFields : CustomFields

namespace Contact

/-- A contact of which only the owner and the time of creation are known. -/
def blank (id : ContactId) (organization : OrganizationId) (createdAt : Instant) : Contact where
  id := id
  organization := organization
  email := none
  firstName := none
  lastName := none
  companyName := none
  jobTitle := none
  source := none
  createdAt := createdAt
  customFields := .empty

/-- The value of a text attribute, if it has one. -/
def text (contact : Contact) : Attribute → Option String
  | .email => contact.email
  | .firstName => contact.firstName
  | .lastName => contact.lastName
  | .companyName => contact.companyName
  | .jobTitle => contact.jobTitle
  | .source => contact.source
  | .createdAt => none

/-- The value of a time attribute. -/
def timestamp (contact : Contact) : Attribute → Option Instant
  | .createdAt => some contact.createdAt
  | _ => none

end Contact

end ContactSegments
