import ContactSegments.Calendar.Form
import ContactSegments.Calendar.Written
import ContactSegments.Contact
import ContactSegments.Json.Reader

/-! # Contacts as JSON

Every attribute of a contact is written, a missing one as null. When a contact is read, only its ids
and the time of its creation have to be there.
-/

namespace ContactSegments

namespace Uuid

def toJson (id : Uuid) : Json := .string id.text

def reader : Reader Uuid := .parsed ofText?

end Uuid

namespace OrganizationId

def toJson (organization : OrganizationId) : Json := organization.uuid.toJson

def reader : Reader OrganizationId := fun d => (Uuid.reader d).map mk

end OrganizationId

namespace Instant

def toJson (t : Instant) : Json := .string t.text

def reader : Reader Instant := .parsed ofText?

end Instant

namespace CustomFields

def toJson (fields : CustomFields) : Json := .object fields.members

/-- A contact is an object and so are its custom fields; the nesting of a text goes to 127. -/
def reader : Reader CustomFields := fun d => (Reader.members (.any 125) d).map ofMembers

end CustomFields

namespace Contact

/-- The contact with its custom fields as they are given. -/
def jsonWith (contact : Contact) (fields : Json) : Json :=
  .object
    [("id", contact.id.toJson),
     ("organizationId", contact.organization.toJson),
     ("email", .orNull (contact.email.map .string)),
     ("firstName", .orNull (contact.firstName.map .string)),
     ("lastName", .orNull (contact.lastName.map .string)),
     ("companyName", .orNull (contact.companyName.map .string)),
     ("jobTitle", .orNull (contact.jobTitle.map .string)),
     ("source", .orNull (contact.source.map .string)),
     ("createdAt", contact.createdAt.toJson),
     ("customFields", fields)]

def toJson (contact : Contact) : Json := contact.jsonWith contact.customFields.toJson

open RecordReader in
def record : RecordReader Contact :=
  Contact.mk <$> required "id" Uuid.reader <*> required "organizationId" OrganizationId.reader
    <*> optional "email" (.nullable .text) none
    <*> optional "firstName" (.nullable .text) none
    <*> optional "lastName" (.nullable .text) none
    <*> optional "companyName" (.nullable .text) none
    <*> optional "jobTitle" (.nullable .text) none
    <*> optional "source" (.nullable .text) none
    <*> required "createdAt" Instant.reader
    <*> optional "customFields" CustomFields.reader .empty

def reader : Reader Contact := record.read

end Contact

end ContactSegments
