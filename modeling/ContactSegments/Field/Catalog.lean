import ContactSegments.Field.Basic

/-! # The catalog of fields

A catalog says which fields exist. Each name has one binding, the last one given to it, and the
fields stand in ascending order of their names.
-/

namespace ContactSegments

structure Catalog where
  bindings : Std.ExtTreeMap String FieldBinding

namespace Catalog

def empty : Catalog := ⟨∅⟩

def insert (catalog : Catalog) (name : String) (binding : FieldBinding) : Catalog :=
  ⟨catalog.bindings.insert name binding⟩

def erase (catalog : Catalog) (name : String) : Catalog := ⟨catalog.bindings.erase name⟩

/-- The field with exactly this name. -/
def find? (catalog : Catalog) (name : String) : Option Field :=
  catalog.bindings[name]?.map ({ toFieldBinding := ·, name })

/-- Says that a name has no binding. -/
def missingMessage (name : String) : String := s!"field '{name}' is not registered"

def size (catalog : Catalog) : Nat := catalog.bindings.size

def isEmpty (catalog : Catalog) : Bool := catalog.bindings.isEmpty

/-- All fields, ascending by name. -/
def fields (catalog : Catalog) : List Field :=
  catalog.bindings.toList.map fun (name, binding) => { toFieldBinding := binding, name }

def describe (catalog : Catalog) : List FieldDescription := catalog.fields.map Field.describe

/-- The fields that contacts have from the start. -/
def standard : Catalog :=
  [("email", ⟨.text, .email, "email"⟩),
   ("firstName", ⟨.text, .firstName, "first_name"⟩),
   ("lastName", ⟨.text, .lastName, "last_name"⟩),
   ("companyName", ⟨.text, .companyName, "company_name"⟩),
   ("jobTitle", ⟨.text, .jobTitle, "job_title"⟩),
   ("source", ⟨.text, .source, "source"⟩),
   ("createdAt", ⟨.date, .createdAt, "created_at"⟩)].foldl
    (fun catalog (name, binding) => catalog.insert name binding) empty

end Catalog

end ContactSegments
