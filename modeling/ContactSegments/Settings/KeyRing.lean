import ContactSegments.Uuid

/-! # Keys of organizations

A caller is known by a key, and the key alone says for which organization the caller acts.
-/

namespace ContactSegments

structure KeyRing where
  owners : Std.ExtTreeMap String OrganizationId

namespace KeyRing

def empty : KeyRing := ⟨∅⟩

/-- Gives a key to an organization; the key no longer stands for any other. -/
def insert (ring : KeyRing) (key : String) (organization : OrganizationId) : KeyRing :=
  ⟨ring.owners.insert key organization⟩

def ofList (entries : List (String × OrganizationId)) : KeyRing :=
  entries.foldl (fun ring entry => ring.insert entry.1 entry.2) empty

/-- The organization that exactly this key stands for. -/
def resolve? (ring : KeyRing) (key : String) : Option OrganizationId := ring.owners[key]?

end KeyRing

end ContactSegments
