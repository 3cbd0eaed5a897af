import ContactSegments.Field.Catalog
import Mathlib.Data.List.Induction

/-! # Catalogs put together step by step

Fields are registered under their names, again under the same name, and removed. What the catalog has of
a name in the end is what the last step about it said. The descriptions of its fields are in ascending
order of the names, so no name has two of them.
-/

namespace ContactSegments

/-- A step in putting a catalog together. -/
inductive CatalogStep
  | insert (name : String) (binding : FieldBinding)
  | erase (name : String)
deriving DecidableEq, Repr

namespace CatalogStep

/-- The name that the step is about. -/
def name : CatalogStep → String
  | .insert name _ | .erase name => name

/-- What the name is bound to by the step. -/
def binding? : CatalogStep → Option FieldBinding
  | .insert _ binding => some binding
  | .erase _ => none

/-- What the last of the steps about the name binds it to. -/
def lastBinding? (steps : List CatalogStep) (name : String) : Option FieldBinding :=
  (steps.reverse.find? (·.name == name)).bind binding?

theorem lastBinding?_concat (steps : List CatalogStep) (last : CatalogStep) (name : String) :
    lastBinding? (steps ++ [last]) name =
      if last.name = name then last.binding? else lastBinding? steps name := by
  rw [lastBinding?, List.reverse_concat, List.find?_cons]
  by_cases same : last.name = name
  · rw [beq_iff_eq.mpr same, if_pos same]
    rfl
  · rw [beq_false_of_ne same, if_neg same]
    rfl

end CatalogStep

namespace Catalog

variable {catalog : Catalog}

/-- The field that a name stands for when it has this binding. -/
def bound (name : String) (binding : FieldBinding) : Field := { toFieldBinding := binding, name }

theorem find?_empty (name : String) : empty.find? name = none := by
  rw [find?, empty, Std.ExtTreeMap.getElem?_empty, Option.map_none]

theorem find?_insert (catalog : Catalog) (name : String) (binding : FieldBinding) (other : String) :
    (catalog.insert name binding).find? other =
      if name = other then some (bound other binding) else catalog.find? other := by
  rw [find?, insert, Std.ExtTreeMap.getElem?_insert]
  simp only [Std.LawfulEqCmp.compare_eq_iff_eq]
  split
  · rfl
  · rfl

theorem find?_erase (catalog : Catalog) (name other : String) :
    (catalog.erase name).find? other = if name = other then none else catalog.find? other := by
  rw [find?, erase, Std.ExtTreeMap.getElem?_erase]
  simp only [Std.LawfulEqCmp.compare_eq_iff_eq]
  split
  · rfl
  · rfl

/-- The catalog after a step. -/
def apply (catalog : Catalog) : CatalogStep → Catalog
  | .insert name binding => catalog.insert name binding
  | .erase name => catalog.erase name

/-- The catalog that is put together by the steps, from nothing. -/
def ofSteps (steps : List CatalogStep) : Catalog := steps.foldl apply empty

/-- A step settles its own name and leaves all others. -/
theorem find?_apply (catalog : Catalog) (step : CatalogStep) (name : String) :
    (catalog.apply step).find? name =
      if step.name = name then step.binding?.map (bound name) else catalog.find? name := by
  cases step with
  | insert other binding => exact catalog.find?_insert other binding name
  | erase other => exact catalog.find?_erase other name

theorem find?_ofSteps (steps : List CatalogStep) (name : String) :
    (ofSteps steps).find? name = (CatalogStep.lastBinding? steps name).map (bound name) := by
  induction steps using List.reverseRecOn with
  | nil => exact find?_empty name
  | append_singleton steps last ih =>
      have run : ofSteps (steps ++ [last]) = (ofSteps steps).apply last := by
        rw [ofSteps, List.foldl_append, List.foldl_cons, List.foldl_nil, ofSteps]
      rw [run, find?_apply, ih, CatalogStep.lastBinding?_concat]
      split
      · rfl
      · rfl

theorem mem_fields_iff {field : Field} :
    field ∈ catalog.fields ↔ catalog.find? field.name = some field := by
  simp only [fields, List.mem_map, Prod.exists, Std.ExtTreeMap.mem_toList_iff_getElem?_eq_some, find?,
    Option.map_eq_some_iff]
  constructor
  · rintro ⟨name, binding, found, rfl⟩
    exact ⟨binding, found, rfl⟩
  · rintro ⟨binding, found, same⟩
    exact ⟨field.name, binding, found, same⟩

theorem mem_describe_iff {description : FieldDescription} :
    description ∈ catalog.describe ↔
      ∃ field, catalog.find? description.name = some field ∧ field.describe = description := by
  simp only [describe, List.mem_map, mem_fields_iff]
  constructor
  · rintro ⟨field, found, rfl⟩
    exact ⟨field, found, rfl⟩
  · rintro ⟨field, found, rfl⟩
    exact ⟨field, found, rfl⟩

theorem names_describe_ascend (catalog : Catalog) :
    (catalog.describe.map (·.name)).Pairwise (· < ·) := by
  have names : catalog.describe.map (·.name) = catalog.bindings.toList.map (·.1) := by
    simp only [describe, fields, List.map_map]
    rfl
  rw [names, List.pairwise_map]
  have ordered := Std.ExtTreeMap.ordered_keys_toList (t := catalog.bindings)
  exact ordered.imp fun before => compareOfLessAndEq_eq_lt.mp before

/-- The types of the registered names are those of their last registrations. -/
theorem exists_mem_describe_iff {steps : List CatalogStep} {name : String} {type : FieldType} :
    (∃ description ∈ (ofSteps steps).describe, description.name = name ∧ description.type = type) ↔
      ∃ binding, CatalogStep.lastBinding? steps name = some binding ∧ binding.type = type := by
  simp only [mem_describe_iff, find?_ofSteps, Option.map_eq_some_iff]
  constructor
  · rintro ⟨description, ⟨_, ⟨binding, last, rfl⟩, same⟩, rfl, rfl⟩
    exact ⟨binding, last, congrArg FieldDescription.type same⟩
  · rintro ⟨binding, last, rfl⟩
    exact ⟨(bound name binding).describe, ⟨_, ⟨binding, last, rfl⟩, rfl⟩, rfl, rfl⟩

end Catalog

end ContactSegments
