import ContactSegments.Proofs.Calendar.OneReading
import ContactSegments.Proofs.Calendar.Reading
import ContactSegments.Proofs.Condition.Fault
import ContactSegments.Proofs.Field.Catalog
import ContactSegments.Wire.Field

/-! # Conditions that are offered

Those who write conditions are served the descriptions of the fields as JSON, with the operators of each
field by their names. A field and an operator are offered there just when some value makes a legal
condition of them, whatever was registered, registered anew and removed before. A text that shows and a
plain date are such values for every operator of their fields.
-/

namespace ContactSegments

/-- The served description is that of the field and has the operator among those it allows. -/
def Json.Offers (description : Json) (field operator : String) : Prop :=
  description.get? "name" = some (.string field) ∧
    ∃ items, description.get? "allowedOperators" = some (.array items) ∧ .string operator ∈ items

theorem FieldDescription.toJson_offers_iff {description : FieldDescription} {field operator : String} :
    description.toJson.Offers field operator ↔
      description.name = field ∧ ∃ known ∈ description.operators, known.name = operator := by
  have name : description.toJson.get? "name" = some (.string description.name) := rfl
  have operators : description.toJson.get? "allowedOperators" =
      some (.array (description.operators.map Operator.toJson)) := rfl
  simp only [Json.Offers, name, operators, Option.some.injEq, Json.string.injEq, Json.array.injEq,
    exists_eq_left', List.mem_map, Operator.toJson, Operator.wireName_eq_name]

namespace Catalog

/-- Some description that is served offers the operator for the field. -/
def Offers (catalog : Catalog) (field operator : String) : Prop :=
  ∃ description ∈ catalog.describe.map FieldDescription.toJson, description.Offers field operator

theorem offers_iff {catalog : Catalog} {name operator : String} :
    catalog.Offers name operator ↔
      ∃ field known, catalog.find? name = some field ∧ known.name = operator ∧
        known ∈ field.type.operators := by
  constructor
  · rintro ⟨served, within, offers⟩
    obtain ⟨description, described, rfl⟩ := List.mem_map.mp within
    obtain ⟨field, found, rfl⟩ := mem_describe_iff.mp described
    obtain ⟨rfl, known, own, named⟩ := FieldDescription.toJson_offers_iff.mp offers
    exact ⟨field, known, found, named, own⟩
  · rintro ⟨field, known, found, named, own⟩
    obtain rfl := name_of_find? found
    have described := mem_describe_iff.mpr ⟨field, found, rfl⟩
    exact ⟨_, List.mem_map_of_mem described,
      FieldDescription.toJson_offers_iff.mpr ⟨rfl, known, own, named⟩⟩

end Catalog

/-- The text is a value of the type for every operator on it: it has a character that shows, or it is a
    plain date. -/
def FieldType.Suits : FieldType → String → Prop
  | .text, value => ∃ c ∈ value.toList, Text.isBlank c = false
  | .date, value => ∃ reading, DateForm.day.read (Text.trimmed value.toList) = some reading

theorem FieldType.date_suits_text (day : Date) : FieldType.date.Suits day.text :=
  ⟨_, DateForm.day_read_text day⟩

theorem FieldType.exists_suits (type : FieldType) : ∃ value, type.Suits value := by
  cases type with
  | text => exact ⟨"a", 'a', List.mem_singleton_self _, rfl⟩
  | date => exact ⟨_, date_suits_text .first⟩

namespace Condition

variable {catalog : Catalog} {max : Nat} {c : Condition}

theorem exists_readValue_of_suits {type : FieldType} {raw : String} (suits : type.Suits raw)
    (operator : Operator) : ∃ value, readValue type operator raw = .ok value := by
  cases type with
  | text =>
      obtain ⟨ch, within, shows⟩ := suits
      refine ⟨.text raw, readValue_text_eq_ok_iff.mpr ⟨?_, rfl⟩⟩
      rw [Text.isBlankText, List.all_eq_false]
      exact ⟨ch, within, Bool.not_eq_true _ ▸ shows⟩
  | date =>
      obtain ⟨reading, plain⟩ := suits
      exact DateReading.exists_readValue_of_plain operator plain

/-- A legal condition is one that is offered. -/
theorem offers_of_check {filter : Filter} (legal : c.check catalog = .ok filter) :
    catalog.Offers c.field c.operator := by
  obtain ⟨field, operator, -, found, named, allowed, -⟩ := check_eq_ok_iff.mp legal
  exact Catalog.offers_iff.mpr ⟨field, operator, found, named, FieldType.allows_iff.mp allowed⟩

/-- What is offered is legal with every value that suits the field. -/
theorem exists_check_of_offers {field : Field} (offered : catalog.Offers c.field c.operator)
    (found : catalog.find? c.field = some field) (suits : field.type.Suits c.value) :
    ∃ filter, c.check catalog = .ok filter := by
  obtain ⟨field', operator, found', named, own⟩ := Catalog.offers_iff.mp offered
  obtain rfl := Option.some.inj (found.symm.trans found')
  obtain ⟨value, read⟩ := exists_readValue_of_suits suits operator
  have allowed := FieldType.allows_iff.mpr own
  exact ⟨_, check_eq_ok_iff.mpr ⟨field, operator, value, found, named, allowed, read, rfl⟩⟩

end Condition

namespace Catalog

open Condition CatalogStep

/-- Whatever was done to a catalog, its description is what conditions are checked against. The names
    that are registered in the end stand in it once, in ascending order, each with the type that it was
    registered with last. What is offered is what can be legal, and it is legal with every value that
    suits the type of the field. -/
theorem offers_exactly_the_legal (steps : List CatalogStep) {max : Nat} (room : 1 ≤ max) :
    ((ofSteps steps).describe.map (·.name)).Pairwise (· < ·) ∧
    (∀ name type,
      (∃ description ∈ (ofSteps steps).describe, description.name = name ∧ description.type = type) ↔
        ∃ binding, lastBinding? steps name = some binding ∧ binding.type = type) ∧
    (∀ id connective name operator,
      (∃ value group, checkAll (ofSteps steps) max [⟨id, name, operator, value, connective⟩] =
          .ok group) ↔ (ofSteps steps).Offers name operator) ∧
    (∀ id connective name operator value, (ofSteps steps).Offers name operator →
      ∀ description ∈ (ofSteps steps).describe, description.name = name →
        description.type.Suits value →
          ∃ group, checkAll (ofSteps steps) max [⟨id, name, operator, value, connective⟩] =
            .ok group) ∧
    ∀ day : Date, FieldType.date.Suits day.text := by
  refine ⟨names_describe_ascend _, fun name type => exists_mem_describe_iff, ?legal, ?suited,
    FieldType.date_suits_text⟩
  case legal =>
    intro id connective name operator
    simp only [exists_checkAll_singleton_iff room]
    constructor
    · rintro ⟨value, filter, legal⟩
      exact offers_of_check legal
    · intro offered
      obtain ⟨field, -, found, -⟩ := offers_iff.mp offered
      obtain ⟨value, suits⟩ := field.type.exists_suits
      exact ⟨value, exists_check_of_offers offered found suits⟩
  case suited =>
    intro id connective name operator value offered description described named suits
    obtain ⟨field, found, rfl⟩ := mem_describe_iff.mp described
    rw [exists_checkAll_singleton_iff room]
    exact exists_check_of_offers offered (named ▸ found) suits

end Catalog

namespace Reshaped

open CatalogStep Condition

/-- A field that held texts holds dates later on, and one is gone. -/
def steps : List CatalogStep :=
  [.insert "since" ⟨.text, .source, "source"⟩,
   .insert "company" ⟨.text, .companyName, "company_name"⟩,
   .insert "since" ⟨.date, .createdAt, "created_at"⟩,
   .insert "Mail" ⟨.text, .email, "email"⟩,
   .erase "company"]

/-- What was offered before is not offered any more, and no value makes it legal. -/
theorem offers_since_as_date :
    (∃ description ∈ (Catalog.ofSteps steps).describe,
      description.name = "since" ∧ description.type = .date) ∧
    (∃ value group, checkAll (.ofSteps steps) 1 [⟨"c1", "since", "on", value, some .or⟩] =
      .ok group) ∧
    (¬ ∃ value group, checkAll (.ofSteps steps) 1 [⟨"c1", "since", "contains", value, none⟩] =
      .ok group) ∧
    (¬ ∃ value group, checkAll (.ofSteps steps) 1 [⟨"c1", "company", "equals", value, none⟩] =
      .ok group) ∧
    ∃ group, checkAll (.ofSteps steps) 1 [⟨"c1", "Mail", "endsWith", " .org\n", none⟩] =
      .ok group := by
  obtain ⟨-, described, legal, suited, -⟩ := Catalog.offers_exactly_the_legal steps (Nat.le_refl 1)
  refine ⟨(described "since" .date).mpr ⟨_, rfl, rfl⟩, (legal _ _ _ _).mpr ?on,
    mt (legal _ _ _ _).mp ?contains, mt (legal _ _ _ _).mp ?gone, ?mail⟩
  case on => exact Catalog.offers_iff.mpr ⟨_, .on, rfl, rfl, by decide⟩
  case contains =>
    intro offered
    obtain ⟨field, known, found, named, own⟩ := Catalog.offers_iff.mp offered
    obtain rfl := Option.some.inj found
    revert named own
    cases known <;> decide
  case gone =>
    intro offered
    obtain ⟨field, known, found, -⟩ := Catalog.offers_iff.mp offered
    cases found
  case mail =>
    have offered : (Catalog.ofSteps steps).Offers "Mail" "endsWith" :=
      Catalog.offers_iff.mpr ⟨_, .endsWith, rfl, rfl, by decide⟩
    obtain ⟨description, within, named, text⟩ :=
      (described "Mail" .text).mpr ⟨_, rfl, rfl⟩
    refine suited _ _ _ _ _ offered description within named ?_
    rw [text]
    exact ⟨'.', by decide, rfl⟩

end Reshaped

end ContactSegments
