import ContactSegments.Proofs.Condition.Check
import ContactSegments.Proofs.Predicate.Holds
import ContactSegments.Proofs.Predicate.OfFilters

/-! # The meaning of conditions

The predicate of legal conditions matches a contact of its organization just when each condition
says so of the contact. The connectives that conditions carry play no part.
-/

namespace ContactSegments

theorem Catalog.name_of_find? {catalog : Catalog} {name : String} {field : Field}
    (found : catalog.find? name = some field) : field.name = name := by
  simp only [Catalog.find?, Option.map_eq_some_iff] at found
  obtain ⟨binding, -, rfl⟩ := found
  rfl

/-- What a condition says of a contact. The attribute that the field is bound to has a value, and
    the value stands to the one that is written as the operator has it: a text with both folded and
    otherwise as they are, a time with the reading of the written one. -/
def Condition.SaysOf (catalog : Catalog) (c : Condition) (contact : Contact) : Prop :=
  ∃ (field : Field) (operator : Operator),
    catalog.find? c.field = some field ∧ operator.name = c.operator ∧
    match field.type with
    | .text =>
      ∃ v, contact.text field.attr = some v ∧
        operator.Compares (Text.fold v) (Text.fold c.value)
    | .date =>
      ∃ reading t, DateReading.ofText? c.value = some reading ∧
        contact.timestamp field.attr = some t ∧ operator.Places t reading

theorem Operator.name_inj {a b : Operator} : a.name = b.name ↔ a = b := by
  constructor
  · intro same
    rw [← Option.some_inj, ← a.ofName?_name, ← b.ofName?_name, same]
  · rintro rfl
    rfl

namespace Condition

variable {catalog : Catalog} {c : Condition} {field : Field} {operator : Operator}

theorem saysOf_text (found : catalog.find? c.field = some field)
    (named : operator.name = c.operator) (type : field.type = .text) (contact : Contact) :
    c.SaysOf catalog contact ↔
      ∃ v, contact.text field.attr = some v ∧
        operator.Compares (Text.fold v) (Text.fold c.value) := by
  simp [SaysOf, found, ← named, Operator.name_inj, type]

theorem saysOf_date (found : catalog.find? c.field = some field)
    (named : operator.name = c.operator) (type : field.type = .date) {reading : DateReading}
    (read : DateReading.ofText? c.value = some reading) (contact : Contact) :
    c.SaysOf catalog contact ↔
      ∃ t, contact.timestamp field.attr = some t ∧ operator.Places t reading := by
  simp [SaysOf, found, ← named, Operator.name_inj, type, read]

/-- The filter of a legal condition has a clause, which holds of a contact when the condition says
    so of it. -/
theorem exists_clause {filter : Filter} (legal : c.check catalog = .ok filter) :
    ∃ clause, filter.toClause catalog = .ok clause ∧
      ∀ contact, clause.holds contact = true ↔ c.SaysOf catalog contact := by
  obtain ⟨field, operator, value, found, named, allowed, read, rfl⟩ := check_eq_ok_iff.mp legal
  have again : catalog.find? field.name = some field := by
    rw [Catalog.name_of_find? found, found]
  simp only [Filter.toClause_eq_ok_iff, again, Option.some.injEq, exists_eq_left']
  cases type : field.type with
  | text =>
      rw [type] at allowed read
      obtain ⟨-, rfl⟩ := readValue_text_eq_ok_iff.mp read
      obtain ⟨clause, made⟩ := field.target.textClause?_of_allows allowed c.value
      refine ⟨clause, by simp only [Field.clause?, type, made], fun contact => ?_⟩
      rw [saysOf_text found named type]
      exact Target.holds_of_textClause? made contact
  | date =>
      rw [type] at allowed read
      obtain ⟨-, reading, isRead, dated, rfl⟩ := readValue_date_eq_ok_iff.mp read
      obtain ⟨clause, made⟩ := field.target.dateClause?_of_allows allowed dated
      refine ⟨clause, by simp only [Field.clause?, type, made], fun contact => ?_⟩
      rw [saysOf_date found named type isRead]
      exact Target.holds_of_dateClause? made contact

/-- Legal conditions have a predicate, with one clause for each of them in their order. -/
theorem exists_toPredicate {max : Nat} {conditions : List Condition} {group : FilterGroup}
    (legal : checkAll catalog max conditions = .ok group) (organization : OrganizationId) :
    ∃ predicate, group.toPredicate catalog organization = .ok predicate ∧
      List.Forall₂ (fun c clause => ∀ contact, clause.holds contact = true ↔
        c.SaysOf catalog contact) conditions predicate.clauses ∧
      ∀ contact, predicate.holds contact = true ↔
        contact.organization = organization ∧ ∀ c ∈ conditions, c.SaysOf catalog contact := by
  obtain ⟨-, checked⟩ := checkAll_eq_ok_iff.mp legal
  have image (c : Condition) (filter : Filter) (legal : c.check catalog = .ok filter) :=
    exists_clause legal
  obtain ⟨clauses, made, meant⟩ := exists_images image checked
  refine ⟨⟨organization, clauses⟩, FilterGroup.toPredicate_eq_ok_iff.mpr ⟨rfl, made⟩, meant, ?_⟩
  intro contact
  have each := meant.imp fun _ _ agrees => agrees contact
  rw [Predicate.holds_iff, forall_mem_iff each]

/-- Not of Acme, and created on the last day there is, which has no day after it. -/
def lastArrivals : List Condition :=
  [⟨"c1", "companyName", "notEquals", " Acme", none⟩,
   ⟨"c2", "createdAt", "on", "+262142-12-31", some .or⟩]

def lastDay : Date := ⟨262142, 12, 31, by decide⟩

def lastArrivalsGroup : FilterGroup where
  filters :=
    [⟨"c1", ⟨⟨.text, .companyName, "company_name"⟩, "companyName"⟩, .notEquals, .text " Acme", none⟩,
     ⟨"c2", ⟨⟨.date, .createdAt, "created_at"⟩, "createdAt"⟩, .on,
      .date ⟨some lastDay, .midnight lastDay⟩, some .or⟩]
  filters_ne_nil := List.cons_ne_nil _ _

theorem lastArrivals_toPredicate :
    checkAll .standard 2 lastArrivals = .ok lastArrivalsGroup ∧
      ∃ predicate, lastArrivalsGroup.toPredicate .standard ⟨.nil⟩ = .ok predicate ∧
        predicate.clauses.length = 2 ∧
        ∀ contact, predicate.holds contact = true ↔
          contact.organization = ⟨.nil⟩ ∧ ∀ c ∈ lastArrivals, c.SaysOf .standard contact := by
  have legal : checkAll .standard 2 lastArrivals = .ok lastArrivalsGroup := rfl
  obtain ⟨predicate, made, each, matched⟩ := exists_toPredicate legal ⟨.nil⟩
  exact ⟨legal, predicate, made, each.length_eq.symm, matched⟩

end Condition

end ContactSegments
