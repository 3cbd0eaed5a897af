import ContactSegments.Proofs.Traversal
import ContactSegments.Predicate.OfFilters

/-! # The clauses of filters

What becomes of a filter is decided by the field that the catalog has under its name: the clause
reads that field's attribute, whatever the field was when the filter was made. A range of time that
comes from a filter always has an end.
-/

namespace ContactSegments

/-- The clauses that read this field. -/
inductive Field.Reads (field : Field) : Clause → Prop
  | text (mode : TextMode) (needle : String) : Reads field (.text field.target mode needle)
  | differs (needle : String) : Reads field (.differs field.target needle)
  | on (first : Instant) (upper : Bound) :
    Reads field (.within field.target (.included first) upper)
  | before (limit : Instant) : Reads field (.within field.target .unbounded (.excluded limit))
  | after (limit : Instant) : Reads field (.within field.target (.excluded limit) .unbounded)

theorem Field.reads_of_clause? {field : Field} {operator : Operator} {value : FieldValue}
    {clause : Clause} (made : field.clause? operator value = some clause) : field.Reads clause := by
  cases value with
  | text s =>
      cases type : field.type with
      | date => simp [Field.clause?, type] at made
      | text =>
          simp only [Field.clause?, type] at made
          cases operator with
          | equals | contains | startsWith | endsWith =>
              simp only [Target.textClause?, Option.some.injEq] at made
              exact made ▸ .text _ (Text.fold s)
          | notEquals =>
              simp only [Target.textClause?, Option.some.injEq] at made
              exact made ▸ .differs (Text.fold s)
          | on | before | after => simp [Target.textClause?] at made
  | date reading =>
      cases type : field.type with
      | text => simp [Field.clause?, type] at made
      | date =>
          simp only [Field.clause?, type] at made
          cases operator with
          | on =>
              simp only [Target.dateClause?, Option.map_eq_some_iff] at made
              obtain ⟨day, -, rfl⟩ := made
              exact .on (.midnight day) _
          | before =>
              simp only [Target.dateClause?, Option.some.injEq] at made
              exact made ▸ .before reading.instant
          | after =>
              simp only [Target.dateClause?, Option.some.injEq] at made
              exact made ▸ .after reading.instant
          | equals | notEquals | contains | startsWith | endsWith =>
              simp [Target.dateClause?] at made

theorem Filter.toClause_eq_ok_iff {catalog : Catalog} {filter : Filter} {clause : Clause} :
    filter.toClause catalog = .ok clause ↔
      ∃ field, catalog.find? filter.field.name = some field ∧
        field.clause? filter.operator filter.value = some clause := by
  unfold Filter.toClause
  cases catalog.find? filter.field.name with
  | none => simp
  | some field => cases made : field.clause? filter.operator filter.value <;> simp [made]

theorem FilterGroup.toPredicate_eq_ok_iff {group : FilterGroup} {catalog : Catalog}
    {organization : OrganizationId} {predicate : Predicate} :
    group.toPredicate catalog organization = .ok predicate ↔
      predicate.organization = organization ∧
        List.Forall₂ (fun filter clause => filter.toClause catalog = .ok clause)
          group.filters predicate.clauses := by
  simp only [FilterGroup.toPredicate, bind_eq_ok_iff, mapM_eq_ok_iff]
  constructor
  · rintro ⟨clauses, made, same⟩
    cases same
    exact ⟨rfl, made⟩
  · rintro ⟨rfl, made⟩
    exact ⟨predicate.clauses, made, rfl⟩

/-- Filters that become the same clauses have the same predicate. -/
theorem FilterGroup.toPredicate_of_clauses {group other : FilterGroup} {catalog : Catalog}
    {organization : OrganizationId} {predicate : Predicate}
    (carried : List.Forall₂ (fun filter' filter => ∀ clause, filter.toClause catalog = .ok clause →
      filter'.toClause catalog = .ok clause) other.filters group.filters)
    (made : group.toPredicate catalog organization = .ok predicate) :
    other.toPredicate catalog organization = .ok predicate := by
  obtain ⟨owner, clauses⟩ := toPredicate_eq_ok_iff.mp made
  exact toPredicate_eq_ok_iff.mpr
    ⟨owner, forall₂_trans (fun _ _ clause carries => carries clause) carried clauses⟩

/-- The predicates that come from criteria which are legal by a catalog, and from lists of
    members. -/
inductive Predicate.Built (catalog : Catalog) : Predicate → Prop
  | criteria {max : Nat} {conditions : List Condition} {group : FilterGroup}
      {organization : OrganizationId} {predicate : Predicate}
      (legal : Condition.checkAll catalog max conditions = .ok group)
      (compiled : group.toPredicate catalog organization = .ok predicate) : Built catalog predicate
  | members (ids : List ContactId) (organization : OrganizationId) :
      Built catalog (.ofMembers ids organization)

/-- The predicates that come from a group of filters, however it came about, and from lists of
    members. -/
inductive Predicate.Compiled (catalog : Catalog) : Predicate → Prop
  | criteria {group : FilterGroup} {organization : OrganizationId} {predicate : Predicate}
      (compiled : group.toPredicate catalog organization = .ok predicate) : Compiled catalog predicate
  | members (ids : List ContactId) (organization : OrganizationId) :
      Compiled catalog (.ofMembers ids organization)

theorem Predicate.Built.compiled {catalog : Catalog} {predicate : Predicate}
    (built : predicate.Built catalog) : predicate.Compiled catalog := by
  cases built with
  | criteria _ compiled => exact .criteria compiled
  | members ids organization => exact .members ids organization

/-- Every clause of such a predicate reads a field of the catalog or lists members. -/
theorem Predicate.Compiled.clause {catalog : Catalog} {predicate : Predicate}
    (compiled : predicate.Compiled catalog) {clause : Clause} (within : clause ∈ predicate.clauses) :
    (∃ name field, catalog.find? name = some field ∧ field.Reads clause) ∨
      ∃ ids, clause = .members ids := by
  cases compiled with
  | criteria compiled =>
      obtain ⟨-, made⟩ := FilterGroup.toPredicate_eq_ok_iff.mp compiled
      obtain ⟨filter, -, ok⟩ := exists_source made within
      obtain ⟨field, found, read⟩ := Filter.toClause_eq_ok_iff.mp ok
      exact .inl ⟨_, field, found, Field.reads_of_clause? read⟩
  | members ids organization =>
      obtain rfl := List.mem_singleton.mp within
      exact .inr ⟨_, rfl⟩

end ContactSegments
