import ContactSegments.Proofs.Field.Catalog
import ContactSegments.Proofs.Predicate.Holds
import ContactSegments.Proofs.Predicate.OfFilters
import ContactSegments.Proofs.Sql.Like
import ContactSegments.Proofs.Sql.Reading

/-! # The meaning of predicates in SQL

The condition that a predicate becomes is met by the rows of just those contacts that the predicate
matches. Each clause is compared with its conjunct on its own; placeholders are numbered through, so
the values that a conjunct is read with stand between those of the conjuncts around it.
-/

namespace ContactSegments

open Sql

/-- What stands in the column of an attribute; a missing text is null. -/
def Contact.cell (contact : Contact) : Attribute → Cell
  | .createdAt => .timestamp contact.createdAt
  | attr => (contact.text attr).elim .null .text

/-- The row holds the ids of the contact and, in the columns of the catalog's fields, their
    attributes. -/
structure Sql.Row.Shows (catalog : Catalog) (row : Row) (contact : Contact) : Prop where
  id : row "id" = .uuid contact.id
  organization : row "organization_id" = .uuid contact.organization.uuid
  field : ∀ name field, catalog.find? name = some field → row field.column = contact.cell field.attr

theorem Contact.cell_text {contact : Contact} {attr : Attribute} {test : String → Bool} :
    (∃ v, contact.cell attr = .text v ∧ test v = true) ↔ (contact.text attr).any test = true := by
  cases attr with
  | createdAt => simp [Contact.cell, Contact.text]
  | email | firstName | lastName | companyName | jobTitle | source =>
      simp only [Contact.cell]
      cases contact.text _ <;> simp

theorem Contact.cell_timestamp {contact : Contact} {attr : Attribute} {test : Instant → Bool} :
    (∃ t, contact.cell attr = .timestamp t ∧ test t = true) ↔
      (contact.timestamp attr).any test = true := by
  cases attr with
  | createdAt => simp [Contact.cell, Contact.timestamp]
  | email | firstName | lastName | companyName | jobTitle | source =>
      simp only [Contact.cell, Contact.timestamp]
      cases contact.text _ <;> simp

namespace Sql

theorem Truth.ofBool_eq_holds {b : Bool} : Truth.ofBool b = .holds ↔ b = true := by
  cases b <;> simp [Truth.ofBool]

theorem Truth.and_eq_holds {a b : Truth} : a.and b = .holds ↔ a = .holds ∧ b = .holds := by
  cases a <;> cases b <;> simp [Truth.and]

theorem Truth.all_eq_holds {truths : List Truth} :
    Truth.all truths = .holds ↔ ∀ t ∈ truths, t = .holds := by
  induction truths with
  | nil => simp [Truth.all]
  | cons t truths ih =>
      rw [List.forall_mem_cons, ← ih]
      exact Truth.and_eq_holds

theorem bound?_append (before after : List Parameter) (parameter : Parameter) :
    bound? (before ++ parameter :: after) (before.length + 1) = some parameter := by
  simp [bound?]

theorem Comparison.truth_eq_holds {comparison : Comparison} {cell : Cell} {parameter : Parameter} :
    comparison.truth cell parameter = .holds ↔
      ∃ o, cell.compare? parameter = some o ∧ comparison.accepts o = true := by
  unfold Comparison.truth
  cases cell.compare? parameter <;> simp [Truth.ofBool_eq_holds]

theorem Comparison.equal_uuid {a b : Uuid} :
    Comparison.equal.truth (.uuid a) (.uuid b) = .holds ↔ a = b := by
  simp [Comparison.truth_eq_holds, Cell.compare?, Comparison.accepts]

/-- How two instants have to stand to each other for a comparison to hold. -/
def Comparison.OfInstants (comparison : Comparison) (t limit : Instant) : Prop :=
  match comparison with
  | .equal => t.rank = limit.rank
  | .different => t.rank ≠ limit.rank
  | .less => t < limit
  | .atMost => t ≤ limit
  | .greater => limit < t
  | .atLeast => limit ≤ t

theorem Comparison.truth_timestamp {comparison : Comparison} {cell : Cell} {limit : Instant} :
    comparison.truth cell (.timestamp limit) = .holds ↔
      ∃ t, cell = .timestamp t ∧ comparison.OfInstants t limit := by
  rw [Comparison.truth_eq_holds]
  cases cell with
  | null | uuid | text => simp [Cell.compare?]
  | timestamp t =>
      simp only [Cell.compare?, Option.some.injEq, exists_eq_left', Cell.timestamp.injEq]
      cases comparison <;>
        simp only [Comparison.accepts, Comparison.OfInstants, beq_iff_eq, bne_iff_ne]
      · exact Int.compare_eq_eq
      · exact not_congr Int.compare_eq_eq
      · exact Int.compare_eq_lt
      · exact Int.compare_ne_gt
      · exact Int.compare_eq_gt
      · exact Int.compare_ne_lt

/-- A text in lower case is compared by its folded characters. -/
theorem Comparison.truth_lower {comparison : Comparison} {cell : Cell} {needle : String} :
    comparison.truth cell.lower (.text needle) = .holds ↔
      ∃ v, cell = .text v ∧ comparison.accepts (compare (Text.fold v) needle) = true := by
  rw [Comparison.truth_eq_holds]
  cases cell <;> simp [Cell.lower, Cell.compare?]

theorem Test.truth_lowerLike {column : String} {k : Nat} {parameters : List Parameter} {row : Row}
    {pattern : String} (bound : bound? parameters k = some (.text pattern)) :
    (Test.lowerLike column k).truth parameters row = .holds ↔
      ∃ v, row column = .text v ∧
        Like.accepts pattern.toList (Text.folded v.toList) = true := by
  simp only [Test.truth, bound]
  cases row column <;> simp [Cell.lower, Text.fold, Truth.ofBool_eq_holds]

end Sql

/-- The row meets the conjunct of a clause whose values are bound between those of others. -/
def Clause.MetBy (clause : Clause) (before after : List Parameter) (row : Row) : Prop :=
  (clause.toSql (before.length + 1)).1.truth
    (before ++ (clause.toSql (before.length + 1)).2 ++ after) row = .holds

/-- The conjunct of a text clause holds of a text that compares so with the needle when folded, and
    of nothing else. -/
theorem Clause.metBy_text (target : Target) (mode : TextMode) (needle : String)
    (before after : List Parameter) (row : Row) :
    (Clause.text target mode needle).MetBy before after row ↔
      ∃ v, row target.column = .text v ∧ mode.holds (Text.folded v.toList) needle.toList = true := by
  have bound := bound?_append before after (mode.parameter needle)
  simp only [Clause.MetBy, Clause.toSql, List.append_assoc, List.singleton_append, Conjunct.truth]
  cases mode with
  | equals =>
      simp only [TextMode.parameter] at bound ⊢
      simp only [Test.truth, bound, Option.elim_some, Comparison.truth_lower]
      simp [Comparison.accepts, TextMode.holds, Text.fold_eq_iff]
  | contains =>
      simp only [Test.truth_lowerLike bound, String.toList_ofList, Like.accepts_contains,
        TextMode.holds, Text.occursIn_iff]
  | startsWith =>
      simp only [Test.truth_lowerLike bound, String.toList_ofList, Like.accepts_startsWith,
        TextMode.holds, List.isPrefixOf_iff_prefix]
  | endsWith =>
      simp only [Test.truth_lowerLike bound, String.toList_ofList, Like.accepts_endsWith,
        TextMode.holds, List.isSuffixOf_iff_suffix]

theorem Clause.metBy_differs (target : Target) (needle : String) (before after : List Parameter)
    (row : Row) :
    (Clause.differs target needle).MetBy before after row ↔
      ∃ v, row target.column = .text v ∧ (Text.folded v.toList != needle.toList) = true := by
  simp only [Clause.MetBy, Clause.toSql, List.append_assoc, List.singleton_append, Conjunct.truth,
    List.map_cons, List.map_nil, Truth.all_eq_holds, List.forall_mem_cons, Test.truth,
    bound?_append, Option.elim_some, Comparison.truth_lower, Truth.ofBool_eq_holds]
  cases row target.column <;> simp [Comparison.accepts, Text.fold_eq_iff]

theorem Sql.Cell.timestamp_and {cell : Cell} {p q : Instant → Prop} :
    ((∃ t, cell = .timestamp t ∧ p t) ∧ ∃ t, cell = .timestamp t ∧ q t) ↔
      ∃ t, cell = .timestamp t ∧ p t ∧ q t := by
  cases cell <;> simp

/-- A range of time is tested at each end that it has, and it has one at least. -/
theorem Clause.metBy_within (target : Target) {lower upper : Bound}
    (ended : ¬ (lower = .unbounded ∧ upper = .unbounded)) (before after : List Parameter) (row : Row) :
    (Clause.within target lower upper).MetBy before after row ↔
      ∃ t, row target.column = .timestamp t ∧
        (lower.allowsAbove t && upper.allowsBelow t) = true := by
  have second : ∀ p q, bound? (before ++ p :: q :: after) (before.length + 1 + 1) = some q := by
    simp [bound?]
  cases lower <;> cases upper <;>
    simp [Clause.MetBy, Clause.toSql, Bound.test?, Conjunct.truth, Truth.all_eq_holds, Test.truth,
      bound?_append, second, Comparison.truth_timestamp, Comparison.OfInstants, Bound.allowsAbove,
      Bound.allowsBelow, Cell.timestamp_and] at ended ⊢

theorem Clause.metBy_members (ids : Std.ExtTreeSet ContactId) (before after : List Parameter)
    {row : Row} {id : ContactId} (shown : row "id" = .uuid id) :
    (Clause.members ids).MetBy before after row ↔ ids.contains id = true := by
  simp only [Clause.MetBy, Clause.toSql, List.append_assoc, List.singleton_append, Conjunct.truth,
    Test.truth, shown, bound?_append, Truth.ofBool_eq_holds]
  simp

/-- The row shows what the clause reads of the contact, and a range of time has an end. -/
def Clause.Shown (row : Row) (contact : Contact) : Clause → Prop
  | .text target _ _ | .differs target _ => row target.column = contact.cell target.attr
  | .within target lower upper =>
    row target.column = contact.cell target.attr ∧ ¬ (lower = .unbounded ∧ upper = .unbounded)
  | .members _ => row "id" = .uuid contact.id

theorem Clause.metBy_iff {clause : Clause} {row : Row} {contact : Contact}
    (shown : clause.Shown row contact) (before after : List Parameter) :
    clause.MetBy before after row ↔ clause.holds contact = true := by
  cases clause with
  | text target mode needle =>
      rw [Clause.metBy_text, show row target.column = _ from shown]
      exact Contact.cell_text
  | differs target needle =>
      rw [Clause.metBy_differs, show row target.column = _ from shown]
      exact Contact.cell_text
  | within target lower upper =>
      obtain ⟨shown, ended⟩ := shown
      rw [Clause.metBy_within target ended, shown]
      exact Contact.cell_timestamp
  | members ids => exact Clause.metBy_members ids before after shown

theorem Clause.allToSql_cons (clause : Clause) (clauses : List Clause) (before : List Parameter) :
    let own := clause.toSql (before.length + 1)
    let others := Clause.allToSql ((before ++ own.2).length + 1) clauses
    Clause.allToSql (before.length + 1) (clause :: clauses) =
      (own.1 :: others.1, own.2 ++ others.2) := by
  simp only [Clause.allToSql, List.length_append, Nat.add_right_comm]

/-- As one clause, so clauses one after the other: the values of each stand after those of the
    clauses before it. -/
theorem Clause.truth_allToSql {clauses : List Clause} {row : Row} {contact : Contact}
    (shown : ∀ clause ∈ clauses, clause.Shown row contact) (before after : List Parameter) :
    (∀ conjunct ∈ (Clause.allToSql (before.length + 1) clauses).1,
        conjunct.truth (before ++ (Clause.allToSql (before.length + 1) clauses).2 ++ after) row =
          .holds) ↔
      ∀ clause ∈ clauses, clause.holds contact = true := by
  induction clauses generalizing before with
  | nil => simp [Clause.allToSql]
  | cons clause clauses ih =>
      obtain ⟨first, others⟩ := List.forall_mem_cons.mp shown
      have tail := ih others (before ++ (clause.toSql (before.length + 1)).2)
      rw [Clause.allToSql_cons, List.forall_mem_cons, List.forall_mem_cons, ← tail,
        ← Clause.metBy_iff first before (_ ++ after)]
      simp only [Clause.MetBy, List.append_assoc]
      exact Iff.rfl

/-- Every clause of a predicate that was built by a catalog reads a column that the row shows. -/
theorem Predicate.Built.shown {catalog : Catalog} {predicate : Predicate}
    (built : predicate.Built catalog) {row : Row} {contact : Contact}
    (shows : row.Shows catalog contact) : ∀ clause ∈ predicate.clauses, clause.Shown row contact := by
  intro clause within
  rcases built.compiled.clause within with ⟨name, field, found, reads⟩ | ⟨ids, rfl⟩
  · have shown := shows.field name field found
    cases reads with
    | text | differs => exact shown
    | on | before | after => exact ⟨shown, by simp⟩
  · exact shows.id

theorem OrganizationId.uuid_inj {a b : OrganizationId} : a.uuid = b.uuid ↔ a = b := by
  cases a
  cases b
  rw [OrganizationId.mk.injEq]

/-- A row meets the condition of a predicate just when the predicate matches its contact. -/
theorem Predicate.truth_toSql {catalog : Catalog} {predicate : Predicate}
    (built : predicate.Built catalog) {row : Row} {contact : Contact}
    (shows : row.Shows catalog contact) :
    Truth.all (predicate.toSql.conjuncts.map (·.truth predicate.toSql.parameters row)) = .holds ↔
      predicate.holds contact = true := by
  have clauses := Clause.truth_allToSql (built.shown shows)
    [.uuid predicate.organization.uuid] []
  have organization : (Test.compare "organization_id" .equal 1).truth predicate.toSql.parameters
      row = .holds ↔ contact.organization = predicate.organization := by
    have bound : bound? predicate.toSql.parameters 1 = some (.uuid predicate.organization.uuid) := rfl
    simp only [Test.truth, bound, Option.elim_some, shows.organization, Comparison.equal_uuid,
      OrganizationId.uuid_inj]
  rw [Predicate.holds_iff, Truth.all_eq_holds, ← organization, ← clauses]
  simp [Predicate.toSql, Conjunct.truth]

/-- The column that the clause reads has a plain name. -/
def Clause.Named : Clause → Prop
  | .text target _ _ | .differs target _ | .within target _ _ => IsName target.column
  | .members _ => True

theorem isName_id : IsName "id" := by
  constructor <;> simp [isNameChar]

theorem isName_organization_id : IsName "organization_id" := by
  constructor <;> simp [isNameChar]

theorem Clause.plain_toSql {clause : Clause} (named : clause.Named) (next : Nat) :
    (clause.toSql next).1.Plain := by
  cases clause with
  | text target mode needle => cases mode <;> exact named
  | differs target needle =>
      have column : IsName target.column := named
      simp [Clause.toSql, Conjunct.Plain, Test.column, column]
  | within target lower upper =>
      have column : IsName target.column := named
      cases lower <;> cases upper <;>
        simp [Clause.toSql, Bound.test?, Conjunct.Plain, Test.column, column]
  | members ids => exact isName_id

theorem Clause.plain_allToSql {clauses : List Clause} (named : ∀ clause ∈ clauses, clause.Named)
    (next : Nat) : ∀ conjunct ∈ (Clause.allToSql next clauses).1, conjunct.Plain := by
  induction clauses generalizing next with
  | nil => simp [Clause.allToSql]
  | cons clause clauses ih =>
      obtain ⟨first, others⟩ := List.forall_mem_cons.mp named
      simp only [Clause.allToSql]
      rw [List.forall_mem_cons]
      exact ⟨Clause.plain_toSql first next, ih others _⟩

theorem Predicate.Compiled.named {catalog : Catalog} {predicate : Predicate}
    (compiled : predicate.Compiled catalog)
    (named : ∀ name field, catalog.find? name = some field → IsName field.column) :
    ∀ clause ∈ predicate.clauses, clause.Named := by
  intro clause within
  rcases compiled.clause within with ⟨name, field, found, reads⟩ | ⟨ids, rfl⟩
  · cases reads <;> exact named name field found
  · trivial

theorem Predicate.Built.named {catalog : Catalog} {predicate : Predicate}
    (built : predicate.Built catalog)
    (named : ∀ name field, catalog.find? name = some field → IsName field.column) :
    ∀ clause ∈ predicate.clauses, clause.Named :=
  built.compiled.named named

/-- A field of a catalog that was put together from a list has a binding of the list. -/
theorem Catalog.binding_mem_of_find? {entries : List (String × FieldBinding)} {catalog : Catalog}
    {name : String} {field : Field}
    (found : (entries.foldl (fun catalog (name, binding) => catalog.insert name binding)
      catalog).find? name = some field) :
    field.toFieldBinding ∈ entries.map (·.2) ∨ catalog.find? name = some field := by
  induction entries generalizing catalog with
  | nil => exact .inr found
  | cons entry entries ih =>
      rcases ih found with within | found
      · exact .inl (List.mem_cons_of_mem _ within)
      · rw [Catalog.find?_insert] at found
        split at found
        · cases found
          exact .inl List.mem_cons_self
        · exact .inr found

theorem Catalog.standard_column {name : String} {field : Field}
    (found : Catalog.standard.find? name = some field) : field.column = field.attr.name := by
  rcases Catalog.binding_mem_of_find? found with within | found
  · simp only [List.map_cons, List.map_nil, List.mem_cons, List.not_mem_nil, or_false] at within
    rcases within with same | same | same | same | same | same | same <;> rw [same] <;> rfl
  · rw [Catalog.find?_empty] at found
    cases found

theorem Attribute.isName (attr : Attribute) : IsName attr.name := by
  cases attr <;> constructor <;> simp [Attribute.name, isNameChar]

theorem Catalog.standard_named (name : String) (field : Field)
    (found : Catalog.standard.find? name = some field) : IsName field.column := by
  rw [Catalog.standard_column found]
  exact field.attr.isName

/-- The text of a condition is true of a row just when the predicate matches the contact that the row
    shows. -/
theorem Predicate.truthOfText?_toSql {predicate : Predicate} (built : predicate.Built .standard)
    {row : Row} {contact : Contact} (shows : row.Shows .standard contact) :
    ∃ truth, truthOfText? predicate.toSql.text predicate.toSql.parameters row = some truth ∧
      (truth = .holds ↔ predicate.holds contact = true) := by
  have plain : ∀ conjunct ∈ predicate.toSql.conjuncts, conjunct.Plain := by
    have clauses := Clause.plain_allToSql (built.named Catalog.standard_named) 2
    simp only [Predicate.toSql]
    rw [List.forall_mem_cons]
    exact ⟨isName_organization_id, clauses⟩
  have read := conjunctsOfText?_text (List.cons_ne_nil _ _) plain
  refine ⟨_, ?_, Predicate.truth_toSql built shows⟩
  simp only [truthOfText?, read, Option.map_some]

/-- The row that shows a contact in the columns of the standard catalog. -/
def Contact.row (contact : Contact) : Row := fun column =>
  if column = "id" then .uuid contact.id
  else if column = "organization_id" then .uuid contact.organization.uuid
  else ((Attribute.all.find? (·.name == column)).map contact.cell).getD .null

theorem Contact.shows_row (contact : Contact) : contact.row.Shows .standard contact where
  id := rfl
  organization := rfl
  field name field found := by
    rw [Catalog.standard_column found]
    cases field.attr <;> rfl

def offer : Criteria :=
  ((Criteria.empty.and "email" .contains "50%_off").and "companyName" .notEquals "Acme").and
    "createdAt" .on "2024-01-05"

def offerDay : Date := ⟨2024, 1, 5, by decide⟩

def offerGroup : FilterGroup where
  filters :=
    [⟨"c1", ⟨⟨.text, .email, "email"⟩, "email"⟩, .contains, .text "50%_off", none⟩,
     ⟨"c2", ⟨⟨.text, .companyName, "company_name"⟩, "companyName"⟩, .notEquals, .text "Acme",
      some .and⟩,
     ⟨"c3", ⟨⟨.date, .createdAt, "created_at"⟩, "createdAt"⟩, .on,
      .date ⟨some offerDay, .midnight offerDay⟩, some .and⟩]
  filters_ne_nil := List.cons_ne_nil _ _

def offerPredicate : Predicate where
  organization := ⟨.nil⟩
  clauses :=
    [.text ⟨"email", .email, "email"⟩ .contains (Text.fold "50%_off"),
     .differs ⟨"companyName", .companyName, "company_name"⟩ (Text.fold "Acme"),
     .within ⟨"createdAt", .createdAt, "created_at"⟩ (.included (.midnight offerDay))
      (.excluded (.midnight ⟨2024, 1, 6, by decide⟩))]

def offered : Contact :=
  { Contact.blank .nil ⟨.nil⟩ (.midnight offerDay) with
    email := some "Get50%_OFF@example.org", companyName := some "Bolt" }

example :
    offerPredicate.toSql.text =
      "organization_id = $1 AND lower(email) LIKE $2 AND " ++
      "(company_name IS NOT NULL AND lower(company_name) <> $3) AND " ++
      "(created_at >= $4 AND created_at < $5)" := by
  decide +kernel

theorem offerPredicate_truthOfText? :
    Condition.checkAll .standard 50 offer.conditions = .ok offerGroup ∧
      offerGroup.toPredicate .standard ⟨.nil⟩ = .ok offerPredicate ∧
      truthOfText? offerPredicate.toSql.text offerPredicate.toSql.parameters offered.row =
        some .holds := by
  have legal : Condition.checkAll .standard 50 offer.conditions = .ok offerGroup := rfl
  have compiled : offerGroup.toPredicate .standard ⟨.nil⟩ = .ok offerPredicate := rfl
  have matched : offerPredicate.holds offered = true := by decide +kernel
  obtain ⟨truth, read, iff⟩ :=
    Predicate.truthOfText?_toSql (.criteria legal compiled) offered.shows_row
  exact ⟨legal, compiled, by rw [read, iff.mpr matched]⟩

end ContactSegments
