import ContactSegments.Proofs.Condition.Fault
import ContactSegments.Proofs.Service.Action

/-! # The content of conditions

What a condition means is its content: the field, the operator and the value. The id and the connective
are carried along. So lists of conditions with the same contents are legal together and match the same
contacts, in whatever order and however often the contents occur, and lists with the same contents in
the same places have one predicate.
-/

namespace ContactSegments

namespace Condition

/-- Field, operator and value. -/
def content (c : Condition) : String × String × String := (c.field, c.operator, c.value)

variable {catalog : Catalog} {c d : Condition}

theorem content_eq_iff :
    c.content = d.content ↔ c.field = d.field ∧ c.operator = d.operator ∧ c.value = d.value := by
  simp [content]

/-- Conditions of the same content are checked alike; each filter carries the id and the connective of its
    own condition. -/
theorem check_of_content (same : c.content = d.content) :
    d.check catalog =
      (c.check catalog).map ({ · with id := d.id, connective := d.connective }) := by
  obtain ⟨field, operator, value⟩ := content_eq_iff.mp same
  unfold check
  rw [field, operator, value]
  cases catalog.find? d.field with
  | none => rfl
  | some found =>
      cases Operator.ofName? d.operator with
      | none => rfl
      | some known =>
          dsimp only
          split
          · cases readValue found.type known d.value <;> rfl
          · rfl

theorem legal_of_content (same : c.content = d.content) :
    (∃ filter, c.check catalog = .ok filter) ↔ ∃ filter, d.check catalog = .ok filter := by
  rw [check_of_content same]
  simp [map_eq_ok_iff]

theorem saysOf_of_content (same : c.content = d.content) (contact : Contact) :
    c.SaysOf catalog contact ↔ d.SaysOf catalog contact := by
  obtain ⟨field, operator, value⟩ := content_eq_iff.mp same
  simp only [SaysOf, field, operator, value]

/-- The clause of a filter does not depend on what the filter carries along. -/
theorem toClause_of_content (same : c.content = d.content) {filter other : Filter}
    (checked : c.check catalog = .ok filter) (alsoChecked : d.check catalog = .ok other)
    {clause : Clause} : filter.toClause catalog = .ok clause ↔ other.toClause catalog = .ok clause := by
  rw [check_of_content same, checked] at alsoChecked
  cases alsoChecked
  simp only [Filter.toClause_eq_ok_iff]

variable {as bs : List Condition}

/-- What is true of every condition depends on the contents that occur, if it depends on the content. -/
theorem forall_mem_of_contents {P : Condition → Prop}
    (same : ∀ content, content ∈ as.map Condition.content ↔ content ∈ bs.map Condition.content)
    (respects : ∀ c d : Condition, c.content = d.content → (P c ↔ P d)) :
    (∀ a ∈ as, P a) ↔ ∀ b ∈ bs, P b := by
  have carry {as bs : List Condition}
      (within : ∀ content, content ∈ bs.map Condition.content → content ∈ as.map Condition.content)
      (all : ∀ a ∈ as, P a) : ∀ b ∈ bs, P b := by
    intro b inside
    obtain ⟨a, found, alike⟩ := List.mem_map.mp (within _ (List.mem_map_of_mem inside))
    exact (respects a b alike).mp (all a found)
  exact ⟨carry fun content => (same content).mpr, carry fun content => (same content).mp⟩

end Condition

namespace Predicate

/-- The predicates are about one organization and hold of the same contacts. -/
structure Alike (predicate other : Predicate) : Prop where
  organization : predicate.organization = other.organization
  holds : ∀ contact, predicate.holds contact = other.holds contact

variable {predicate other : Predicate}

theorem Alike.query_eq (alike : predicate.Alike other) (book : ContactBook) (window : Window) :
    book.query predicate window = book.query other window := by
  have same : predicate.holds = other.holds := funext alike.holds
  simp only [ContactBook.query, ContactBook.matching, alike.organization, same]

end Predicate

open ContactSegments.Action

namespace Predicate.Alike

variable {predicate other : Predicate} (alike : predicate.Alike other)

include alike

theorem perform_measured (counter : Counter) (window : Window) (world : World) :
    (measured counter predicate window).perform world =
      (measured counter other window).perform world := by
  rw [Action.perform_measured, Action.perform_measured, alike.query_eq]

theorem perform_countMatches (world : World) :
    (countMatches predicate).perform world = (countMatches other).perform world := by
  unfold countMatches
  rw [perform_bind, perform_bind, alike.perform_measured]

theorem perform_pageMatches (engine : Engine) (page : Page) (world : World) :
    (engine.pageMatches predicate page).perform world =
      (engine.pageMatches other page).perform world := by
  unfold Engine.pageMatches
  cases page.check engine.limits.maxPageSize with
  | error cause => rfl
  | ok _ =>
      dsimp only
      rw [perform_bind, perform_bind, alike.perform_measured]

end Predicate.Alike

namespace Condition

variable {catalog : Catalog} {max : Nat} {as bs : List Condition} {group other : FilterGroup}

/-- Legal conditions with the same contents match the same contacts. -/
theorem alike_of_contents
    (same : ∀ content, content ∈ as.map Condition.content ↔ content ∈ bs.map Condition.content)
    (legal : checkAll catalog max as = .ok group) (alsoLegal : checkAll catalog max bs = .ok other)
    (organization : OrganizationId) :
    ∃ predicate predicate', group.toPredicate catalog organization = .ok predicate ∧
      other.toPredicate catalog organization = .ok predicate' ∧ predicate.Alike predicate' := by
  obtain ⟨predicate, made, -, matched⟩ := exists_toPredicate legal organization
  obtain ⟨predicate', made', -, matched'⟩ := exists_toPredicate alsoLegal organization
  refine ⟨predicate, predicate', made, made', ?_, fun contact => ?_⟩
  · rw [(FilterGroup.toPredicate_eq_ok_iff.mp made).1, (FilterGroup.toPredicate_eq_ok_iff.mp made').1]
  · rw [Bool.eq_iff_iff, matched, matched']
    exact and_congr_right fun _ =>
      forall_mem_of_contents same fun c d alike => saysOf_of_content alike contact

/-- Legal conditions with the same contents in the same places have one predicate. -/
theorem toPredicate_of_contents (same : as.map Condition.content = bs.map Condition.content)
    (legal : checkAll catalog max as = .ok group) (alsoLegal : checkAll catalog max bs = .ok other)
    {organization : OrganizationId} {predicate : Predicate}
    (made : group.toPredicate catalog organization = .ok predicate) :
    other.toPredicate catalog organization = .ok predicate := by
  obtain ⟨-, checked⟩ := checkAll_eq_ok_iff.mp legal
  obtain ⟨-, alsoChecked⟩ := checkAll_eq_ok_iff.mp alsoLegal
  have sources : List.Forall₂ (fun d filter => ∃ c : Condition, c.content = d.content ∧
      c.check catalog = .ok filter) bs group.filters :=
    forall₂_trans (fun d c filter alike ok => ⟨c, alike, ok⟩) (map_eq_map_iff.mp same).flip checked
  refine FilterGroup.toPredicate_of_clauses ?_ made
  refine forall₂_trans ?_ alsoChecked.flip sources
  intro filter' d filter ok' ⟨c, alike, ok⟩ clause
  exact (toClause_of_content alike ok ok').mp

/-- The first condition that is not legal stands in the same place of both lists. -/
theorem toFilters_cause_of_contents (same : as.map Condition.content = bs.map Condition.content)
    {error : ValidationError} (faulty : toFilters catalog as = .error error) :
    ∃ id, toFilters catalog bs = .error ⟨id, error.cause⟩ := by
  obtain ⟨before, c, after, rfl, good, fails⟩ := mapM_eq_error_iff.mp faulty
  obtain ⟨cause, wrong, rfl⟩ := mapError_eq_error_iff.mp fails
  rw [List.map_append, List.map_cons, eq_comm, List.map_eq_append_iff] at same
  obtain ⟨before', rest, rfl, fronts, others⟩ := same
  obtain ⟨d, after', rfl, alike, -⟩ := List.map_eq_cons_iff.mp others
  have alsoWrong : d.check catalog = .error cause := by
    rw [check_of_content alike.symm, wrong]
    rfl
  have alsoGood : ∀ b ∈ before', ∃ filter, b.toFilter catalog = .ok filter := by
    simp only [toFilter, mapError_eq_ok_iff] at good ⊢
    refine (forall_mem_of_contents (fun content => ?_) fun c d alike => legal_of_content alike).mp good
    rw [fronts]
  exact ⟨some d.id, mapM_eq_error_iff.mpr
    ⟨before', d, after', rfl, alsoGood, mapError_eq_error_iff.mpr ⟨cause, alsoWrong, rfl⟩⟩⟩

/-- Conditions with the same contents in the same places are rejected for the same cause. -/
theorem cause_of_contents (same : as.map Condition.content = bs.map Condition.content)
    {error : ValidationError} (faulty : checkAll catalog max as = .error error) :
    ∃ id, checkAll catalog max bs = .error ⟨id, error.cause⟩ := by
  have size : as.length = bs.length := by simpa using congrArg List.length same
  have nil : as = [] ↔ bs = [] := by rw [← List.length_eq_zero_iff, size, List.length_eq_zero_iff]
  simp only [checkAll_eq_error_iff, ne_eq] at faulty ⊢
  rw [nil, size] at faulty
  rcases faulty with ⟨empty, rfl⟩ | ⟨more, long, rfl⟩ | ⟨more, short, fails⟩
  · exact ⟨_, .inl ⟨empty, rfl⟩⟩
  · exact ⟨_, .inr (.inl ⟨more, long, rfl⟩)⟩
  · obtain ⟨id, alsoFails⟩ := toFilters_cause_of_contents same fails
    exact ⟨id, .inr (.inr ⟨more, short, alsoFails⟩)⟩

end Condition

namespace Engine

/-- Two lists of conditions in which the same contents occur, neither of them empty or too long, are
    legal together. Then their predicates hold of the same contacts, so the numbers and the pages that
    are shown are the same whatever is stored. When the contents stand in the same places, there is one
    predicate and so one statement, or one cause of the rejection. -/
theorem contents_decide (engine : Engine) {as bs : List Condition} (nonempty : as ≠ [])
    (short : as.length ≤ engine.limits.maxConditions) (alsoNonempty : bs ≠ [])
    (alsoShort : bs.length ≤ engine.limits.maxConditions)
    (same : ∀ content, content ∈ as.map Condition.content ↔ content ∈ bs.map Condition.content) :
    ((∃ group, engine.check as = .ok group) ↔ ∃ group, engine.check bs = .ok group) ∧
    (∀ group other, engine.check as = .ok group → engine.check bs = .ok other →
      ∀ organization, ∃ predicate predicate',
        group.toPredicate engine.catalog organization = .ok predicate ∧
        other.toPredicate engine.catalog organization = .ok predicate' ∧
        (∀ contact, predicate.holds contact = predicate'.holds contact) ∧
        ∀ world, (countMatches predicate).perform world = (countMatches predicate').perform world ∧
          ∀ page, (engine.pageMatches predicate page).perform world =
            (engine.pageMatches predicate' page).perform world) ∧
    (as.map Condition.content = bs.map Condition.content →
      (∀ group other, engine.check as = .ok group → engine.check bs = .ok other →
        ∀ organization, ∃ predicate, group.toPredicate engine.catalog organization = .ok predicate ∧
          other.toPredicate engine.catalog organization = .ok predicate) ∧
      ∀ error, engine.check as = .error error →
        ∃ id, engine.check bs = .error ⟨id, error.cause⟩) := by
  refine ⟨?legal, fun group other legal alsoLegal organization => ?alike, fun places => ⟨?one, ?cause⟩⟩
  case legal =>
    simp only [check, Condition.exists_checkAll_iff, nonempty, short, alsoNonempty, alsoShort, ne_eq,
      not_false_eq_true, true_and]
    exact Condition.forall_mem_of_contents same fun c d alike => Condition.legal_of_content alike
  case alike =>
    obtain ⟨predicate, predicate', made, made', alike⟩ :=
      Condition.alike_of_contents same legal alsoLegal organization
    exact ⟨predicate, predicate', made, made', alike.holds, fun world =>
      ⟨alike.perform_countMatches world, fun page => alike.perform_pageMatches engine page world⟩⟩
  case one =>
    intro group other legal alsoLegal organization
    obtain ⟨predicate, made, -⟩ := Condition.exists_toPredicate legal organization
    exact ⟨predicate, made, Condition.toPredicate_of_contents places legal alsoLegal made⟩
  case cause => exact fun error => Condition.cause_of_contents places

end Engine

namespace Reordered

/-- Two contents of which one comes twice. -/
def conditions : List Condition :=
  [⟨"c1", "email", "contains", "@acme.", none⟩, ⟨"c2", "createdAt", "after", "2024-01-05", some .and⟩,
   ⟨"c3", "email", "contains", "@acme.", some .or⟩]

def reordered : List Condition :=
  [⟨"x", "createdAt", "after", "2024-01-05", some .or⟩, ⟨"x", "email", "contains", "@acme.", none⟩]

def engine : Engine := ⟨.standard, .standard⟩

/-- An employee who came after the date. -/
def employee : Contact :=
  { Contact.blank .nil ⟨.nil⟩ (.midnight ⟨2024, 5, 19, by decide⟩) with
    email := some "Ada@ACME.example" }

/-- The employee is matched by either list. -/
theorem employee_matched :
    ∃ group other, engine.check conditions = .ok group ∧ engine.check reordered = .ok other ∧
      ∃ predicate predicate', group.toPredicate .standard ⟨.nil⟩ = .ok predicate ∧
        other.toPredicate .standard ⟨.nil⟩ = .ok predicate' ∧
        predicate.holds employee = true ∧ predicate'.holds employee = true := by
  have same : ∀ content, content ∈ conditions.map Condition.content ↔
      content ∈ reordered.map Condition.content := by
    intro content
    simp only [conditions, reordered, List.map_cons, List.map_nil, List.mem_cons, List.not_mem_nil,
      or_false, Condition.content]
    tauto
  obtain ⟨together, alike, -⟩ :=
    engine.contents_decide (by decide) (by decide) (by decide) (by decide) same
  have legal : engine.check conditions = .ok _ := rfl
  obtain ⟨other, alsoLegal⟩ := together.mp ⟨_, legal⟩
  obtain ⟨predicate, predicate', made, made', holds, -⟩ := alike _ other legal alsoLegal ⟨.nil⟩
  have matched : predicate.holds employee = true := by
    cases made
    decide +kernel
  exact ⟨_, other, legal, alsoLegal, predicate, predicate', made, made', matched,
    holds employee ▸ matched⟩

end Reordered

end ContactSegments
