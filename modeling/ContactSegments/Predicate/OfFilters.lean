import ContactSegments.Condition
import ContactSegments.Predicate.Basic

/-! # From filters to predicates

Each filter of a group becomes one clause, in order. The field of a filter is looked up again by
its name: the clause reads the attribute that the catalog binds now. A field that is gone, or to
which the operator no longer applies, is an error, and no predicate is made of the rest.
-/

namespace ContactSegments

def Field.target (field : Field) : Target := ⟨field.name, field.attr, field.column⟩

/-- The clause of a text operator. -/
def Target.textClause? (target : Target) (operator : Operator) (value : String) : Option Clause :=
  let needle := Text.fold value
  match operator with
  | .equals => some (.text target .equals needle)
  | .contains => some (.text target .contains needle)
  | .startsWith => some (.text target .startsWith needle)
  | .endsWith => some (.text target .endsWith needle)
  | .notEquals => some (.differs target needle)
  | .on | .before | .after => none

/-- From the first instant of a day up to the first one of the next; the last day has no end. -/
def Target.dayClause (target : Target) (day : Date) : Clause :=
  let upper := match day.next? with
    | some next => .excluded (.midnight next)
    | none => .unbounded
  .within target (.included (.midnight day)) upper

/-- The clause of a date operator; `on` needs a plain calendar date. -/
def Target.dateClause? (target : Target) (operator : Operator) (reading : DateReading) :
    Option Clause :=
  match operator with
  | .on => reading.day.map target.dayClause
  | .before => some (.within target .unbounded (.excluded reading.instant))
  | .after => some (.within target (.excluded reading.instant) .unbounded)
  | .equals | .notEquals | .contains | .startsWith | .endsWith => none

/-- The clause of an operator on a field, if the operator and the value are of the field's type. -/
def Field.clause? (field : Field) (operator : Operator) (value : FieldValue) : Option Clause :=
  match field.type, value with
  | .text, .text s => field.target.textClause? operator s
  | .date, .date reading => field.target.dateClause? operator reading
  | .text, .date _ | .date, .text _ => none

namespace Filter

def toClause (catalog : Catalog) (filter : Filter) : Except EvaluationError Clause :=
  match catalog.find? filter.field.name with
  | none => .error (.unregisteredField filter.field.name)
  | some field =>
    match field.clause? filter.operator filter.value with
    | some clause => .ok clause
    | none => .error (.inapplicable filter.id filter.operator filter.field.name)

end Filter

namespace FilterGroup

/-- The predicate of a group of filters within an organization. -/
def toPredicate (group : FilterGroup) (catalog : Catalog) (organization : OrganizationId) :
    Except EvaluationError Predicate := do
  let clauses ← group.filters.mapM (·.toClause catalog)
  return ⟨organization, clauses⟩

end FilterGroup

namespace Predicate

/-- The contacts of an organization that are listed. -/
def ofMembers (members : List ContactId) (organization : OrganizationId) : Predicate :=
  ⟨organization, [.members (.ofList members)]⟩

end Predicate

end ContactSegments
