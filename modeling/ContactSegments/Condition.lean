import ContactSegments.Error
import ContactSegments.Field.Catalog
import ContactSegments.Text.Blank

/-! # Conditions

A condition is what someone wrote: a field, an operator and a value, all as text. `checkAll` turns
a list of conditions into filters, in which the field is known, the operator applies to it and the
value is read, or reports the first condition that is not legal. Conditions carry a connective,
which is kept and does not change what they mean: all of them have to hold.
-/

namespace ContactSegments

/-- How a condition was joined to the one before it. -/
inductive Connective
  | and
  | or
deriving DecidableEq, Repr

namespace Connective

def all : List Connective := [.and, .or]

def name : Connective → String
  | .and => "AND"
  | .or => "OR"

end Connective

/-- A condition as it was written. -/
structure Condition where
  id : String
  field : String
  operator : String
  value : String
  connective : Option Connective
deriving DecidableEq, Repr

/-- The conditions of a segment. -/
structure Criteria where
  conditions : List Condition
deriving DecidableEq, Repr

namespace Criteria

def empty : Criteria := ⟨[]⟩

/-- One more condition; conditions are numbered from `c1` on and joined by "and". -/
def and (criteria : Criteria) (field : String) (operator : Operator) (value : String) :
    Criteria where
  conditions := criteria.conditions ++
    [{ id := s!"c{criteria.conditions.length + 1}"
       field
       operator := operator.name
       value
       connective := if criteria.conditions.isEmpty then none else some .and }]

end Criteria

/-- A checked condition; the field is the one of the catalog at the time of the check. -/
structure Filter where
  id : String
  field : Field
  operator : Operator
  value : FieldValue
  connective : Option Connective
deriving DecidableEq

/-- The filters of a non-empty list of conditions, in their order. -/
structure FilterGroup where
  filters : List Filter
  filters_ne_nil : filters ≠ []
deriving DecidableEq

namespace Condition

/-- The value of a condition as its field and operator need it: a text has a character that is not
    blank, a date has the form of one, and the operator `on` takes nothing but a plain date. -/
def readValue (type : FieldType) (operator : Operator) (value : String) :
    Except ValidationCause FieldValue :=
  if Text.isBlankText value then .error .emptyValue
  else
    match type.read? value with
    | some (.text s) => .ok (.text s)
    | some (.date reading) =>
      if operator = .on ∧ reading.day = none then .error (.invalidDate value)
      else .ok (.date reading)
    | none => .error (.invalidDate value)

/-- The filter that a condition writes, or the first thing that is wrong with it. -/
def check (catalog : Catalog) (c : Condition) : Except ValidationCause Filter :=
  match catalog.find? c.field with
  | none => .error (.unknownField c.field)
  | some field =>
    match Operator.ofName? c.operator with
    | none => .error (.unknownOperator c.operator)
    | some operator =>
      if field.type.allows operator then
        (readValue field.type operator c.value).map
          ({ id := c.id, field, operator, value := ·, connective := c.connective })
      else .error (.operatorNotAllowed field.name c.operator)

/-- As `check`, with the condition named in the error. -/
def toFilter (catalog : Catalog) (c : Condition) : Except ValidationError Filter :=
  (c.check catalog).mapError (⟨some c.id, ·⟩)

/-- The filters of the conditions in their order, or the error of the first illegal one. -/
def toFilters (catalog : Catalog) (conditions : List Condition) :
    Except ValidationError (List Filter) :=
  conditions.mapM (·.toFilter catalog)

/-- Checks a list of conditions, of which there is at least one and at most `max`. -/
def checkAll (catalog : Catalog) (max : Nat) : List Condition → Except ValidationError FilterGroup
  | [] => .error ⟨none, .emptyConditions⟩
  | c :: cs =>
    if max < cs.length + 1 then .error ⟨none, .tooManyConditions max⟩
    else do
      let filter ← c.toFilter catalog
      let filters ← toFilters catalog cs
      return ⟨filter :: filters, List.cons_ne_nil filter filters⟩

end Condition

end ContactSegments
