import ContactSegments.Calendar.Form
import ContactSegments.Contact

/-! # Fields, operators and values

A field is a name under which filters address an attribute of contacts. Its type says which
operators apply to it and how the value of a condition is read. Operators are known by their
names.
-/

namespace ContactSegments

/-- The type of a field's values. -/
inductive FieldType
  | text
  | date
deriving DecidableEq, Repr

inductive Operator
  | equals
  | notEquals
  | contains
  | startsWith
  | endsWith
  | on
  | before
  | after
deriving DecidableEq, Repr

namespace FieldType

def all : List FieldType := [.text, .date]

def name : FieldType → String
  | .text => "string"
  | .date => "date"

/-- The operators that apply to fields of a type, in the order in which they are offered. -/
def operators : FieldType → List Operator
  | .text => [.equals, .contains, .startsWith, .endsWith, .notEquals]
  | .date => [.on, .before, .after]

def allows (type : FieldType) (operator : Operator) : Bool := type.operators.contains operator

end FieldType

namespace Operator

def all : List Operator := FieldType.text.operators ++ FieldType.date.operators

def name : Operator → String
  | .equals => "equals"
  | .notEquals => "notEquals"
  | .contains => "contains"
  | .startsWith => "startsWith"
  | .endsWith => "endsWith"
  | .on => "on"
  | .before => "before"
  | .after => "after"

/-- The operator with exactly this name. -/
def ofName? (name : String) : Option Operator := all.find? (·.name == name)

end Operator

/-- The value of a condition, read as its field's type has it. -/
inductive FieldValue
  | text (value : String)
  | date (reading : DateReading)
deriving DecidableEq

/-- A text is taken as it is, a date has to have one of the forms of a date. -/
def FieldType.read? : FieldType → String → Option FieldValue
  | .text, raw => some (.text raw)
  | .date, raw => (DateReading.ofText? raw).map .date

/-- What a field stands for: the type of its values, the attribute that holds them, and the column
    of that attribute in a table of contacts. -/
structure FieldBinding where
  type : FieldType
  attr : Attribute
  column : String
deriving DecidableEq, Repr

/-- A named field. -/
structure Field extends FieldBinding where
  name : String
deriving DecidableEq, Repr

/-- A field as it is shown to those who write conditions. -/
structure FieldDescription where
  name : String
  type : FieldType
  operators : List Operator
deriving DecidableEq, Repr

def Field.describe (field : Field) : FieldDescription :=
  ⟨field.name, field.type, field.type.operators⟩

end ContactSegments
