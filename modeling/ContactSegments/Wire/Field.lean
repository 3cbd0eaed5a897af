import ContactSegments.Field.Basic
import ContactSegments.Json.Reader

/-! # Fields and names as JSON

Operators have names of their own in JSON. They are the names by which conditions know them.
-/

namespace ContactSegments

namespace FieldType

def toJson (type : FieldType) : Json := .string type.name

def reader : Reader FieldType := .named all name

end FieldType

namespace Operator

/-- What stands for an operator in JSON. -/
def wireName : Operator → String
  | .equals => "equals"
  | .notEquals => "notEquals"
  | .contains => "contains"
  | .startsWith => "startsWith"
  | .endsWith => "endsWith"
  | .on => "on"
  | .before => "before"
  | .after => "after"

@[simp]
theorem wireName_eq_name (operator : Operator) : operator.wireName = operator.name := by
  cases operator <;> rfl

def toJson (operator : Operator) : Json := .string operator.wireName

def reader : Reader Operator := .named all wireName

end Operator

namespace Attribute

def toJson (attr : Attribute) : Json := .string attr.name

def reader : Reader Attribute := .named all name

end Attribute

namespace FieldDescription

def toJson (description : FieldDescription) : Json :=
  .object
    [("name", .string description.name),
     ("valueType", description.type.toJson),
     ("allowedOperators", .array (description.operators.map Operator.toJson))]

end FieldDescription

end ContactSegments
