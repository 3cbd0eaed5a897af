import ContactSegments.Condition
import ContactSegments.Json.Reader

/-! # Conditions as JSON

A condition may leave out its value, which is then empty, and its connective, which is then none.
-/

namespace ContactSegments

namespace Connective

def toJson (connective : Connective) : Json := .string connective.name

def reader : Reader Connective := .named all name

end Connective

namespace Condition

def toJson (c : Condition) : Json :=
  .object
    [("id", .string c.id),
     ("field", .string c.field),
     ("operator", .string c.operator),
     ("value", .string c.value),
     ("logicalOperator", .orNull (c.connective.map Connective.toJson))]

open RecordReader in
def record : RecordReader Condition :=
  Condition.mk <$> required "id" .text <*> required "field" .text <*> required "operator" .text
    <*> optional "value" .text "" <*> optional "logicalOperator" (.nullable Connective.reader) none

def reader : Reader Condition := record.read

end Condition

namespace Criteria

def toJson (criteria : Criteria) : Json :=
  .object [("conditions", .array (criteria.conditions.map Condition.toJson))]

def record : RecordReader Criteria :=
  Criteria.mk <$> .optional "conditions" (.list Condition.reader) []

def reader : Reader Criteria := record.read

end Criteria

end ContactSegments
