import ContactSegments.Field.Basic

/-! # What can go wrong

A request is invalid, its segment does not exist, or a segment that exists cannot be evaluated. The
functions `message` give the wording.
-/

namespace ContactSegments

/-- The characters that a segment's name may have at most. -/
def maxNameLength : Nat := 255

inductive NameFault
  | empty
  | tooLong
deriving DecidableEq, Repr

/-- Why criteria or the parameters of a request are rejected. -/
inductive ValidationCause
  | emptyConditions
  | tooManyConditions (max : Nat)
  | unknownField (name : String)
  | unknownOperator (name : String)
  | operatorNotAllowed (field operator : String)
  | emptyValue
  | invalidDate (value : String)
  | emptyPage
  | pageTooLarge (requested max : Nat)
  | invalidName (fault : NameFault)
deriving DecidableEq, Repr

/-- A rejection, with the condition to which it can be put down. -/
structure ValidationError where
  conditionId : Option String
  cause : ValidationCause
deriving DecidableEq, Repr

/-- Why criteria that are stored or were valid before give no result. -/
inductive EvaluationError
  /-- Stored criteria are no longer valid. -/
  | staleCriteria (error : ValidationError)
  | unregisteredField (name : String)
  | storage (message : String)
  /-- The operator of a condition does not apply to the field as it now is. -/
  | inapplicable (conditionId : String) (operator : Operator) (field : String)
deriving DecidableEq, Repr

inductive SegmentError
  | validation (error : ValidationError)
  /-- There is no such segment, or another organization owns it. -/
  | notFound (id : SegmentId)
  | evaluation (error : EvaluationError)
deriving DecidableEq

def NameFault.message : NameFault → String
  | .empty => "name must not be empty"
  | .tooLong => s!"name exceeds {maxNameLength} characters"

def ValidationCause.message : ValidationCause → String
  | .emptyConditions => "criteria must contain at least one condition"
  | .tooManyConditions max => s!"criteria exceed the maximum of {max} conditions"
  | .unknownField name => s!"unknown field '{name}'"
  | .unknownOperator name => s!"unknown operator '{name}'"
  | .operatorNotAllowed field operator =>
    s!"operator '{operator}' is not allowed for field '{field}'"
  | .emptyValue => "value must not be empty"
  | .invalidDate value => s!"'{value}' is not a valid date"
  | .emptyPage => "page limit must be at least 1"
  | .pageTooLarge requested max => s!"page limit {requested} exceeds the maximum of {max}"
  | .invalidName fault => s!"invalid segment name: {fault.message}"

def ValidationError.message (error : ValidationError) : String :=
  match error.conditionId with
  | some id => s!"Validation error in condition '{id}': {error.cause.message}"
  | none => s!"Validation error: {error.cause.message}"

def EvaluationError.message : EvaluationError → String
  | .staleCriteria error => s!"Stored criteria are no longer valid: {error.message}"
  | .unregisteredField name => s!"Field '{name}' is not registered"
  | .storage message => s!"Storage error: {message}"
  | .inapplicable id operator field =>
    s!"Internal evaluation error: condition '{id}' cannot apply '{operator.name}' " ++
      s!"to field '{field}' as currently registered"

def SegmentError.message : SegmentError → String
  | .validation error => error.message
  | .notFound id => s!"Segment not found: {id.text}"
  | .evaluation error => error.message

end ContactSegments
