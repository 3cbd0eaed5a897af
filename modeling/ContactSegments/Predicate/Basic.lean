import ContactSegments.Contact
import ContactSegments.Text.Folding
import ContactSegments.Text.Search
import Std.Data.ExtTreeSet

/-! # Predicates on contacts

A predicate is a list of clauses within one organization. A contact matches it when it belongs to
the organization and every clause holds of it. A missing text satisfies no clause.
-/

namespace ContactSegments

/-- The attribute that a clause reads, with the name and the column of its field. -/
structure Target where
  name : String
  attr : Attribute
  column : String
deriving DecidableEq, Repr

/-- How a folded value is compared with a needle. -/
inductive TextMode
  | equals
  | contains
  | startsWith
  | endsWith
deriving DecidableEq, Repr

namespace TextMode

def holds (mode : TextMode) (value needle : List Char) : Bool :=
  match mode with
  | .equals => value == needle
  | .contains => Text.occursIn needle value
  | .startsWith => needle.isPrefixOf value
  | .endsWith => needle.isSuffixOf value

end TextMode

/-- One end of a range of time. -/
inductive Bound
  | included (limit : Instant)
  | excluded (limit : Instant)
  | unbounded
deriving DecidableEq

namespace Bound

def allowsAbove (lower : Bound) (t : Instant) : Bool :=
  match lower with
  | .included b => b ≤ t
  | .excluded b => b < t
  | .unbounded => true

def allowsBelow (upper : Bound) (t : Instant) : Bool :=
  match upper with
  | .included b => t ≤ b
  | .excluded b => t < b
  | .unbounded => true

end Bound

/-- A test of one contact. Needles are folded. -/
inductive Clause
  /-- The value is there and compares with the needle. -/
  | text (target : Target) (mode : TextMode) (needle : String)
  /-- The value is there and is not the needle. -/
  | differs (target : Target) (needle : String)
  /-- The time lies between two bounds. -/
  | within (target : Target) (lower upper : Bound)
  /-- The contact is one of those listed. -/
  | members (ids : Std.ExtTreeSet ContactId)

namespace Clause

def holds (clause : Clause) (contact : Contact) : Bool :=
  match clause with
  | .text target mode needle =>
    (contact.text target.attr).any fun v => mode.holds (Text.folded v.toList) needle.toList
  | .differs target needle =>
    (contact.text target.attr).any fun v => Text.folded v.toList != needle.toList
  | .within target lower upper =>
    (contact.timestamp target.attr).any fun t => lower.allowsAbove t && upper.allowsBelow t
  | .members ids => ids.contains contact.id

end Clause

/-- Clauses within an organization. -/
structure Predicate where
  organization : OrganizationId
  clauses : List Clause

namespace Predicate

/-- The contact belongs to the organization and every clause holds of it. -/
def holds (predicate : Predicate) (contact : Contact) : Bool :=
  contact.organization == predicate.organization &&
    predicate.clauses.all fun clause => clause.holds contact

end Predicate

end ContactSegments
