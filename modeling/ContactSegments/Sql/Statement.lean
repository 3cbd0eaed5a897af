import ContactSegments.Calendar.Written
import ContactSegments.Predicate.Basic
import ContactSegments.Sql.Like

/-! # Predicates as SQL

A predicate becomes the condition of a statement on a table of contacts. Values never stand in the
text of the statement: the text has a placeholder `$1`, `$2`, … for each of them, and the values are
bound in that order. The first one is the organization, whose test comes before all others.
-/

namespace ContactSegments.Sql

/-- A value that is bound to a placeholder. -/
inductive Parameter
  | uuid (value : Uuid)
  | uuids (values : List Uuid)
  | text (value : String)
  | timestamp (value : Instant)
deriving DecidableEq

inductive Comparison
  | equal
  | different
  | less
  | atMost
  | greater
  | atLeast
deriving DecidableEq, Repr

/-- A test of one row. Each names a column and the placeholder of the value that it is compared
    with. -/
inductive Test
  | compare (column : String) (comparison : Comparison) (placeholder : Nat)
  | compareLower (column : String) (comparison : Comparison) (placeholder : Nat)
  | lowerLike (column : String) (placeholder : Nat)
  | isNotNull (column : String)
  | isAny (column : String) (placeholder : Nat)
deriving DecidableEq, Repr

/-- A test, or several tests in parentheses that have to hold together. -/
inductive Conjunct
  | single (test : Test)
  | grouped (tests : List Test)
deriving DecidableEq, Repr

/-- The condition of a statement: conjuncts that have to hold together, and the values of their
    placeholders in order. -/
structure Where where
  conjuncts : List Conjunct
  parameters : List Parameter
deriving DecidableEq

def Comparison.text : Comparison → String
  | .equal => "="
  | .different => "<>"
  | .less => "<"
  | .atMost => "<="
  | .greater => ">"
  | .atLeast => ">="

def placeholderText (k : Nat) : String := "$" ++ String.ofList (Nat.toDigits 10 k)

def Test.text : Test → String
  | .compare column comparison k => s!"{column} {comparison.text} {placeholderText k}"
  | .compareLower column comparison k =>
    s!"lower({column}) {comparison.text} {placeholderText k}"
  | .lowerLike column k => s!"lower({column}) LIKE {placeholderText k}"
  | .isNotNull column => s!"{column} IS NOT NULL"
  | .isAny column k => s!"{column} = ANY({placeholderText k})"

def Conjunct.text : Conjunct → String
  | .single test => test.text
  | .grouped tests => "(" ++ " AND ".intercalate (tests.map Test.text) ++ ")"

namespace Where

def text (condition : Where) : String :=
  " AND ".intercalate (condition.conjuncts.map Conjunct.text)

/-- The number of rows that meet the condition. -/
def countQuery (condition : Where) (table : String) : String :=
  s!"SELECT count(*) FROM {table} WHERE {condition.text}"

/-- The number of rows that meet the condition, and one page of their ids, in one row. Limit and
    offset are the two parameters after those of the condition. -/
def membershipQuery (condition : Where) (table : String) : String :=
  let limit := placeholderText (condition.parameters.length + 1)
  let offset := placeholderText (condition.parameters.length + 2)
  s!"WITH matched AS (SELECT id FROM {table} WHERE {condition.text}) " ++
    "SELECT (SELECT count(*) FROM matched) AS total, " ++
    s!"ARRAY(SELECT id FROM matched ORDER BY id LIMIT {limit} OFFSET {offset}) AS ids"

end Where

end ContactSegments.Sql

namespace ContactSegments

open Sql

/-- The pattern that a folded value matches in the given mode, or the value itself. -/
def TextMode.parameter (mode : TextMode) (needle : String) : Parameter :=
  let escaped := Like.escape needle.toList
  match mode with
  | .equals => .text needle
  | .contains => .text (String.ofList ('%' :: escaped ++ ['%']))
  | .startsWith => .text (String.ofList (escaped ++ ['%']))
  | .endsWith => .text (String.ofList ('%' :: escaped))

/-- The test of a bound that is there, with its value. -/
def Bound.test? (column : String) (included excluded : Comparison) (next : Nat) :
    Bound → Option (Test × Parameter)
  | .included t => some (.compare column included next, .timestamp t)
  | .excluded t => some (.compare column excluded next, .timestamp t)
  | .unbounded => none

/-- The conjunct of a clause and the values that it binds, of which the first one has the
    placeholder `next`. -/
def Clause.toSql (clause : Clause) (next : Nat) : Conjunct × List Parameter :=
  match clause with
  | .text target mode needle =>
    let test := match mode with
      | .equals => .compareLower target.column .equal next
      | _ => .lowerLike target.column next
    (.single test, [mode.parameter needle])
  | .differs target needle =>
    (.grouped [.isNotNull target.column, .compareLower target.column .different next],
      [.text needle])
  | .within target lower upper =>
    let first := (lower.test? target.column .atLeast .greater next).toList
    let second := (upper.test? target.column .atMost .less (next + first.length)).toList
    let both := first ++ second
    (if both.isEmpty then .single (.isNotNull target.column) else .grouped (both.map (·.1)),
      both.map (·.2))
  | .members ids => (.single (.isAny "id" next), [.uuids ids.toList])

/-- The conjuncts of clauses and the values that they bind, from the placeholder `next` on. -/
def Clause.allToSql (next : Nat) : List Clause → List Conjunct × List Parameter
  | [] => ([], [])
  | clause :: clauses =>
    let (conjunct, parameters) := clause.toSql next
    let (conjuncts, more) := allToSql (next + parameters.length) clauses
    (conjunct :: conjuncts, parameters ++ more)

def Predicate.toSql (predicate : Predicate) : Where :=
  let (conjuncts, parameters) := Clause.allToSql 2 predicate.clauses
  { conjuncts := .single (.compare "organization_id" .equal 1) :: conjuncts
    parameters := .uuid predicate.organization.uuid :: parameters }

end ContactSegments
