import ContactSegments.Sql.Statement

/-! # Truth of conditions on rows

What a condition says of a row of a table. A cell may be null, and a test of a null, or of a value
of another kind than the one it is compared with, is neither true nor false. A row meets a
condition that is true of it; one that is unknown of it is not met.
-/

namespace ContactSegments.Sql

/-- What stands in one column of a row. -/
inductive Cell
  | null
  | uuid (value : Uuid)
  | text (value : String)
  | timestamp (value : Instant)
deriving DecidableEq

/-- The cells of a row by the names of their columns. -/
abbrev Row := String → Cell

inductive Truth
  | holds
  | fails
  | unknown
deriving DecidableEq, Repr

namespace Truth

def ofBool (b : Bool) : Truth := if b then .holds else .fails

/-- False wins over unknown, and unknown over true. -/
def and : Truth → Truth → Truth
  | .fails, _ | _, .fails => .fails
  | .unknown, _ | _, .unknown => .unknown
  | .holds, .holds => .holds

/-- All of these together; none of them hold together. -/
def all (truths : List Truth) : Truth := truths.foldr and .holds

end Truth

namespace Cell

/-- How a cell stands to a bound value of the same kind. -/
def compare? : Cell → Parameter → Option Ordering
  | .uuid a, .uuid b => some (compare a b)
  | .text a, .text b => some (compare a b)
  | .timestamp a, .timestamp b => some (compare a.rank b.rank)
  | _, _ => none

/-- A text in lower case; all else as it is. -/
def lower : Cell → Cell
  | .text s => .text (Text.fold s)
  | cell => cell

end Cell

/-- Whether a comparison allows two values to stand so to each other. -/
def Comparison.accepts : Comparison → Ordering → Bool
  | .equal, o => o == .eq
  | .different, o => o != .eq
  | .less, o => o == .lt
  | .atMost, o => o != .gt
  | .greater, o => o == .gt
  | .atLeast, o => o != .lt

/-- The truth of a comparison of a cell with a bound value. -/
def Comparison.truth (comparison : Comparison) (cell : Cell) (parameter : Parameter) : Truth :=
  match cell.compare? parameter with
  | some o => .ofBool (comparison.accepts o)
  | none => .unknown

/-- The value that is bound to a placeholder; the first one is number 1. -/
def bound? (parameters : List Parameter) (placeholder : Nat) : Option Parameter :=
  parameters[placeholder - 1]?

/-- The truth of a test of a row; a test of a placeholder without a value is unknown. -/
def Test.truth (test : Test) (parameters : List Parameter) (row : Row) : Truth :=
  match test with
  | .compare column comparison k =>
    (bound? parameters k).elim .unknown (comparison.truth (row column))
  | .compareLower column comparison k =>
    (bound? parameters k).elim .unknown (comparison.truth (row column).lower)
  | .lowerLike column k =>
    match (row column).lower, bound? parameters k with
    | .text value, some (.text pattern) => .ofBool (Like.accepts pattern.toList value.toList)
    | _, _ => .unknown
  | .isNotNull column => .ofBool (row column != .null)
  | .isAny column k =>
    match row column, bound? parameters k with
    | .uuid value, some (.uuids values) => .ofBool (values.contains value)
    | _, _ => .unknown

def Conjunct.truth (conjunct : Conjunct) (parameters : List Parameter) (row : Row) : Truth :=
  match conjunct with
  | .single test => test.truth parameters row
  | .grouped tests => .all (tests.map (·.truth parameters row))

end ContactSegments.Sql
