import ContactSegments.Proofs.Sql.Meaning

/-! # Values and placeholders

The statements of a predicate depend on the shape of its clauses alone: which values they compare
with cannot be told from the text. Each value is bound once, behind the placeholder of the test that it
belongs to, and the placeholders of a statement are numbered from left to right.
-/

namespace ContactSegments

open Sql Text

inductive Sql.ParameterKind
  | uuid
  | uuids
  | text
  | timestamp
deriving DecidableEq, Repr

def Sql.Parameter.kind : Parameter → ParameterKind
  | .uuid _ => .uuid
  | .uuids _ => .uuids
  | .text _ => .text
  | .timestamp _ => .timestamp

/-- Both ends are there or neither is, and both are within the range or neither is. -/
inductive Bound.SameShape : Bound → Bound → Prop
  | included (limit limit' : Instant) : SameShape (.included limit) (.included limit')
  | excluded (limit limit' : Instant) : SameShape (.excluded limit) (.excluded limit')
  | unbounded : SameShape .unbounded .unbounded

/-- Clauses that differ in the values only that they compare with. -/
inductive Clause.SameShape : Clause → Clause → Prop
  | text {target target' : Target} (mode : TextMode) (needle needle' : String)
      (column : target.column = target'.column) :
      SameShape (.text target mode needle) (.text target' mode needle')
  | differs {target target' : Target} (needle needle' : String)
      (column : target.column = target'.column) :
      SameShape (.differs target needle) (.differs target' needle')
  | within {target target' : Target} {lower lower' upper upper' : Bound}
      (column : target.column = target'.column) (below : lower.SameShape lower')
      (above : upper.SameShape upper') :
      SameShape (.within target lower upper) (.within target' lower' upper')
  | members (ids ids' : Std.ExtTreeSet ContactId) : SameShape (.members ids) (.members ids')

/-- Predicates whose clauses have the same shapes one by one. -/
def Predicate.SameShape (predicate other : Predicate) : Prop :=
  List.Forall₂ Clause.SameShape predicate.clauses other.clauses

theorem TextMode.kind_parameter (mode : TextMode) (needle : String) :
    (mode.parameter needle).kind = .text := by
  cases mode <;> rfl

theorem Clause.SameShape.toSql {clause other : Clause} (same : clause.SameShape other) (next : Nat) :
    (clause.toSql next).1 = (other.toSql next).1 ∧
      (clause.toSql next).2.map Parameter.kind = (other.toSql next).2.map Parameter.kind := by
  cases same with
  | text mode needle needle' column =>
      simp [Clause.toSql, column, TextMode.kind_parameter]
  | differs needle needle' column =>
      simp [Clause.toSql, column, Parameter.kind]
  | within column below above =>
      cases below <;> cases above <;> simp [Clause.toSql, Bound.test?, column, Parameter.kind]
  | members ids ids' => exact ⟨rfl, rfl⟩

theorem Clause.SameShape.allToSql {clauses others : List Clause}
    (same : List.Forall₂ Clause.SameShape clauses others) (next : Nat) :
    (Clause.allToSql next clauses).1 = (Clause.allToSql next others).1 ∧
      (Clause.allToSql next clauses).2.map Parameter.kind =
        (Clause.allToSql next others).2.map Parameter.kind := by
  induction same generalizing next with
  | nil => exact ⟨rfl, rfl⟩
  | @cons clause other clauses others first _ ih =>
      obtain ⟨conjunct, kinds⟩ := first.toSql next
      have length : (clause.toSql next).2.length = (other.toSql next).2.length := by
        simpa using congrArg List.length kinds
      obtain ⟨conjuncts, more⟩ := ih (next + (other.toSql next).2.length)
      simp only [Clause.allToSql, List.map_append, conjunct, kinds, length, conjuncts, more, and_self]

theorem Predicate.SameShape.toSql {predicate other : Predicate} (same : predicate.SameShape other) :
    predicate.toSql.conjuncts = other.toSql.conjuncts ∧
      predicate.toSql.parameters.map Parameter.kind = other.toSql.parameters.map Parameter.kind := by
  obtain ⟨conjuncts, kinds⟩ := Clause.SameShape.allToSql same 2
  simp only [Predicate.toSql, conjuncts, kinds, List.map_cons, Parameter.kind, and_self]

/-- Predicates of the same shape have the same statements. -/
theorem Predicate.SameShape.statements {predicate other : Predicate}
    (same : predicate.SameShape other) :
    other.toSql.text = predicate.toSql.text ∧
      (∀ table, other.toSql.countQuery table = predicate.toSql.countQuery table ∧
        other.toSql.membershipQuery table = predicate.toSql.membershipQuery table) ∧
      other.toSql.parameters.map Parameter.kind = predicate.toSql.parameters.map Parameter.kind := by
  obtain ⟨conjuncts, kinds⟩ := same.toSql
  have length : predicate.toSql.parameters.length = other.toSql.parameters.length := by
    simpa using congrArg List.length kinds
  have text : other.toSql.text = predicate.toSql.text := by
    rw [Where.text, Where.text, conjuncts]
  refine ⟨text, fun table => ⟨?_, ?_⟩, kinds.symm⟩
  · unfold Where.countQuery
    rw [text]
  · unfold Where.membershipQuery
    rw [text, length]

namespace Sql

/-- The numbers of the placeholders of a text, from left to right. Each dollar sign begins one. -/
def placeholders : List Char → List Nat
  | [] => []
  | c :: cs =>
    if c = '$' then Nat.ofDigitChars 10 (cs.takeWhile Char.isDigit) 0 :: placeholders cs
    else placeholders cs

theorem placeholders_append (front : List Char) {rest : List Char} (halts : Halts Char.isDigit rest) :
    placeholders (front ++ rest) = placeholders front ++ placeholders rest := by
  have nothing : ∀ c ∈ ([] : List Char), c.isDigit = true := nofun
  have stopped : rest.takeWhile Char.isDigit = [] := takeWhile_append_halts nothing halts
  induction front with
  | nil => rfl
  | cons c front ih =>
      have number : (front ++ rest).takeWhile Char.isDigit = front.takeWhile Char.isDigit := by
        rw [List.takeWhile_append, stopped, List.append_nil]
        split
        · rename_i all
          exact ((List.takeWhile_prefix _).eq_of_length all).symm
        · rfl
      simp only [List.cons_append, placeholders, number, ih]
      split <;> rfl

theorem placeholders_plain_append {front : List Char} (plain : '$' ∉ front) (rest : List Char) :
    placeholders (front ++ rest) = placeholders rest := by
  induction front with
  | nil => rfl
  | cons c front ih =>
      rw [List.mem_cons, not_or] at plain
      obtain ⟨other, plain⟩ := plain
      simp only [List.cons_append, placeholders, Ne.symm other, if_false, ih plain]

theorem placeholders_plain {cs : List Char} (plain : '$' ∉ cs) : placeholders cs = [] := by
  rw [← List.append_nil cs, placeholders_plain_append plain]
  rfl

theorem placeholders_numbered (k : Nat) {rest : List Char} (halts : Halts Char.isDigit rest) :
    placeholders ((placeholderText k).toList ++ rest) = k :: placeholders rest := by
  have digits : ∀ c ∈ Nat.toDigits 10 k, c.isDigit = true :=
    fun c within => Nat.isDigit_of_mem_toDigits (by decide) (by decide) within
  have plain : '$' ∉ Nat.toDigits 10 k := fun within => absurd (digits '$' within) (by decide)
  have text : (placeholderText k).toList = '$' :: Nat.toDigits 10 k := by
    simp [placeholderText]
  rw [text, List.cons_append, placeholders, if_pos rfl, takeWhile_append_halts digits halts,
    Nat.ofDigitChars_ten_toDigits, placeholders_plain_append plain]

theorem placeholders_joined (texts : List (List Char)) :
    placeholders (separator.intercalate texts) = texts.flatMap placeholders := by
  induction texts with
  | nil => rfl
  | cons text texts ih =>
      cases texts with
      | nil => simp
      | cons next texts =>
          have blank : Halts Char.isDigit (separator ++ separator.intercalate (next :: texts)) :=
            .cons rfl
          have plain : '$' ∉ separator := by decide
          rw [List.intercalate_cons_cons, List.append_assoc, placeholders_append text blank,
            placeholders_plain_append plain, ih, List.flatMap_cons (x := text)]

theorem IsName.plain {name : String} (named : IsName name) : '$' ∉ name.toList :=
  fun within => absurd (named.2 '$' within) (by decide)

/-- The number of the placeholder of a test, if it has one. -/
def Test.numbers : Test → List Nat
  | .compare _ _ k | .compareLower _ _ k | .lowerLike _ k | .isAny _ k => [k]
  | .isNotNull _ => []

def Conjunct.tests : Conjunct → List Test
  | .single test => [test]
  | .grouped tests => tests

def Conjunct.numbers (conjunct : Conjunct) : List Nat := conjunct.tests.flatMap Test.numbers

theorem Comparison.plain (comparison : Comparison) : '$' ∉ comparison.text.toList := by
  cases comparison <;> decide

/-- A placeholder between texts without any. -/
theorem placeholders_between {front rest : List Char} (plain : '$' ∉ front) (k : Nat)
    (halts : Halts Char.isDigit rest) (plain' : '$' ∉ rest) :
    placeholders (front ++ ((placeholderText k).toList ++ rest)) = [k] := by
  rw [placeholders_plain_append plain, placeholders_numbered k halts, placeholders_plain plain']

theorem Test.placeholders_text {test : Test} (named : IsName test.column) :
    placeholders test.text.toList = test.numbers := by
  cases test with
  | compare column comparison k =>
      have front : '$' ∉ column.toList ++ ' ' :: (comparison.text.toList ++ [' ']) := by
        simpa [Test.column, comparison.plain] using named.plain
      rw [Test.numbers, ← placeholders_between front k .nil (by simp)]
      simp [Test.text, toString]
  | compareLower column comparison k =>
      have front : '$' ∉ "lower(".toList ++
          (column.toList ++ ')' :: ' ' :: (comparison.text.toList ++ [' '])) := by
        simpa [Test.column, comparison.plain] using named.plain
      rw [Test.numbers, ← placeholders_between front k .nil (by simp)]
      simp [Test.text, toString]
  | lowerLike column k =>
      have front : '$' ∉ "lower(".toList ++ (column.toList ++ ") LIKE ".toList) := by
        simpa [Test.column] using named.plain
      rw [Test.numbers, ← placeholders_between front k .nil (by simp)]
      simp [Test.text, toString]
  | isNotNull column =>
      have text : '$' ∉ (Test.isNotNull column).text.toList := by
        simpa [Test.text, toString, Test.column] using named.plain
      exact placeholders_plain text
  | isAny column k =>
      have front : '$' ∉ column.toList ++ " = ANY(".toList := by
        simpa [Test.column] using named.plain
      rw [Test.numbers, ← placeholders_between front k (.cons rfl) (show '$' ∉ [')'] by simp)]
      simp [Test.text, toString]

theorem Conjunct.placeholders_text {conjunct : Conjunct} (plain : conjunct.Plain) :
    placeholders conjunct.text.toList = conjunct.numbers := by
  cases conjunct with
  | single test =>
      rw [Conjunct.text, Test.placeholders_text plain]
      exact (List.flatMap_singleton ..).symm
  | grouped tests =>
      have closed : Halts Char.isDigit [')'] := .cons rfl
      rw [Conjunct.toList_text_grouped, ← List.singleton_append,
        placeholders_plain_append (by simp), placeholders_append _ closed, placeholders_joined,
        placeholders_plain (show '$' ∉ [')'] by simp), List.append_nil, List.flatMap_map]
      exact List.flatMap_congr fun test within => Test.placeholders_text (plain.2 test within)

theorem Where.placeholders_text {condition : Where}
    (plain : ∀ conjunct ∈ condition.conjuncts, conjunct.Plain) :
    placeholders condition.text.toList = condition.conjuncts.flatMap Conjunct.numbers := by
  rw [Where.toList_text, placeholders_joined, List.flatMap_map]
  exact List.flatMap_congr fun conjunct within => Conjunct.placeholders_text (plain conjunct within)

theorem Where.placeholders_countQuery (condition : Where) {table : String} (named : IsName table) :
    placeholders (condition.countQuery table).toList = placeholders condition.text.toList := by
  have written : condition.countQuery table =
      "SELECT count(*) FROM " ++ table ++ " WHERE " ++ condition.text := rfl
  have front : '$' ∉ ("SELECT count(*) FROM " ++ table ++ " WHERE ").toList := by
    simp only [String.toList_append, List.mem_append, named.plain, or_false, not_or]
    decide
  rw [written, String.toList_append, placeholders_plain_append front]

/-- Of a membership query, what stands before the limit. -/
def Where.beforeLimit (condition : Where) (table : String) : String :=
  "WITH matched AS (SELECT id FROM " ++ table ++ " WHERE " ++ condition.text ++
    (") SELECT (SELECT count(*) FROM matched) AS total, " ++
      "ARRAY(SELECT id FROM matched ORDER BY id")

theorem Where.membershipQuery_eq (condition : Where) (table : String) :
    condition.membershipQuery table =
      condition.beforeLimit table ++
        (" LIMIT " ++ (placeholderText (condition.parameters.length + 1) ++
          (" OFFSET " ++ (placeholderText (condition.parameters.length + 2) ++ ") AS ids")))) := by
  have limit : "ARRAY(SELECT id FROM matched ORDER BY id LIMIT " =
      "ARRAY(SELECT id FROM matched ORDER BY id" ++ " LIMIT " := by decide
  have selects : ") SELECT (SELECT count(*) FROM matched) AS total, " =
      ") " ++ "SELECT (SELECT count(*) FROM matched) AS total, " := by decide
  unfold Where.membershipQuery Where.beforeLimit
  rw [selects, limit]
  simp only [toString, String.append_assoc]

theorem Where.placeholders_beforeLimit (condition : Where) {table : String} (named : IsName table) :
    placeholders (condition.beforeLimit table).toList = placeholders condition.text.toList := by
  have front : '$' ∉ ("WITH matched AS (SELECT id FROM " ++ table ++ " WHERE ").toList := by
    simp only [String.toList_append, List.mem_append, named.plain, or_false, not_or]
    decide
  have rest : '$' ∉ (") SELECT (SELECT count(*) FROM matched) AS total, " ++
      "ARRAY(SELECT id FROM matched ORDER BY id").toList := by decide
  have closed : Halts Char.isDigit (") SELECT (SELECT count(*) FROM matched) AS total, " ++
      "ARRAY(SELECT id FROM matched ORDER BY id").toList := by
    rw [String.toList_append]
    exact .cons rfl
  unfold Where.beforeLimit
  rw [String.toList_append, String.toList_append, List.append_assoc, placeholders_plain_append front,
    placeholders_append _ closed, placeholders_plain rest, List.append_nil]

/-- Limit and offset have the two placeholders after those of the condition. -/
theorem Where.placeholders_membershipQuery (condition : Where) {table : String}
    (named : IsName table) :
    placeholders (condition.membershipQuery table).toList =
      placeholders condition.text.toList ++
        [condition.parameters.length + 1, condition.parameters.length + 2] := by
  have closed : Halts Char.isDigit ") AS ids".toList := .cons rfl
  have offset : ∀ k, placeholders (" OFFSET ".toList ++
      ((placeholderText k).toList ++ ") AS ids".toList)) = [k] :=
    fun k => placeholders_between (by decide) k closed (by decide)
  have second : Halts Char.isDigit (" OFFSET ".toList ++
      ((placeholderText (condition.parameters.length + 2)).toList ++ ") AS ids".toList)) := .cons rfl
  have first : Halts Char.isDigit (" LIMIT ".toList ++
      ((placeholderText (condition.parameters.length + 1)).toList ++ (" OFFSET ".toList ++
        ((placeholderText (condition.parameters.length + 2)).toList ++ ") AS ids".toList)))) :=
    .cons rfl
  simp only [Where.membershipQuery_eq, String.toList_append]
  rw [placeholders_append _ first, Where.placeholders_beforeLimit condition named,
    placeholders_plain_append (by decide), placeholders_numbered _ second, offset]

end Sql

theorem Clause.numbers_toSql (clause : Clause) (next : Nat) :
    (clause.toSql next).1.numbers = List.range' next (clause.toSql next).2.length := by
  cases clause with
  | text target mode needle => cases mode <;> rfl
  | differs target needle => rfl
  | within target lower upper => cases lower <;> cases upper <;> rfl
  | members ids => rfl

theorem Clause.numbers_allToSql (clauses : List Clause) (next : Nat) :
    (Clause.allToSql next clauses).1.flatMap Conjunct.numbers =
      List.range' next (Clause.allToSql next clauses).2.length := by
  induction clauses generalizing next with
  | nil => rfl
  | cons clause clauses ih =>
      simp only [Clause.allToSql, List.flatMap_cons, List.length_append, Clause.numbers_toSql, ih]
      exact List.range'_append_1

/-- A condition has the placeholders of its values, one after the other. -/
theorem Predicate.placeholders_toSql {predicate : Predicate}
    (plain : ∀ conjunct ∈ predicate.toSql.conjuncts, conjunct.Plain) :
    placeholders predicate.toSql.text.toList = List.range' 1 predicate.toSql.parameters.length := by
  rw [Where.placeholders_text plain]
  simp only [Predicate.toSql, List.flatMap_cons, Clause.numbers_allToSql, List.length_cons]
  rfl

theorem Predicate.Compiled.plain_toSql {catalog : Catalog} {predicate : Predicate}
    (compiled : predicate.Compiled catalog)
    (named : ∀ name field, catalog.find? name = some field → IsName field.column) :
    ∀ conjunct ∈ predicate.toSql.conjuncts, conjunct.Plain := by
  have clauses := Clause.plain_allToSql (compiled.named named) 2
  simp only [Predicate.toSql]
  rw [List.forall_mem_cons]
  exact ⟨isName_organization_id, clauses⟩

/-- A test with the value that it compares with. -/
inductive Sql.FilledTest
  | compare (column : String) (comparison : Comparison) (value : Parameter)
  | compareLower (column : String) (comparison : Comparison) (value : Parameter)
  | lowerLike (column : String) (pattern : Parameter)
  | isNotNull (column : String)
  | isAny (column : String) (values : Parameter)
deriving DecidableEq

/-- The test with the value that is bound to its placeholder. -/
def Sql.Test.filled? (parameters : List Parameter) : Test → Option FilledTest
  | .compare column comparison k => (bound? parameters k).map (.compare column comparison)
  | .compareLower column comparison k => (bound? parameters k).map (.compareLower column comparison)
  | .lowerLike column k => (bound? parameters k).map (.lowerLike column)
  | .isNotNull column => some (.isNotNull column)
  | .isAny column k => (bound? parameters k).map (.isAny column)

def Sql.Conjunct.filled? (parameters : List Parameter) (conjunct : Conjunct) :
    Option (List FilledTest) :=
  conjunct.tests.mapM (·.filled? parameters)

/-- The test of a bound that is there. -/
def Bound.ends (column : String) (included excluded : Comparison) : Bound → List FilledTest
  | .included t => [.compare column included (.timestamp t)]
  | .excluded t => [.compare column excluded (.timestamp t)]
  | .unbounded => []

/-- The tests of a clause with the values that it has itself. -/
def Clause.filled : Clause → List FilledTest
  | .text target mode needle =>
    match mode with
    | .equals => [.compareLower target.column .equal (.text needle)]
    | _ => [.lowerLike target.column (mode.parameter needle)]
  | .differs target needle =>
    [.isNotNull target.column, .compareLower target.column .different (.text needle)]
  | .within target lower upper =>
    match lower.ends target.column .atLeast .greater ++ upper.ends target.column .atMost .less with
    | [] => [.isNotNull target.column]
    | ends => ends
  | .members ids => [.isAny "id" (.uuids ids.toList)]

theorem Clause.filled_toSql (clause : Clause) (before after : List Parameter) :
    (clause.toSql (before.length + 1)).1.filled?
        (before ++ (clause.toSql (before.length + 1)).2 ++ after) = some clause.filled := by
  have second : ∀ p q, bound? (before ++ p :: q :: after) (before.length + 1 + 1) = some q := by
    simp [bound?]
  cases clause with
  | text target mode needle =>
      cases mode <;>
        simp [Clause.toSql, Conjunct.filled?, Conjunct.tests, Test.filled?, bound?_append, Clause.filled,
          TextMode.parameter]
  | differs target needle =>
      simp [Clause.toSql, Conjunct.filled?, Conjunct.tests, Test.filled?, bound?_append, Clause.filled]
  | within target lower upper =>
      cases lower <;> cases upper <;>
        simp [Clause.toSql, Bound.test?, Conjunct.filled?, Conjunct.tests, Test.filled?, bound?_append,
          second, Clause.filled, Bound.ends]
  | members ids =>
      simp [Clause.toSql, Conjunct.filled?, Conjunct.tests, Test.filled?, bound?_append, Clause.filled]

theorem Clause.filled_allToSql (clauses : List Clause) (before after : List Parameter) :
    let written := Clause.allToSql (before.length + 1) clauses
    List.Forall₂ (fun clause conjunct =>
      Conjunct.filled? (before ++ written.2 ++ after) conjunct = some clause.filled)
      clauses written.1 := by
  induction clauses generalizing before with
  | nil => exact .nil
  | cons clause clauses ih =>
      have first := clause.filled_toSql before
        ((Clause.allToSql ((before ++ (clause.toSql (before.length + 1)).2).length + 1) clauses).2 ++
          after)
      have others := ih (before ++ (clause.toSql (before.length + 1)).2)
      rw [Clause.allToSql_cons]
      simp only [List.append_assoc] at first others ⊢
      exact .cons first others

/-- The text of a statement does not depend on the values that the predicate compares with, and
    neither do the kinds of its parameters. Each parameter has one placeholder, numbered from left to
    right, in the test of the clause that it comes from; the first is the organization, whose test comes
    before all others. A membership query has two placeholders more, for limit and offset. -/
theorem Predicate.toSql_binds (predicate : Predicate) :
    (∀ other : Predicate, predicate.SameShape other →
      other.toSql.text = predicate.toSql.text ∧
      (∀ table, other.toSql.countQuery table = predicate.toSql.countQuery table ∧
        other.toSql.membershipQuery table = predicate.toSql.membershipQuery table) ∧
      other.toSql.parameters.map Parameter.kind = predicate.toSql.parameters.map Parameter.kind) ∧
    ∀ catalog, predicate.Compiled catalog →
      (∀ name field, catalog.find? name = some field → IsName field.column) →
      let condition := predicate.toSql
      let count := condition.parameters.length
      placeholders condition.text.toList = List.range' 1 count ∧
      bound? condition.parameters 1 = some (.uuid predicate.organization.uuid) ∧
      (∃ conjuncts,
        conjunctsOfText? condition.text =
          some (.single (.compare "organization_id" .equal 1) :: conjuncts) ∧
        List.Forall₂ (fun clause conjunct =>
          conjunct.filled? condition.parameters = some clause.filled) predicate.clauses conjuncts) ∧
      ∀ table, IsName table →
        placeholders (condition.countQuery table).toList = List.range' 1 count ∧
        placeholders (condition.membershipQuery table).toList = List.range' 1 (count + 2) ∧
        ∃ front, placeholders front.toList = List.range' 1 count ∧
          condition.membershipQuery table =
            front ++ (" LIMIT " ++ (placeholderText (count + 1) ++
              (" OFFSET " ++ (placeholderText (count + 2) ++ ") AS ids")))) := by
  refine ⟨fun _ same => same.statements, fun catalog compiled named => ?_⟩
  have plain := compiled.plain_toSql named
  have numbers := Predicate.placeholders_toSql plain
  have filled := Clause.filled_allToSql predicate.clauses [.uuid predicate.organization.uuid] []
  simp only [List.append_nil] at filled
  refine ⟨numbers, rfl, ⟨_, conjunctsOfText?_text (List.cons_ne_nil _ _) plain, filled⟩,
    fun table named => ⟨?_, ?_, predicate.toSql.beforeLimit table, ?_, ?_⟩⟩
  · rw [Where.placeholders_countQuery _ named, numbers]
  · rw [Where.placeholders_membershipQuery _ named, numbers, ← List.range'_append_1, Nat.add_comm 1]
    rfl
  · rw [Where.placeholders_beforeLimit _ named, numbers]
  · exact Where.membershipQuery_eq _ table

/-- Needles that look like parts of a statement. -/
def hostilePredicate : Predicate where
  organization := ⟨⟨0x0b, by decide⟩⟩
  clauses :=
    [.text ⟨"email", .email, "email"⟩ .contains "' or $1 = $1; --",
     .differs ⟨"companyName", .companyName, "company_name"⟩ "$2) or (true",
     .within ⟨"createdAt", .createdAt, "created_at"⟩ (.included (.midnight ⟨1999, 12, 31, by decide⟩))
      (.excluded (.midnight offerDay))]

theorem hostilePredicate_binds :
    offerPredicate.Compiled .standard ∧ offerPredicate.SameShape hostilePredicate ∧
      hostilePredicate.toSql.text = offerPredicate.toSql.text ∧
      hostilePredicate.toSql.parameters ≠ offerPredicate.toSql.parameters ∧
      IsName "contacts" ∧
      placeholders (offerPredicate.toSql.membershipQuery "contacts").toList =
        [1, 2, 3, 4, 5, 6, 7] := by
  have made : offerGroup.toPredicate .standard ⟨.nil⟩ = .ok offerPredicate := rfl
  have compiled : offerPredicate.Compiled .standard := .criteria made
  have same : offerPredicate.SameShape hostilePredicate :=
    .cons (.text _ _ _ rfl) (.cons (.differs _ _ rfl)
      (.cons (.within rfl (.included _ _) (.excluded _ _)) .nil))
  have named : IsName "contacts" := by
    constructor <;> simp [isNameChar]
  obtain ⟨alike, numbered⟩ := offerPredicate.toSql_binds
  obtain ⟨-, -, -, queries⟩ := numbered .standard compiled Catalog.standard_named
  exact ⟨compiled, same, (alike _ same).1, by decide, named, (queries "contacts" named).2.1⟩

end ContactSegments
