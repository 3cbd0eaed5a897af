import ContactSegments.Proofs.Text.Scanner
import ContactSegments.Sql.Truth

/-! # Reading conditions back

The text of a condition is read by a grammar of its own: tests that are joined by `AND`, alone or in
parentheses. A condition on columns with plain names is read back from its text as it is, so the
truth of the text is the truth of the condition.
-/

namespace ContactSegments.Sql

open Text Scanner

/-- The characters of plain names. -/
def isNameChar (c : Char) : Bool := c.isAlphanum || c == '_'

def IsName (name : String) : Prop := name.toList ≠ [] ∧ ∀ c ∈ name.toList, isNameChar c = true

def readName : Scanner String := fun cs =>
  let name := cs.takeWhile isNameChar
  if name.isEmpty then none else some (String.ofList name, cs.dropWhile isNameChar)

/-- These characters and no others. -/
def exactly : List Char → Scanner Unit
  | [] => pure ()
  | c :: cs => do
    literal c
    exactly cs

def readPlaceholder : Scanner Nat := do
  literal '$'
  digits

/-- The sign of a comparison and the blank after it. -/
def readComparison : Scanner Comparison :=
  [Comparison.equal, .different, .less, .atMost, .greater, .atLeast].foldr
    (fun comparison others =>
      (do exactly (comparison.text.toList ++ [' ']); return comparison) <|> others)
    failure

/-- The rest of a test of a column. -/
def readAfterColumn (column : String) : Scanner Test :=
  (do exactly "IS NOT NULL".toList; return .isNotNull column) <|>
    (do
      exactly "= ANY(".toList
      let k ← readPlaceholder
      literal ')'
      return .isAny column k) <|>
    (do let comparison ← readComparison; return .compare column comparison (← readPlaceholder))

/-- The rest of a test of a column in lower case. -/
def readAfterLower (column : String) : Scanner Test :=
  (do exactly "LIKE ".toList; return .lowerLike column (← readPlaceholder)) <|>
    (do let comparison ← readComparison; return .compareLower column comparison (← readPlaceholder))

def readTest : Scanner Test := do
  let first ← readName
  (do literal ' '; readAfterColumn first) <|>
    (do
      literal '('
      let column ← readName
      exactly ") ".toList
      if first = "lower" then readAfterLower column else failure)

/-- What stands between two tests that have to hold together. -/
def separator : List Char := [' ', 'A', 'N', 'D', ' ']

/-- Items with `AND` between them, at least one and at most so many. -/
def readJoined (item : Scanner α) : Nat → Scanner (List α)
  | 0 => failure
  | most + 1 => do
    let first ← item
    (do exactly separator; return first :: (← readJoined item most)) <|> pure [first]

def readConjunct : Scanner Conjunct := fun cs =>
  ((do
      literal '('
      let tests ← readJoined readTest cs.length
      literal ')'
      return .grouped tests) <|> Conjunct.single <$> readTest) cs

/-- The conjuncts that a text writes, if it is a condition. -/
def conjunctsOfText? (text : String) : Option (List Conjunct) :=
  Scanner.all (fun cs => readJoined readConjunct (cs.length + 1) cs) text.toList

/-- The truth of a written condition of a row. -/
def truthOfText? (text : String) (parameters : List Parameter) (row : Row) : Option Truth :=
  (conjunctsOfText? text).map fun conjuncts => .all (conjuncts.map (·.truth parameters row))

/-- What may stand after a test. -/
def AfterTest (rest : List Char) : Prop := Halts (fun c => c != ' ' && c != ')') rest

theorem AfterTest.halts {test : Char → Bool} {rest : List Char} (after : AfterTest rest)
    (blank : test ' ' = false) (closing : test ')' = false) : Halts test rest := by
  refine after.mono fun c passed => ?_
  rw [Bool.and_eq_true, bne_iff_ne, bne_iff_ne]
  constructor
  · rintro rfl
    simp [blank] at passed
  · rintro rfl
    simp [closing] at passed

theorem readName_append {name : String} (plain : IsName name) {rest : List Char}
    (halts : Halts isNameChar rest) : readName (name.toList ++ rest) = some (name, rest) := by
  simp only [readName, takeWhile_append_halts plain.2 halts, dropWhile_append_halts plain.2 halts,
    List.isEmpty_iff, plain.1, if_false, String.ofList_toList]

theorem exactly_append (front rest : List Char) : exactly front (front ++ rest) = some ((), rest) := by
  induction front with
  | nil => rfl
  | cons c front ih => simp [exactly, ih]

theorem readPlaceholder_append (k : Nat) {rest : List Char} (halts : Halts Char.isDigit rest) :
    readPlaceholder ((placeholderText k).toList ++ rest) = some (k, rest) := by
  simp [readPlaceholder, placeholderText, digits_apply_toDigits k halts]

theorem readComparison_append (comparison : Comparison) (rest : List Char) :
    readComparison (comparison.text.toList ++ ' ' :: rest) = some (comparison, rest) := by
  cases comparison <;> rfl

def Test.column : Test → String
  | .compare column _ _ | .compareLower column _ _ | .lowerLike column _ | .isNotNull column
  | .isAny column _ => column

theorem readAfterColumn_comparison (column : String) (comparison : Comparison) (k : Nat)
    {rest : List Char} (halts : Halts Char.isDigit rest) :
    readAfterColumn column
        (comparison.text.toList ++ ' ' :: ((placeholderText k).toList ++ rest)) =
      some (.compare column comparison k, rest) := by
  have notNull : exactly "IS NOT NULL".toList
      (comparison.text.toList ++ ' ' :: ((placeholderText k).toList ++ rest)) = none := by
    cases comparison <;> simp [exactly, Comparison.text]
  have notAny : exactly "= ANY(".toList
      (comparison.text.toList ++ ' ' :: ((placeholderText k).toList ++ rest)) = none := by
    cases comparison <;> simp [exactly, Comparison.text, placeholderText]
  simp only [readAfterColumn, orElse_apply, bind_apply, notNull, notAny, readComparison_append,
    readPlaceholder_append k halts, Option.bind_none, Option.none_or, Option.bind_some, pure_apply]

theorem readAfterLower_comparison (column : String) (comparison : Comparison) (k : Nat)
    {rest : List Char} (halts : Halts Char.isDigit rest) :
    readAfterLower column
        (comparison.text.toList ++ ' ' :: ((placeholderText k).toList ++ rest)) =
      some (.compareLower column comparison k, rest) := by
  have notLike : exactly "LIKE ".toList
      (comparison.text.toList ++ ' ' :: ((placeholderText k).toList ++ rest)) = none := by
    cases comparison <;> simp [exactly, Comparison.text]
  simp only [readAfterLower, orElse_apply, bind_apply, notLike, readComparison_append,
    readPlaceholder_append k halts, Option.bind_none, Option.none_or, Option.bind_some, pure_apply]

theorem readTest_column {column : String} (plain : IsName column) (cs : List Char) :
    readTest (column.toList ++ ' ' :: cs) = readAfterColumn column cs := by
  have halts : Halts isNameChar (' ' :: cs) := .cons rfl
  simp [readTest, readName_append plain halts]

theorem readTest_lower {column : String} (plain : IsName column) (cs : List Char) :
    readTest ("lower".toList ++ '(' :: (column.toList ++ ')' :: ' ' :: cs)) =
      readAfterLower column cs := by
  have lower : IsName "lower" := by
    constructor <;> simp [isNameChar]
  have opened : Halts isNameChar ('(' :: (column.toList ++ ')' :: ' ' :: cs)) := .cons rfl
  have closed : Halts isNameChar (')' :: ' ' :: cs) := .cons rfl
  simp only [readTest, bind_apply, readName_append lower opened, Option.bind_some]
  simp [readName_append plain closed, exactly]

theorem readTest_append {test : Test} (plain : IsName test.column) {rest : List Char}
    (after : AfterTest rest) : readTest (test.text.toList ++ rest) = some (test, rest) := by
  have noDigit : Halts Char.isDigit rest := after.halts rfl rfl
  cases test with
  | compare column comparison k =>
      rw [← readAfterColumn_comparison column comparison k noDigit,
        ← readTest_column (show IsName column from plain)]
      simp [Test.text, toString]
  | compareLower column comparison k =>
      rw [← readAfterLower_comparison column comparison k noDigit,
        ← readTest_lower (show IsName column from plain)]
      simp [Test.text, toString]
  | lowerLike column k =>
      have read : readAfterLower column ("LIKE ".toList ++ ((placeholderText k).toList ++ rest)) =
          some (.lowerLike column k, rest) := by
        simp only [readAfterLower, orElse_apply, bind_apply, exactly_append, Option.bind_some,
          readPlaceholder_append k noDigit, pure_apply, Option.some_or]
      rw [← read, ← readTest_lower (show IsName column from plain)]
      simp [Test.text, toString]
  | isNotNull column =>
      have read : readAfterColumn column ("IS NOT NULL".toList ++ rest) =
          some (.isNotNull column, rest) := by
        simp only [readAfterColumn, orElse_apply, bind_apply, exactly_append, Option.bind_some,
          pure_apply, Option.some_or]
      rw [← read, ← readTest_column (show IsName column from plain)]
      simp [Test.text, toString]
  | isAny column k =>
      have closed : Halts Char.isDigit (')' :: rest) := .cons rfl
      have read : readAfterColumn column
          ("= ANY(".toList ++ ((placeholderText k).toList ++ ')' :: rest)) =
            some (.isAny column k, rest) := by
        simp [readAfterColumn, exactly, readPlaceholder_append k closed]
      rw [← read, ← readTest_column (show IsName column from plain)]
      simp [Test.text, toString]

/-- Items are read one after the other as long as each of them is read in front of what may follow
    a test. -/
theorem readJoined_append {item : Scanner α} {write : α → List Char} {rest : List Char}
    (closed : Halts (fun c => c != ')') rest) {items : List α} (nonempty : items ≠ [])
    (each : ∀ a ∈ items, ∀ rest, AfterTest rest → item (write a ++ rest) = some (a, rest))
    {most : Nat} (fits : items.length ≤ most) :
    readJoined item most (separator.intercalate (items.map write) ++ rest) = some (items, rest) := by
  induction items generalizing most with
  | nil => exact absurd rfl nonempty
  | cons a items ih =>
      cases most with
      | zero => simp at fits
      | succ most =>
          cases items with
          | nil =>
              have after : AfterTest rest := closed.mono (by simp)
              have noMore : exactly separator rest = none := by
                cases rest with
                | nil => rfl
                | cons c cs =>
                    have : c = ')' := by simpa using closed c rfl
                    simp [separator, exactly, this]
              simp [readJoined, each a (by simp) rest after, noMore]
          | cons b items =>
              have more := ih (by simp) (fun a within => each a (List.mem_cons_of_mem _ within))
                (Nat.le_of_succ_le_succ fits)
              rw [List.map_cons, List.map_cons, List.intercalate_cons_cons, ← List.map_cons,
                List.append_assoc, List.append_assoc]
              generalize separator.intercalate ((b :: items).map write) ++ rest = tail at more ⊢
              have after : AfterTest (separator ++ tail) := .cons rfl
              simp [readJoined, each a (by simp) _ after, exactly_append, more]

theorem length_le_length_intercalate (texts : List (List Char)) :
    texts.length ≤ (separator.intercalate texts).length + 1 := by
  induction texts with
  | nil => simp
  | cons text texts ih =>
      cases texts with
      | nil => simp
      | cons next texts =>
          rw [List.intercalate_cons_cons]
          simp only [List.length_cons, List.length_append, separator] at ih ⊢
          omega

/-- All columns of the conjunct have plain names, and parentheses hold at least one test. -/
def Conjunct.Plain : Conjunct → Prop
  | .single test => IsName test.column
  | .grouped tests => tests ≠ [] ∧ ∀ test ∈ tests, IsName test.column

theorem readTest_opening (cs : List Char) : readTest ('(' :: cs) = none := by
  simp [readTest, readName, isNameChar]

theorem Conjunct.toList_text_grouped (tests : List Test) :
    (Conjunct.text (.grouped tests)).toList =
      '(' :: (separator.intercalate (tests.map (·.text.toList)) ++ [')']) := by
  simp [Conjunct.text, separator, Function.comp_def]

theorem readConjunct_append {conjunct : Conjunct} (plain : conjunct.Plain) {rest : List Char}
    (after : AfterTest rest) :
    readConjunct (conjunct.text.toList ++ rest) = some (conjunct, rest) := by
  cases conjunct with
  | single test =>
      have read := readTest_append plain after
      have notGrouped : literal '(' (test.text.toList ++ rest) = none := by
        generalize test.text.toList ++ rest = cs at read
        cases cs with
        | nil => rfl
        | cons c cs =>
            have : c ≠ '(' := by
              rintro rfl
              simp [readTest_opening] at read
            simp [this]
      simp [readConjunct, Conjunct.text, notGrouped, read]
  | grouped tests =>
      obtain ⟨nonempty, named⟩ := plain
      rw [Conjunct.toList_text_grouped, List.cons_append, List.append_assoc, List.singleton_append]
      have fits : tests.length ≤
          ('(' :: (separator.intercalate (tests.map (·.text.toList)) ++ ')' :: rest)).length := by
        have := length_le_length_intercalate (tests.map (·.text.toList))
        simp only [List.length_map, List.length_cons, List.length_append] at this ⊢
        omega
      have closing : Halts (fun c => c != ')') (')' :: rest) := .cons rfl
      have read := readJoined_append closing nonempty
        (fun test within _ after => readTest_append (named test within) after) fits
      unfold readConjunct
      generalize ('(' :: (separator.intercalate (tests.map (·.text.toList)) ++ ')' :: rest)).length =
        most at read ⊢
      simp [read]

theorem Where.toList_text (condition : Where) :
    condition.text.toList = separator.intercalate (condition.conjuncts.map (·.text.toList)) := by
  simp [Where.text, separator, Function.comp_def]

/-- A condition on plain columns is what its text says. -/
theorem conjunctsOfText?_text {condition : Where} (nonempty : condition.conjuncts ≠ [])
    (plain : ∀ conjunct ∈ condition.conjuncts, conjunct.Plain) :
    conjunctsOfText? condition.text = some condition.conjuncts := by
  have fits := length_le_length_intercalate (condition.conjuncts.map (·.text.toList))
  rw [List.length_map] at fits
  have read := readJoined_append (show Halts _ ([] : List Char) from .nil) nonempty
    (fun conjunct within _ after => readConjunct_append (plain conjunct within) after) fits
  rw [List.append_nil, ← Where.toList_text] at read
  simp only [conjunctsOfText?, Scanner.all, read]

end ContactSegments.Sql
