import ContactSegments.Condition
import ContactSegments.Proofs.Traversal

/-! # Legal conditions

A condition is legal when the catalog has its field, the operator applies to that field and the value
can be read. What comes out of the check is told here in full, so nothing else looks inside it.
-/

namespace ContactSegments

theorem Operator.ofName?_name (operator : Operator) :
    Operator.ofName? operator.name = some operator := by
  cases operator <;> decide

theorem Operator.ofName?_eq_some_iff {name : String} {operator : Operator} :
    Operator.ofName? name = some operator ↔ operator.name = name := by
  constructor
  · intro found
    simpa using List.find?_some found
  · rintro rfl
    exact operator.ofName?_name

/-- The cause lies in conditions, and neither in a name nor in a page. -/
def ValidationCause.isOfConditions : ValidationCause → Bool
  | .emptyPage | .pageTooLarge _ _ | .invalidName _ => false
  | .emptyConditions | .tooManyConditions _ | .unknownField _ | .unknownOperator _
  | .operatorNotAllowed _ _ | .emptyValue | .invalidDate _ => true

namespace Condition

theorem readValue_text_eq_ok_iff {operator : Operator} {raw : String} {value : FieldValue} :
    readValue .text operator raw = .ok value ↔
      Text.isBlankText raw = false ∧ value = .text raw := by
  unfold readValue
  cases Text.isBlankText raw <;> simp [FieldType.read?, eq_comm]

theorem readValue_date_eq_ok_iff {operator : Operator} {raw : String} {value : FieldValue} :
    readValue .date operator raw = .ok value ↔
      Text.isBlankText raw = false ∧
        ∃ reading, DateReading.ofText? raw = some reading ∧
          (operator = .on → ∃ day, reading.day = some day) ∧ value = .date reading := by
  unfold readValue
  cases Text.isBlankText raw with
  | true => simp
  | false =>
      cases read : DateReading.ofText? raw with
      | none => simp [FieldType.read?, read]
      | some reading =>
          simp only [FieldType.read?, read, Option.map_some, Bool.false_eq_true, if_false,
            Option.some.injEq, exists_eq_left', true_and]
          split
          · rename_i dayless
            simp [dayless]
          · rename_i dated
            rw [not_and, ← ne_eq, Option.ne_none_iff_exists'] at dated
            simp only [Except.ok.injEq, eq_comm (a := value)]
            exact ⟨fun same => ⟨dated, same⟩, And.right⟩

theorem check_eq_ok_iff {catalog : Catalog} {c : Condition} {filter : Filter} :
    c.check catalog = .ok filter ↔
      ∃ field operator value, catalog.find? c.field = some field ∧ operator.name = c.operator ∧
        field.type.allows operator = true ∧ readValue field.type operator c.value = .ok value ∧
        filter = ⟨c.id, field, operator, value, c.connective⟩ := by
  simp only [← Operator.ofName?_eq_some_iff]
  unfold check
  cases found : catalog.find? c.field with
  | none => simp
  | some field =>
      cases named : Operator.ofName? c.operator with
      | none => simp
      | some operator =>
          cases allowed : field.type.allows operator <;>
            simp [allowed, map_eq_ok_iff, eq_comm (a := filter)]

/-- Lists of conditions are legal when they are neither empty nor too long and each condition is;
    the filters stand in the order of the conditions. -/
theorem checkAll_eq_ok_iff {catalog : Catalog} {max : Nat} {conditions : List Condition}
    {group : FilterGroup} :
    checkAll catalog max conditions = .ok group ↔
      conditions.length ≤ max ∧
        List.Forall₂ (fun c filter => c.check catalog = .ok filter) conditions group.filters := by
  obtain ⟨filters, nonempty⟩ := group
  cases conditions with
  | nil =>
      simp only [checkAll, reduceCtorEq, false_iff, not_and, List.forall₂_nil_left_iff]
      exact fun _ => nonempty
  | cons c cs =>
      simp only [checkAll, List.length_cons]
      split
      · rename_i long
        simp only [reduceCtorEq, false_iff, not_and]
        exact fun short => absurd short (Nat.not_le.mpr long)
      · rename_i short
        simp only [bind_eq_ok_iff, toFilters, mapM_eq_ok_iff, toFilter, mapError_eq_ok_iff,
          Nat.le_of_not_lt short, true_and]
        constructor
        · rintro ⟨filter, head, rest, tail, same⟩
          cases same
          exact .cons head tail
        · intro made
          cases made with
          | cons head tail => exact ⟨_, head, _, tail, rfl⟩

theorem exists_checkAll_iff {catalog : Catalog} {max : Nat} {conditions : List Condition} :
    (∃ group, checkAll catalog max conditions = .ok group) ↔
      conditions ≠ [] ∧ conditions.length ≤ max ∧
        ∀ c ∈ conditions, ∃ filter, c.check catalog = .ok filter := by
  simp only [checkAll_eq_ok_iff, exists_and_left, ← exists_forall₂_iff]
  constructor
  · rintro ⟨short, ⟨filters, some⟩, made⟩
    refine ⟨?_, short, filters, made⟩
    rintro rfl
    exact some (List.forall₂_nil_left_iff.mp made)
  · rintro ⟨some, short, filters, made⟩
    refine ⟨short, ⟨filters, ?_⟩, made⟩
    rintro rfl
    exact some (List.forall₂_nil_right_iff.mp made)

/-- A condition on its own is legal in a list when it is legal itself. -/
theorem checkAll_singleton_eq_ok_iff {catalog : Catalog} {max : Nat} {c : Condition}
    {group : FilterGroup} :
    checkAll catalog max [c] = .ok group ↔
      1 ≤ max ∧ ∃ filter, c.check catalog = .ok filter ∧ group = ⟨[filter], List.cons_ne_nil _ _⟩ := by
  constructor
  · intro legal
    obtain ⟨room, checked⟩ := checkAll_eq_ok_iff.mp legal
    obtain ⟨filters, nonempty⟩ := group
    obtain ⟨filter, rest, ok, none, rfl⟩ := List.forall₂_cons_left_iff.mp checked
    obtain rfl := List.forall₂_nil_left_iff.mp none
    exact ⟨room, filter, ok, rfl⟩
  · rintro ⟨room, filter, ok, rfl⟩
    exact checkAll_eq_ok_iff.mpr ⟨room, .cons ok .nil⟩

theorem exists_checkAll_singleton_iff {catalog : Catalog} {max : Nat} (room : 1 ≤ max)
    {c : Condition} :
    (∃ group, checkAll catalog max [c] = .ok group) ↔ ∃ filter, c.check catalog = .ok filter := by
  simp only [checkAll_singleton_eq_ok_iff, room, true_and]
  constructor
  · rintro ⟨_, filter, legal, -⟩
    exact ⟨filter, legal⟩
  · rintro ⟨filter, legal⟩
    exact ⟨_, filter, legal, rfl⟩

theorem isOfConditions_of_readValue {type : FieldType} {operator : Operator} {value : String}
    {cause : ValidationCause} (faulty : readValue type operator value = .error cause) :
    cause.isOfConditions = true := by
  unfold readValue at faulty
  split at faulty
  · cases faulty
    rfl
  · split at faulty
    · cases faulty
    · split at faulty <;> cases faulty
      rfl
    · cases faulty
      rfl

theorem isOfConditions_of_check {catalog : Catalog} {c : Condition} {cause : ValidationCause}
    (faulty : c.check catalog = .error cause) : cause.isOfConditions = true := by
  unfold check at faulty
  split at faulty
  · cases faulty
    rfl
  · split at faulty
    · cases faulty
      rfl
    · split at faulty
      · exact isOfConditions_of_readValue (map_eq_error_iff.mp faulty)
      · cases faulty
        rfl

theorem isOfConditions_of_toFilter {catalog : Catalog} {c : Condition} {error : ValidationError}
    (faulty : c.toFilter catalog = .error error) : error.cause.isOfConditions = true := by
  obtain ⟨cause, checked, rfl⟩ := mapError_eq_error_iff.mp faulty
  exact isOfConditions_of_check checked

/-- Conditions are not rejected for a name or a page. -/
theorem isOfConditions_of_checkAll {catalog : Catalog} {max : Nat} {conditions : List Condition}
    {error : ValidationError} (faulty : checkAll catalog max conditions = .error error) :
    error.cause.isOfConditions = true := by
  cases conditions with
  | nil =>
      cases faulty
      rfl
  | cons c cs =>
      simp only [checkAll] at faulty
      split at faulty
      · cases faulty
        rfl
      · rcases bind_eq_error_iff.mp faulty with head | ⟨filter, -, rest⟩
        · exact isOfConditions_of_toFilter head
        · rcases bind_eq_error_iff.mp rest with tail | ⟨filters, -, given⟩
          · obtain ⟨item, -, fails⟩ := exists_failure tail
            exact isOfConditions_of_toFilter fails
          · cases given

end Condition

end ContactSegments
