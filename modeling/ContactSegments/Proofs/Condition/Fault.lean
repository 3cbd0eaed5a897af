import ContactSegments.Proofs.Calendar.Form
import ContactSegments.Proofs.Condition.Meaning

/-! # Faults of conditions

A condition that is not legal has one fault, the first of five that can be found in it, and a list of
conditions is rejected for the first condition with a fault. Both faults and filters are told here
without the check that finds and makes them.
-/

namespace ContactSegments

theorem Operator.ofName?_eq_none_iff {name : String} :
    Operator.ofName? name = none ↔ ∀ operator : Operator, operator.name ≠ name := by
  simp only [ne_eq, ← Operator.ofName?_eq_some_iff, Option.eq_none_iff_forall_ne_some]

theorem FieldType.allows_iff {type : FieldType} {operator : Operator} :
    type.allows operator = true ↔ operator ∈ type.operators := by
  simp [FieldType.allows]

/-- A text that is no value for a date condition with this operator: it has none of the forms of a date,
    or a plain calendar date is wanted and it is none. -/
def Operator.Refuses (operator : Operator) (text : List Char) : Prop :=
  (∀ form : DateForm, form.read text = none) ∨
    operator = .on ∧ DateForm.day.read text = none

namespace Condition

/-- What is wrong with a condition. Each fault is looked for when those before it are absent. -/
inductive HasFault (catalog : Catalog) (c : Condition) : ValidationCause → Prop
  | unknownField (absent : catalog.find? c.field = none) : HasFault catalog c (.unknownField c.field)
  | unknownOperator {field : Field} (found : catalog.find? c.field = some field)
      (unnamed : ∀ operator : Operator, operator.name ≠ c.operator) :
      HasFault catalog c (.unknownOperator c.operator)
  | operatorNotAllowed {field : Field} {operator : Operator}
      (found : catalog.find? c.field = some field) (named : operator.name = c.operator)
      (foreign : operator ∉ field.type.operators) :
      HasFault catalog c (.operatorNotAllowed c.field c.operator)
  | emptyValue {field : Field} {operator : Operator} (found : catalog.find? c.field = some field)
      (named : operator.name = c.operator) (own : operator ∈ field.type.operators)
      (blank : Text.trim c.value = "") : HasFault catalog c .emptyValue
  | invalidDate {field : Field} {operator : Operator} (found : catalog.find? c.field = some field)
      (named : operator.name = c.operator) (own : operator ∈ field.type.operators)
      (shows : Text.trim c.value ≠ "") (date : field.type = .date)
      (refused : operator.Refuses (Text.trimmed c.value.toList)) :
      HasFault catalog c (.invalidDate c.value)

/-- What the value of a condition stands for by the type of its field: a text for itself, with the blanks
    around it, and a date for what it says without them. -/
def StandsFor (type : FieldType) (value : String) (meant : FieldValue) : Prop :=
  match type with
  | .text => meant = .text value
  | .date => ∃ reading, DateReading.ofText? (Text.trim value) = some reading ∧ meant = .date reading

/-- The filter that a legal condition writes. -/
structure Writes (catalog : Catalog) (c : Condition) (filter : Filter) : Prop where
  id : filter.id = c.id
  connective : filter.connective = c.connective
  field : catalog.find? c.field = some filter.field
  operator : filter.operator.name = c.operator
  own : filter.operator ∈ filter.field.type.operators
  shows : Text.trim c.value ≠ ""
  value : StandsFor filter.field.type c.value filter.value
  accepted : filter.field.type = .date → ¬ filter.operator.Refuses (Text.trimmed c.value.toList)

variable {catalog : Catalog} {c : Condition} {cause : ValidationCause} {filter : Filter}
  {operator : Operator} {raw : String}

theorem refuses_iff_of_reading {reading : DateReading}
    (read : DateReading.ofText? raw = some reading) :
    operator.Refuses (Text.trimmed raw.toList) ↔ operator = .on ∧ reading.day = none := by
  have formed : ¬ ∀ form : DateForm, form.read (Text.trimmed raw.toList) = none := by
    rw [← DateReading.ofText?_eq_none_iff, read]
    exact nofun
  simp only [Operator.Refuses, formed, false_or, DateReading.day_eq_none_iff read]

theorem readValue_eq_error_iff {type : FieldType} :
    readValue type operator raw = .error cause ↔
      Text.trim raw = "" ∧ cause = .emptyValue ∨
        Text.trim raw ≠ "" ∧ type = .date ∧ operator.Refuses (Text.trimmed raw.toList) ∧
          cause = .invalidDate raw := by
  unfold readValue
  by_cases blank : Text.trim raw = ""
  · rw [if_pos (Text.isBlankText_iff.mpr blank)]
    simp [blank, eq_comm (b := cause)]
  · rw [if_neg (mt Text.isBlankText_iff.mp blank)]
    cases type with
    | text => simp [FieldType.read?, blank]
    | date =>
        cases read : DateReading.ofText? raw with
        | none =>
            have refused : operator.Refuses (Text.trimmed raw.toList) :=
              .inl (DateReading.ofText?_eq_none_iff.mp read)
            simp [FieldType.read?, read, refused, blank, eq_comm (b := cause)]
        | some reading =>
            simp only [FieldType.read?, read, Option.map_some, refuses_iff_of_reading read]
            by_cases dayless : operator = .on ∧ reading.day = none
            · simp [dayless, blank, eq_comm (b := cause)]
            · simp [dayless, blank]

theorem standsFor_iff {type : FieldType} {value : FieldValue} (shows : Text.trim raw ≠ "") :
    readValue type operator raw = .ok value ↔
      StandsFor type raw value ∧
        (type = .date → ¬ operator.Refuses (Text.trimmed raw.toList)) := by
  have shown : Text.isBlankText raw = false := by
    rwa [← Bool.not_eq_true, Text.isBlankText_iff]
  cases type with
  | text => simp [readValue_text_eq_ok_iff, shown, StandsFor]
  | date =>
      simp only [readValue_date_eq_ok_iff, shown, StandsFor, DateReading.ofText?_trim, true_and,
        forall_const]
      constructor
      · rintro ⟨reading, read, dated, rfl⟩
        refine ⟨⟨reading, read, rfl⟩, ?_⟩
        rw [refuses_iff_of_reading read]
        rintro ⟨on, dayless⟩
        obtain ⟨day, isDay⟩ := dated on
        rw [isDay] at dayless
        cases dayless
      · rintro ⟨⟨reading, read, rfl⟩, accepted⟩
        rw [refuses_iff_of_reading read] at accepted
        exact ⟨reading, read, fun on => Option.ne_none_iff_exists'.mp fun none => accepted ⟨on, none⟩,
          rfl⟩

/-- With a known field and a known operator it is left to see whether they and the value fit. -/
theorem check_of_known {field : Field} (found : catalog.find? c.field = some field)
    (named : operator.name = c.operator) :
    c.check catalog =
      if operator ∈ field.type.operators then
        (readValue field.type operator c.value).map (⟨c.id, field, operator, ·, c.connective⟩)
      else .error (.operatorNotAllowed c.field c.operator) := by
  simp only [check, found, Operator.ofName?_eq_some_iff.mpr named, FieldType.allows_iff,
    Catalog.name_of_find? found]

theorem check_eq_error_iff : c.check catalog = .error cause ↔ c.HasFault catalog cause := by
  constructor
  · intro faulty
    cases found : catalog.find? c.field with
    | none =>
        simp only [check, found] at faulty
        cases faulty
        exact .unknownField found
    | some field =>
        by_cases known : ∃ operator : Operator, operator.name = c.operator
        · obtain ⟨operator, named⟩ := known
          rw [check_of_known found named] at faulty
          split at faulty
          · rename_i own
            rcases readValue_eq_error_iff.mp (map_eq_error_iff.mp faulty) with
              ⟨blank, rfl⟩ | ⟨shows, date, refused, rfl⟩
            · exact .emptyValue found named own blank
            · exact .invalidDate found named own shows date refused
          · rename_i foreign
            cases faulty
            exact .operatorNotAllowed found named foreign
        · have unnamed := not_exists.mp known
          simp only [check, found, Operator.ofName?_eq_none_iff.mpr unnamed] at faulty
          cases faulty
          exact .unknownOperator found unnamed
  · intro fault
    cases fault with
    | unknownField absent => simp only [check, absent]
    | unknownOperator found unnamed =>
        simp only [check, found, Operator.ofName?_eq_none_iff.mpr unnamed]
    | operatorNotAllowed found named foreign => rw [check_of_known found named, if_neg foreign]
    | emptyValue found named own blank =>
        rw [check_of_known found named, if_pos own, map_eq_error_iff, readValue_eq_error_iff]
        exact .inl ⟨blank, rfl⟩
    | invalidDate found named own shows date refused =>
        rw [check_of_known found named, if_pos own, map_eq_error_iff, readValue_eq_error_iff]
        exact .inr ⟨shows, date, refused, rfl⟩

theorem check_eq_ok_iff_writes : c.check catalog = .ok filter ↔ c.Writes catalog filter := by
  rw [check_eq_ok_iff]
  constructor
  · rintro ⟨field, operator, value, found, named, allowed, read, rfl⟩
    have shows : Text.trim c.value ≠ "" := by
      intro blank
      have faulty : readValue field.type operator c.value = .error .emptyValue :=
        readValue_eq_error_iff.mpr (.inl ⟨blank, rfl⟩)
      rw [faulty] at read
      cases read
    obtain ⟨stands, accepted⟩ := (standsFor_iff shows).mp read
    exact ⟨rfl, rfl, found, named, FieldType.allows_iff.mp allowed, shows, stands, accepted⟩
  · intro ⟨sameId, sameConnective, found, named, own, shows, stands, accepted⟩
    obtain ⟨id, field, operator, value, connective⟩ := filter
    cases sameId
    cases sameConnective
    exact ⟨field, operator, value, found, named, FieldType.allows_iff.mpr own,
      (standsFor_iff shows).mpr ⟨stands, accepted⟩, rfl⟩

variable {max : Nat} {conditions : List Condition} {error : ValidationError}

/-- A list is rejected for its length first, and then for its conditions. -/
theorem checkAll_eq_error_iff :
    checkAll catalog max conditions = .error error ↔
      conditions = [] ∧ error = ⟨none, .emptyConditions⟩ ∨
        conditions ≠ [] ∧ max < conditions.length ∧ error = ⟨none, .tooManyConditions max⟩ ∨
        conditions ≠ [] ∧ conditions.length ≤ max ∧ toFilters catalog conditions = .error error := by
  cases conditions with
  | nil => simp [checkAll, eq_comm (b := error)]
  | cons c cs =>
      rw [checkAll, List.length_cons]
      by_cases long : max < cs.length + 1
      · simp [long, Nat.not_le.mpr long, eq_comm (b := error)]
      · rw [if_neg long]
        simp only [ne_eq, reduceCtorEq, not_false_eq_true, false_and, true_and, false_or, long,
          Nat.le_of_not_lt long, toFilters, List.mapM_cons]
        cases c.toFilter catalog with
        | error e => simp [bind, Except.bind]
        | ok filter =>
            cases cs.mapM (·.toFilter catalog) <;> simp [bind, Except.bind, pure, Except.pure]

/-- The conditions of a list are rejected for the first of them that has a fault, which is named. -/
theorem toFilters_eq_error_iff :
    toFilters catalog conditions = .error error ↔
      ∃ before c after, conditions = before ++ c :: after ∧
        (∀ b ∈ before, ∃ filter, b.Writes catalog filter) ∧
        ∃ cause, c.HasFault catalog cause ∧ error = ⟨some c.id, cause⟩ := by
  simp only [toFilters, mapM_eq_error_iff, toFilter, mapError_eq_ok_iff, mapError_eq_error_iff,
    check_eq_ok_iff_writes, check_eq_error_iff, eq_comm (a := error)]

end Condition

end ContactSegments
