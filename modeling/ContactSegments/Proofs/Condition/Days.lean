import ContactSegments.Proofs.Calendar.DayRange
import ContactSegments.Proofs.Calendar.Reading
import ContactSegments.Proofs.Condition.Meaning

/-! # Conditions on days

A condition on the time of creation that names a day follows the calendar: `on` is met by the contacts of
that day, `before` by those of earlier days, and `after` by those that came after its midnight. Every
contact is of one day, so the days part the contacts among them.
-/

namespace ContactSegments

open Calendar Text

namespace DateReading

variable {raw : String} {reading : DateReading}

/-- The instant of a plain date is the first one of its day. -/
theorem instant_of_day {day : Date} (read : ofText? raw = some reading)
    (plain : reading.day = some day) : reading.instant = .midnight day := by
  cases form : DateForm.day.read (trimmed raw.toList) with
  | none =>
      rw [(day_eq_none_iff read).mpr form] at plain
      cases plain
  | some first =>
      obtain rfl := Option.some.inj ((ofText?_of_day form).symm.trans read)
      simp only [DateForm.read, Option.map_eq_some_iff] at form
      obtain ⟨d, -, rfl⟩ := form
      cases plain
      rfl

theorem ofText?_text (day : Date) : ofText? day.text = some ⟨some day, .midnight day⟩ :=
  ofText?_of_day (DateForm.day_read_text day)

end DateReading

namespace Condition

variable {catalog : Catalog} {field : Field} {c : Condition} {clause : Clause}

/-- On its own the condition is legal and becomes this clause, within any organization and however many
    conditions are allowed. -/
def Becomes (catalog : Catalog) (c : Condition) (clause : Clause) : Prop :=
  ∀ max organization, 1 ≤ max →
    ∃ group, checkAll catalog max [c] = .ok group ∧
      group.toPredicate catalog organization = .ok ⟨organization, [clause]⟩

theorem becomes_of_check {filter : Filter} (legal : c.check catalog = .ok filter)
    (made : filter.toClause catalog = .ok clause) : c.Becomes catalog clause := by
  intro max organization room
  refine ⟨_, checkAll_singleton_eq_ok_iff.mpr ⟨room, filter, legal, rfl⟩, ?_⟩
  exact FilterGroup.toPredicate_eq_ok_iff.mpr ⟨rfl, .cons made .nil⟩

/-- A condition on a date field whose value is read becomes the clause of its operator. -/
theorem becomes_of_reading (operator : Operator) {reading : DateReading}
    (found : catalog.find? c.field = some field) (type : field.type = .date)
    (named : operator.name = c.operator) (own : FieldType.date.allows operator = true)
    (read : DateReading.ofText? c.value = some reading)
    (made : field.target.dateClause? operator reading = some clause) : c.Becomes catalog clause := by
  have dated : operator = .on → ∃ day, reading.day = some day := by
    rintro rfl
    obtain ⟨day, plain, -⟩ := Option.map_eq_some_iff.mp made
    exact ⟨day, plain⟩
  have value : readValue field.type operator c.value = .ok (.date reading) := by
    rw [type, readValue_date_eq_ok_iff]
    exact ⟨DateReading.shows_of_ofText? read, reading, read, dated, rfl⟩
  have legal := check_eq_ok_iff.mpr ⟨field, operator, _, found, named, type ▸ own, value, rfl⟩
  refine becomes_of_check legal (Filter.toClause_eq_ok_iff.mpr ⟨field, ?_, ?_⟩)
  · rw [Catalog.name_of_find? found, found]
  · simp only [Field.clause?, type, made]

/-- A condition that names a day, in whatever way it is written, follows the calendar. The days part all
    contacts among them, and what is before a day or on it is what is before the next. -/
theorem days_of_creation {name : String} (found : catalog.find? name = some field)
    (type : field.type = .date) (attr : field.attr = .createdAt) :
    ∃ on before after : Date → Clause,
      (∀ day : Date, DateReading.ofText? day.text = some ⟨some day, .midnight day⟩) ∧
      (∀ day raw reading, DateReading.ofText? raw = some reading → reading.day = some day →
        ∀ id connective,
          Becomes catalog ⟨id, name, "on", raw, connective⟩ (on day) ∧
          Becomes catalog ⟨id, name, "before", raw, connective⟩ (before day) ∧
          Becomes catalog ⟨id, name, "after", raw, connective⟩ (after day)) ∧
      (∀ (day : Date) (contact : Contact),
        ((on day).holds contact = true ↔ contact.createdAt.date = day) ∧
        ((before day).holds contact = true ↔ contact.createdAt.date.Before day) ∧
        ((after day).holds contact = true ↔ .midnight day < contact.createdAt) ∧
        (.midnight day < contact.createdAt ↔ day.Before contact.createdAt.date ∨
          contact.createdAt.date = day ∧ contact.createdAt.time ≠ .midnight)) ∧
      (∀ contact, ∃! day, (on day).holds contact = true) ∧
      ∀ (day : Date) (contact : Contact),
        (before day).holds contact = true ∨ (on day).holds contact = true ↔
          ∀ next, day.next? = some next → (before next).holds contact = true := by
  have time (contact : Contact) : contact.timestamp field.target.attr = some contact.createdAt := by
    rw [Field.target, attr]
    rfl
  let before (day : Date) : Clause := .within field.target .unbounded (.excluded (.midnight day))
  let after (day : Date) : Clause := .within field.target (.excluded (.midnight day)) .unbounded
  have holdsOn (day : Date) (contact : Contact) :
      (field.target.dayClause day).holds contact = true ↔ contact.createdAt.date = day := by
    simp only [Target.holds_dayClause, time, Option.some.injEq, exists_eq_left', Instant.on_day_iff]
  have holdsBefore (day : Date) (contact : Contact) :
      (before day).holds contact = true ↔ contact.createdAt.date.Before day := by
    simp [before, Clause.holds, time, Bound.allowsAbove, Bound.allowsBelow, Instant.lt_midnight_iff]
  have holdsAfter (day : Date) (contact : Contact) :
      (after day).holds contact = true ↔ .midnight day < contact.createdAt := by
    simp [after, Clause.holds, time, Bound.allowsAbove, Bound.allowsBelow]
  refine ⟨field.target.dayClause, before, after, DateReading.ofText?_text, ?become,
    fun day contact => ⟨holdsOn day contact, holdsBefore day contact, holdsAfter day contact,
      Instant.midnight_lt_iff⟩, ?one, ?next⟩
  case become =>
    intro day raw reading read plain id connective
    have instant := DateReading.instant_of_day read plain
    refine ⟨becomes_of_reading .on found type rfl rfl read ?_,
      becomes_of_reading .before found type rfl rfl read ?_,
      becomes_of_reading .after found type rfl rfl read ?_⟩
    · rw [Target.dateClause?, plain, Option.map_some]
    · rw [Target.dateClause?, instant]
    · rw [Target.dateClause?, instant]
  case one =>
    intro contact
    refine ⟨contact.createdAt.date, (holdsOn _ contact).mpr rfl, ?_⟩
    intro day held
    exact ((holdsOn day contact).mp held).symm
  case next =>
    intro day contact
    rw [holdsBefore, holdsOn]
    cases follows : day.next? with
    | none => simp [Date.before_or_eq_of_last follows contact.createdAt.date]
    | some next =>
        rw [← Date.before_next_iff follows, ← holdsBefore]
        simp

/-- The time of creation in the catalog of all contacts. -/
def createdAtField : Field := ⟨⟨.date, .createdAt, "created_at"⟩, "createdAt"⟩

/-- The last day of 2016, which ended with a leap second. -/
def leapDay : Date := Instant.leap.date

def dayAfterLeap : Date := Instant.leapAhead.date

theorem leapSecond_on_its_day :
    Catalog.standard.find? "createdAt" = some createdAtField ∧
      DateReading.ofText? " +2016-12-31" = some ⟨some leapDay, .midnight leapDay⟩ ∧
      DateReading.ofText? "2017-1-1" = some ⟨some dayAfterLeap, .midnight dayAfterLeap⟩ ∧
      ∃ on before, Becomes .standard ⟨"c1", "createdAt", "on", " +2016-12-31", none⟩ on ∧
        Becomes .standard ⟨"c1", "createdAt", "before", "2017-1-1", some .or⟩ before ∧
        ∀ contact : Contact, contact.createdAt = .leap →
          on.holds contact = true ∧ before.holds contact = true := by
  have found : Catalog.standard.find? "createdAt" = some createdAtField := rfl
  have read : DateReading.ofText? " +2016-12-31" = some ⟨some leapDay, .midnight leapDay⟩ := by
    decide +kernel
  have readAfter : DateReading.ofText? "2017-1-1" =
      some ⟨some dayAfterLeap, .midnight dayAfterLeap⟩ := by
    decide +kernel
  obtain ⟨on, before, after, -, become, holds, -⟩ := days_of_creation found rfl rfl
  have ⟨isOn, _⟩ := become leapDay _ _ read rfl "c1" none
  have ⟨_, isBefore, _⟩ := become dayAfterLeap _ _ readAfter rfl "c1" (some .or)
  refine ⟨found, read, readAfter, on leapDay, before dayAfterLeap, isOn, isBefore, ?_⟩
  intro contact created
  rw [(holds leapDay contact).1, (holds dayAfterLeap contact).2.1, created]
  exact ⟨rfl, .year (by decide)⟩

end Condition

end ContactSegments
