import ContactSegments.Calendar.Form
import ContactSegments.Proofs.Text.Blank

/-! # The form that a date is read in

The forms are tried in their order on the trimmed text. The plain calendar date comes first and is the
only form with a day, so a reading has a day just when the text is a plain date.
-/

namespace ContactSegments

open Text

theorem DateForm.day_of_read {form : DateForm} {cs : List Char} {reading : DateReading}
    (read : form.read cs = some reading) : reading.day = none ↔ form ≠ .day := by
  cases form with
  | day =>
      simp only [DateForm.read, Option.map_eq_some_iff] at read
      obtain ⟨day, -, rfl⟩ := read
      simp
  | zoned | civil | civilFraction | spaced =>
      simp only [DateForm.read, Option.map_eq_some_iff] at read
      obtain ⟨instant, -, rfl⟩ := read
      simp

namespace DateReading

variable {s : String} {reading : DateReading}

theorem ofText?_eq_none_iff :
    ofText? s = none ↔ ∀ form : DateForm, form.read (trimmed s.toList) = none := by
  rw [ofText?, List.findSome?_eq_none_iff]
  constructor
  · intro unread form
    exact unread form (by cases form <;> simp)
  · intro unread form _
    exact unread form

/-- A text that is read as a date has a character that shows. -/
theorem shows_of_ofText? (read : ofText? s = some reading) : isBlankText s = false := by
  rw [← Bool.not_eq_true, isBlankText, ← trimmed_eq_nil_iff]
  intro blank
  have unread : ofText? s = none := by
    rw [ofText?_eq_none_iff, blank]
    intro form
    cases form <;> rfl
  rw [read] at unread
  cases unread

theorem ofText?_of_day (read : DateForm.day.read (trimmed s.toList) = some reading) :
    ofText? s = some reading := by
  rw [ofText?, List.findSome?_cons, read]

theorem ofText?_of_zoned (plain : DateForm.day.read (trimmed s.toList) = none)
    (read : DateForm.zoned.read (trimmed s.toList) = some reading) : ofText? s = some reading := by
  rw [ofText?, List.findSome?_cons, plain, List.findSome?_cons, read]

/-- A reading without a day is that of a text which is not a plain date. -/
theorem day_eq_none_iff (read : ofText? s = some reading) :
    reading.day = none ↔ DateForm.day.read (trimmed s.toList) = none := by
  cases plain : DateForm.day.read (trimmed s.toList) with
  | some first =>
      obtain rfl := Option.some.inj ((ofText?_of_day plain).symm.trans read)
      simp [DateForm.day_of_read plain]
  | none =>
      rw [ofText?] at read
      obtain ⟨form, -, fits⟩ := List.exists_of_findSome?_eq_some read
      simp only [DateForm.day_of_read fits, ne_eq, iff_true]
      rintro rfl
      rw [plain] at fits
      cases fits

theorem ofText?_trim (s : String) : ofText? (trim s) = ofText? s := by
  rw [ofText?, ofText?, toList_trim, trimmed_trimmed]

end DateReading

end ContactSegments
