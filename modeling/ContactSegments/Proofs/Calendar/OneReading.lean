import ContactSegments.Proofs.Calendar.Form
import ContactSegments.Proofs.Calendar.Written
import ContactSegments.Proofs.Condition.Meaning

/-! # One reading of each date

No text has two readings as a date. Every form begins with a calendar date, and what stands behind the
date says which form it is: nothing, a time that ends the text, or a time with a zone behind it. So it
does not matter in which order the forms are tried.
-/

namespace ContactSegments

open Text

namespace Calendar

open Scanner

variable {cs rest : List Char}

theorem number_of_enough {least less most n : Nat} (fewer : less ≤ least)
    (read : number least most cs = some (n, rest)) : number less most cs = some (n, rest) := by
  simp only [number] at read ⊢
  split at read
  · cases read
  · rename_i enough
    rw [if_neg (by omega), read]

/-- A number begins with a digit. -/
theorem exists_digit_of_number {least most n : Nat} (read : number (least + 1) most cs = some (n, rest)) :
    ∃ c ds, cs = c :: ds ∧ c.isDigit = true := by
  simp only [number] at read
  split at read
  · cases read
  · rename_i enough
    cases cs with
    | nil => simp at enough
    | cons c ds =>
        refine ⟨c, ds, rfl, ?_⟩
        by_contra other
        cases most <;> simp [other] at enough

theorem halts_of_twoDigits {n : Nat} (read : twoDigits cs = some (n, rest)) : Halts isBlank cs := by
  obtain ⟨c, ds, rfl, digit⟩ := exists_digit_of_number read
  exact .cons (isBlank_of_isDigit digit)

theorem looseNumber_of_twoDigits {n : Nat} (read : twoDigits cs = some (n, rest)) :
    looseNumber cs = some (n, rest) := by
  rw [looseNumber, bind_of_some (blanks_apply (halts_of_twoDigits read))]
  exact number_of_enough (by decide) read

/-- A year of four digits has no sign. -/
theorem looseYear_of_fourDigits {n : Nat} (read : number 4 4 cs = some (n, rest)) :
    looseYear cs = some ((n : Int), rest) := by
  obtain ⟨c, ds, rfl, digit⟩ := exists_digit_of_number read
  rw [looseYear, bind_of_some (blanks_apply (.cons (isBlank_of_isDigit digit)))]
  split
  · rename_i same
    cases same
    cases digit
  · rename_i same
    cases same
    cases digit
  · rw [number_of_enough (by decide) read]
    rfl

theorem timeMark_eq_some_iff {read : Unit} :
    timeMark cs = some (read, rest) ↔
      ∃ mark, (mark = 'T' ∨ mark = 't' ∨ mark = ' ') ∧ cs = mark :: rest := by
  simp only [timeMark, bind_eq_some_iff, satisfying_eq_some_iff, pure_apply, Option.some.injEq,
    Prod.mk.injEq, Bool.or_eq_true, beq_iff_eq]
  constructor
  · rintro ⟨mark, _, ⟨split, marked⟩, -, rfl⟩
    exact ⟨mark, or_assoc.mp marked, split⟩
  · rintro ⟨mark, marked, split⟩
    exact ⟨mark, rest, ⟨split, or_assoc.mpr marked⟩, trivial, rfl⟩

/-- A strict date-time is a loose date, one of three marks, a loose time right behind it, and a zone. -/
theorem strictInstant_eq_some {t : Instant} (read : strictInstant cs = some (t, rest)) :
    ∃ date mark clock time left ahead, looseDate cs = some (date, mark :: clock) ∧
      (mark = 'T' ∨ mark = 't' ∨ mark = ' ') ∧ Halts isBlank clock ∧
      looseTime optionalFraction clock = some (time, left) ∧
      zone (literal ':') left = some (ahead, rest) ∧ inZone date time ahead = some t := by
  simp only [strictInstant, bind_eq_some_iff, lift_eq_some_iff, literal_eq_some_iff] at read
  obtain ⟨year, _, isYear, _, _, rfl, month, _, isMonth, _, _, rfl, day, _, isDay, _, clock, isMark,
    hour, _, isHour, _, _, rfl, minute, _, isMinute, _, _, rfl, second, _, isSecond, nano, left,
    isNano, ahead, _, isZone, date, _, ⟨isDate, rfl⟩, time, _, ⟨isTime, rfl⟩, made, rfl⟩ := read
  obtain ⟨mark, marked, split⟩ := timeMark_eq_some_iff.mp isMark
  refine ⟨date, mark, clock, time, left, ahead, ?date, marked, halts_of_twoDigits isHour, ?time, isZone,
    made⟩
  case date =>
    rw [looseDate, bind_of_some (looseYear_of_fourDigits isYear), bind_of_some (literal_self '-' _),
      bind_of_some (looseNumber_of_twoDigits isMonth), bind_of_some (literal_self '-' _),
      bind_of_some (looseNumber_of_twoDigits isDay), lift, isDate, split]
    rfl
  case time =>
    rw [looseTime, bind_of_some (looseNumber_of_twoDigits isHour), bind_of_some (literal_self ':' _),
      bind_of_some (looseNumber_of_twoDigits isMinute), bind_of_some (literal_self ':' _),
      bind_of_some (looseNumber_of_twoDigits isSecond), bind_of_some isNano, lift, isTime]
    rfl

theorem civilInstant_all_eq_some {separator : Scanner Unit} {fraction : Scanner Nat} {t : Instant}
    (read : (civilInstant separator fraction).all cs = some t) :
    ∃ date between clock time, looseDate cs = some (date, between) ∧
      separator between = some ((), clock) ∧ looseTime fraction clock = some (time, []) ∧
      t = ⟨date, time⟩ := by
  simp only [all_eq_some_iff, civilInstant, bind_eq_some_iff] at read
  obtain ⟨date, between, dated, _, clock, separated, time, left, timed, made⟩ := read
  cases made
  exact ⟨date, between, clock, time, dated, separated, timed, rfl⟩

/-- A time without a fraction that ends the text may have had one. -/
theorem optionalFraction_of_none {time : TimeOfDay} (read : looseTime (pure 0) cs = some (time, [])) :
    looseTime optionalFraction cs = some (time, []) := by
  simp only [looseTime, bind_eq_some_iff, lift_eq_some_iff, literal_eq_some_iff, pure_apply,
    Option.some.injEq, Prod.mk.injEq] at read
  obtain ⟨hour, _, isHour, _, _, rfl, minute, _, isMinute, _, _, rfl, second, _, isSecond, _, _,
    ⟨rfl, rfl⟩, isTime, rfl⟩ := read
  have none : optionalFraction [] = some (0, []) := rfl
  rw [looseTime, bind_of_some isHour, bind_of_some (literal_self ':' _), bind_of_some isMinute,
    bind_of_some (literal_self ':' _), bind_of_some isSecond, bind_of_some none, lift, isTime]
  rfl

/-- The reading of a text that goes on so after its date. A time may follow after a mark or after
    blanks, and it is that of UTC when nothing follows it. -/
def readingAfter (date : Date) : List Char → Option DateReading
  | [] => some ⟨some date, .midnight date⟩
  | c :: cs => do
    let (time, left) ←
      looseTime optionalFraction (if c = 'T' ∨ c = 't' then cs else (c :: cs).dropWhile isBlank)
    if left = [] then
      return ⟨none, ⟨date, time⟩⟩
    let ahead ← (zone (literal ':')).all left
    return ⟨none, ← inZone date time ahead⟩

/-- The reading of a text, whatever its form. -/
def readingOf (cs : List Char) : Option DateReading := do
  let (date, rest) ← looseDate cs
  readingAfter date rest

theorem readingOf_of_clock {date : Date} {c : Char} {clock left : List Char} {time : TimeOfDay}
    (dated : looseDate cs = some (date, c :: rest))
    (next : (if c = 'T' ∨ c = 't' then rest else (c :: rest).dropWhile isBlank) = clock)
    (timed : looseTime optionalFraction clock = some (time, left)) :
    readingOf cs = if left = [] then some ⟨none, ⟨date, time⟩⟩
      else do
        let ahead ← (zone (literal ':')).all left
        return ⟨none, ← inZone date time ahead⟩ := by
  subst next
  simp only [readingOf, dated, readingAfter, timed, Option.bind_eq_bind, Option.bind_some]
  rfl

/-- A zone follows the time. -/
theorem readingOf_of_strict {t : Instant} (read : strictInstant.all cs = some t) :
    readingOf cs = some ⟨none, t⟩ := by
  obtain ⟨date, mark, clock, time, left, ahead, dated, marked, shows, timed, zoned, made⟩ :=
    strictInstant_eq_some (all_eq_some_iff.mp read)
  have next : (if mark = 'T' ∨ mark = 't' then clock else (mark :: clock).dropWhile isBlank) =
      clock := by
    obtain rfl | rfl | rfl := marked
    · rfl
    · rfl
    · have blank : ∀ c ∈ [' '], isBlank c = true := List.forall_mem_singleton.mpr rfl
      exact dropWhile_append_halts blank shows
  have more : left ≠ [] := by
    rintro rfl
    cases zoned
  rw [readingOf_of_clock dated next timed, if_neg more, all_eq_some_iff.mpr zoned]
  simp only [Option.bind_eq_bind, Option.bind_some, made]
  rfl

/-- A time follows after the letter, with a fraction or without, and ends the text. -/
theorem readingOf_of_lettered {fraction : Scanner Nat} {t : Instant}
    (optional : ∀ {clock time}, looseTime fraction clock = some (time, []) →
      looseTime optionalFraction clock = some (time, []))
    (read : (civilInstant (literal 'T') fraction).all cs = some t) :
    readingOf cs = some ⟨none, t⟩ := by
  obtain ⟨date, between, clock, time, dated, marked, timed, rfl⟩ := civilInstant_all_eq_some read
  obtain rfl := literal_eq_some_iff.mp marked
  rw [readingOf_of_clock dated (if_pos (.inl rfl)) (optional timed), if_pos rfl]

/-- A time follows after blanks and ends the text. -/
theorem readingOf_of_spaced {t : Instant} (read : (civilInstant blanks (pure 0)).all cs = some t) :
    readingOf cs = some ⟨none, t⟩ := by
  obtain ⟨date, rest, clock, time, dated, blank, timed, rfl⟩ := civilInstant_all_eq_some read
  have skipped : rest.dropWhile isBlank = clock := congrArg Prod.snd (Option.some.inj blank)
  cases rest with
  | nil =>
      subst skipped
      cases timed
  | cons c rest =>
      have next : (if c = 'T' ∨ c = 't' then rest else (c :: rest).dropWhile isBlank) = clock := by
        split
        · rename_i letter
          -- a letter is neither blank nor the start of a time
          obtain rfl | rfl := letter
          all_goals
            subst skipped
            cases timed
        · exact skipped
      rw [readingOf_of_clock dated next (optionalFraction_of_none timed), if_pos rfl]

end Calendar

open Calendar Scanner

/-- What a form reads is what the text says whatever its form. -/
theorem DateForm.readingOf_of_read {form : DateForm} {cs : List Char} {reading : DateReading}
    (read : form.read cs = some reading) : readingOf cs = some reading := by
  cases form with
  | day =>
      simp only [DateForm.read, Option.map_eq_some_iff, all_eq_some_iff] at read
      obtain ⟨date, dated, rfl⟩ := read
      simp only [readingOf, dated]
      rfl
  | zoned =>
      obtain ⟨t, strict, rfl⟩ := Option.map_eq_some_iff.mp read
      exact readingOf_of_strict strict
  | civil =>
      obtain ⟨t, civil, rfl⟩ := Option.map_eq_some_iff.mp read
      exact readingOf_of_lettered optionalFraction_of_none civil
  | civilFraction =>
      obtain ⟨t, civil, rfl⟩ := Option.map_eq_some_iff.mp read
      exact readingOf_of_lettered id civil
  | spaced =>
      obtain ⟨t, civil, rfl⟩ := Option.map_eq_some_iff.mp read
      exact readingOf_of_spaced civil

namespace DateReading

variable {catalog : Catalog} {c : Condition} {raw : String}

/-- Forms that are all tried, in whatever order, find the reading of the text. -/
theorem findSome?_eq_some_iff {forms : List DateForm} (complete : ∀ form, form ∈ forms)
    {cs : List Char} {reading : DateReading} :
    forms.findSome? (·.read cs) = some reading ↔ ∃ form : DateForm, form.read cs = some reading := by
  constructor
  · intro found
    obtain ⟨form, -, read⟩ := List.exists_of_findSome?_eq_some found
    exact ⟨form, read⟩
  · rintro ⟨form, read⟩
    cases found : forms.findSome? (·.read cs) with
    | none =>
        rw [List.findSome?_eq_none_iff] at found
        rw [found form (complete form)] at read
        cases read
    | some first =>
        obtain ⟨other, -, read'⟩ := List.exists_of_findSome?_eq_some found
        rw [← DateForm.readingOf_of_read read, DateForm.readingOf_of_read read']

/-- The text of a plain date is a value for every operator on dates. -/
theorem exists_readValue_of_plain (operator : Operator) {reading : DateReading}
    (plain : DateForm.day.read (trimmed raw.toList) = some reading) :
    ∃ value, Condition.readValue .date operator raw = .ok value := by
  have read := ofText?_of_day plain
  have dated : ∃ day, reading.day = some day := by
    rw [← Option.ne_none_iff_exists', ne_eq, DateForm.day_of_read plain]
    exact not_not_intro rfl
  exact ⟨_, Condition.readValue_date_eq_ok_iff.mpr
    ⟨shows_of_ofText? read, reading, read, fun _ => dated, rfl⟩⟩

/-- The operator `on` takes the texts of plain dates. -/
theorem exists_readValue_on_iff :
    (∃ value, Condition.readValue .date .on raw = .ok value) ↔
      ∃ reading, DateForm.day.read (trimmed raw.toList) = some reading := by
  constructor
  · rintro ⟨value, ok⟩
    obtain ⟨-, reading, read, dated, -⟩ := Condition.readValue_date_eq_ok_iff.mp ok
    obtain ⟨day, plain⟩ := dated rfl
    rw [← Option.ne_none_iff_exists', ne_eq, ← day_eq_none_iff read, plain]
    exact nofun
  · rintro ⟨reading, plain⟩
    exact exists_readValue_of_plain .on plain

/-- A text that has several forms has one reading, so the forms may be tried in any order. The operator
    `on` takes a text just when it has the first of them. -/
theorem one_reading :
    (∀ (cs : List Char) (form form' : DateForm) (reading reading' : DateReading),
      form.read cs = some reading → form'.read cs = some reading' → reading = reading') ∧
    (∀ forms : List DateForm, (∀ form, form ∈ forms) →
      ∀ raw, forms.findSome? (·.read (trimmed raw.toList)) = ofText? raw) ∧
    ∀ (catalog : Catalog) (c : Condition) (field : Field), catalog.find? c.field = some field →
      field.type = .date → c.operator = "on" →
      ((∃ filter, c.check catalog = .ok filter) ↔
        ∃ reading, DateForm.day.read (trimmed c.value.toList) = some reading) := by
  refine ⟨?unique, ?order, ?on⟩
  case unique =>
    intro cs form form' reading reading' read read'
    have one := DateForm.readingOf_of_read read
    rw [DateForm.readingOf_of_read read'] at one
    exact (Option.some.inj one).symm
  case order =>
    intro forms complete raw
    have every : ∀ form, form ∈ [DateForm.day, .zoned, .civil, .civilFraction, .spaced] := by
      intro form
      cases form <;> simp
    refine Option.ext fun reading => ?_
    rw [ofText?, findSome?_eq_some_iff complete, findSome?_eq_some_iff every]
  case on =>
    intro catalog c field found type named
    rw [← exists_readValue_on_iff]
    constructor
    · rintro ⟨filter, legal⟩
      obtain ⟨field', operator, value, found', named', -, read, -⟩ :=
        Condition.check_eq_ok_iff.mp legal
      obtain rfl := Option.some.inj (found.symm.trans found')
      obtain rfl : operator = .on := Operator.name_inj.mp (named'.trans named)
      rw [type] at read
      exact ⟨value, read⟩
    · rintro ⟨value, read⟩
      have legal := Condition.check_eq_ok_iff.mpr
        ⟨field, .on, value, found, named.symm, type ▸ rfl, type ▸ read, rfl⟩
      exact ⟨_, legal⟩

/-- The forms in the opposite order. -/
def backwards : List DateForm := [.spaced, .civilFraction, .civil, .zoned, .day]

/-- A leap second with two spellings in one: a time without a fraction, and one whose fraction is left
    out. It is no plain date. -/
theorem leapSecond_in_two_forms :
    DateForm.civil.read "2016-12-31T23:59:60".toList =
        DateForm.civilFraction.read "2016-12-31T23:59:60".toList ∧
      backwards.findSome? (·.read (trimmed "2016-12-31T23:59:60\n".toList)) =
        ofText? "2016-12-31T23:59:60\n" ∧
      ¬ ∃ filter, Condition.check .standard
        ⟨"c1", "createdAt", "on", "2016-12-31T23:59:60\n", none⟩ = .ok filter := by
  obtain ⟨unique, order, on⟩ := one_reading
  have every : ∀ form, form ∈ backwards := by
    intro form
    cases form <;> decide
  obtain ⟨reading, civil⟩ : ∃ reading, DateForm.civil.read "2016-12-31T23:59:60".toList = some reading :=
    Option.isSome_iff_exists.mp (by decide +kernel)
  obtain ⟨reading', fraction⟩ :
      ∃ reading, DateForm.civilFraction.read "2016-12-31T23:59:60".toList = some reading :=
    Option.isSome_iff_exists.mp (by decide +kernel)
  refine ⟨?_, order backwards every _, ?_⟩
  · rw [civil, fraction, unique _ _ _ _ _ civil fraction]
  · rw [on .standard _ _ rfl rfl rfl, ← Option.isSome_iff_exists]
    decide +kernel

end DateReading

end ContactSegments
