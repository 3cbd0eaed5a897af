import ContactSegments.Field.Basic
import ContactSegments.Proofs.Calendar.Form
import ContactSegments.Proofs.Calendar.Written

/-! # Date values as text

A date that is written out is read as its day, whatever the year. A date-time with a zone is read as the
instant at which a clock of that zone shows it, so it does not matter in which zone a boundary is
written. The forms are tried in turn, and none takes the text of another.
-/

namespace ContactSegments

open Text

namespace Calendar

open Scanner

/-- The texts of a zone so many minutes ahead of UTC: a sign, hours and minutes, and for UTC a `Z` as
    well. -/
inductive WritesZone : Int → List Char → Prop
  | utc : WritesZone 0 ['Z']
  | ahead (minutes : Nat) :
    WritesZone minutes ('+' :: (padded 2 (minutes / 60) ++ ':' :: padded 2 (minutes % 60)))
  | behind (minutes : Nat) :
    WritesZone (-minutes) ('-' :: (padded 2 (minutes / 60) ++ ':' :: padded 2 (minutes % 60)))

/-- A zone with a sign. -/
theorem zone_signed {sign : Char} (isSign : sign = '+' ∨ sign = '-') {minutes : Nat}
    (few : minutes < 1440) :
    zone (literal ':') (sign :: (padded 2 (minutes / 60) ++ ':' :: padded 2 (minutes % 60))) =
      some (if sign == '+' then (minutes : Int) else -minutes, []) := by
  have hours : twoDigits (padded 2 (minutes / 60) ++ ':' :: padded 2 (minutes % 60)) =
      some (minutes / 60, ':' :: padded 2 (minutes % 60)) :=
    number_padded (by decide) (by decide) (by omega) _
  have rest : twoDigits (padded 2 (minutes % 60)) = some (minutes % 60, []) := by
    rw [← List.append_nil (padded 2 _)]
    exact number_padded (by decide) (by decide) (by omega) []
  have inRange : ¬ (24 ≤ minutes / 60 || 60 ≤ minutes % 60) = true := by
    rw [Bool.or_eq_true, decide_eq_true_eq, decide_eq_true_eq]
    omega
  have whole : ((minutes / 60 * 60 + minutes % 60 : Nat) : Int) = minutes := by omega
  rw [zone]
  obtain rfl | rfl := isSign
  all_goals
    refine (bind_of_some rfl _).trans ?_
    refine (bind_of_some hours _).trans ?_
    refine (bind_of_some (literal_self ':' _) _).trans ?_
    refine (bind_of_some rest _).trans ?_
    rw [if_neg inRange, whole]
    rfl

theorem zone_written {ahead : Int} {cs : List Char} (writes : WritesZone ahead cs)
    (near : ahead.natAbs < 1440) : zone (literal ':') cs = some (ahead, []) := by
  cases writes with
  | utc => rfl
  | ahead minutes => exact zone_signed (.inl rfl) (by omega)
  | behind minutes => exact zone_signed (.inr rfl) (by omega)

theorem looseDate_written (d : Date) (rest : List Char) :
    looseDate (d.written ++ rest) = some (d, rest) := by
  have ⟨month, day⟩ := d.parts_lt
  rw [Date.written, List.append_assoc, List.cons_append, List.append_assoc, List.cons_append, looseDate]
  refine (bind_of_some (looseYear_written d.year _) _).trans ?_
  refine (bind_of_some (literal_self '-' _) _).trans ?_
  refine (bind_of_some (looseNumber_padded month _) _).trans ?_
  refine (bind_of_some (literal_self '-' _) _).trans ?_
  refine (bind_of_some (looseNumber_padded day _) _).trans ?_
  rw [lift, of?_date, Option.map_some]

variable {t shown : Instant} {ahead : Int} {cs : List Char}

theorem strictInstant_written (near : ahead.natAbs < 1440) (shows : t.ShownAs ahead shown)
    (first : 0 ≤ shown.date.year) (last : shown.date.year ≤ 9999) (writes : WritesZone ahead cs) :
    strictInstant (shown.writtenCivil ++ cs) = some (t, []) := by
  have ⟨month, day⟩ := shown.date.parts_lt
  have ⟨hour, minute, second⟩ := shown.time.parts_lt
  have ⟨_, _, _, nanos⟩ := shown.time.valid
  have two {n : Nat} (small : n < 100) (rest : List Char) :
      twoDigits (padded 2 n ++ rest) = some (n, rest) :=
    number_padded (by decide) (by decide) small rest
  have sameYear : (shown.date.year.toNat : Int) = shown.date.year := Int.toNat_of_nonneg first
  have year (rest : List Char) :
      number 4 4 (writtenYear shown.date.year ++ rest) = some (shown.date.year.toNat, rest) := by
    rw [writtenYear, if_pos ⟨first, last⟩]
    exact number_padded (by decide) (by decide) (by omega) rest
  have fraction :
      optionalFraction (writtenFraction shown.time.nano ++ cs) = some (shown.time.nano, cs) := by
    cases writes with
    | utc | ahead | behind => exact optionalFraction_written nanos (by decide) rfl
  rw [Instant.writtenCivil_append, strictInstant]
  refine (bind_of_some (year _) _).trans ?_
  refine (bind_of_some (literal_self '-' _) _).trans ?_
  refine (bind_of_some (two month _) _).trans ?_
  refine (bind_of_some (literal_self '-' _) _).trans ?_
  refine (bind_of_some (two day _) _).trans ?_
  refine (bind_of_some (timeMark_written _) _).trans ?_
  refine (bind_of_some (two hour _) _).trans ?_
  refine (bind_of_some (literal_self ':' _) _).trans ?_
  refine (bind_of_some (two minute _) _).trans ?_
  refine (bind_of_some (literal_self ':' _) _).trans ?_
  refine (bind_of_some (two second _) _).trans ?_
  refine (bind_of_some fraction _).trans ?_
  refine (bind_of_some (zone_written writes near) _).trans ?_
  simp only [bind_apply, lift, sameYear, of?_date, of?_time, Option.map_some, Option.bind_some,
    Instant.inZone_of_shownAs near shows]

theorem day_written (d : Date) : DateForm.day.read d.written = some ⟨some d, .midnight d⟩ := by
  have read := looseDate_written d []
  rw [List.append_nil] at read
  rw [DateForm.read, Scanner.all, read]
  rfl

/-- A plain date leaves the time and the zone over. -/
theorem day_writtenCivil :
    DateForm.day.read (shown.writtenCivil ++ cs) = none := by
  rw [Instant.writtenCivil, List.append_assoc, List.cons_append, DateForm.read, Scanner.all,
    looseDate_written]
  rfl

theorem zoned_written (near : ahead.natAbs < 1440) (shows : t.ShownAs ahead shown)
    (first : 0 ≤ shown.date.year) (last : shown.date.year ≤ 9999) (writes : WritesZone ahead cs) :
    DateForm.zoned.read (shown.writtenCivil ++ cs) = some ⟨none, t⟩ := by
  rw [DateForm.read, Scanner.all, strictInstant_written near shows first last writes]
  rfl

theorem noBlank_padded {width n : Nat} : ∀ c ∈ padded width n, isBlank c = false :=
  fun c within => isBlank_of_isDigit (isDigit_of_mem_padded c within)

theorem noBlank_writtenDate (d : Date) : ∀ c ∈ d.written, isBlank c = false := by
  have year : ∀ c ∈ writtenYear d.year, isBlank c = false := by
    unfold writtenYear
    split
    · exact noBlank_padded
    · refine List.forall_mem_cons.mpr ⟨?_, noBlank_padded⟩
      split <;> rfl
  simp only [Date.written, List.forall_mem_append, List.forall_mem_cons]
  exact ⟨⟨year, rfl, noBlank_padded⟩, rfl, noBlank_padded⟩

theorem noBlank_writtenTime (t : TimeOfDay) : ∀ c ∈ t.written, isBlank c = false := by
  have fraction : ∀ c ∈ writtenFraction t.nano, isBlank c = false := by
    unfold writtenFraction
    repeat' split
    · exact nofun
    all_goals exact List.forall_mem_cons.mpr ⟨rfl, noBlank_padded⟩
  simp only [TimeOfDay.written, List.forall_mem_append, List.forall_mem_cons]
  exact ⟨⟨⟨noBlank_padded, rfl, noBlank_padded⟩, rfl, noBlank_padded⟩, fraction⟩

theorem WritesZone.noBlank (writes : WritesZone ahead cs) :
    ∀ c ∈ cs, isBlank c = false := by
  cases writes with
  | utc => exact List.forall_mem_singleton.mpr rfl
  | ahead | behind =>
      simp only [List.forall_mem_append, List.forall_mem_cons]
      exact ⟨rfl, noBlank_padded, rfl, noBlank_padded⟩

theorem noBlank_writtenCivil (t : Instant) : ∀ c ∈ t.writtenCivil, isBlank c = false := by
  rw [Instant.writtenCivil, List.forall_mem_append, List.forall_mem_cons]
  exact ⟨noBlank_writtenDate t.date, rfl, noBlank_writtenTime t.time⟩

end Calendar

open Calendar

/-- A date that is written out is a plain date. -/
theorem DateForm.day_read_text (d : Date) :
    DateForm.day.read (trimmed d.text.toList) = some ⟨some d, .midnight d⟩ := by
  rw [Date.text, String.toList_ofList, trimmed_of_shown (noBlank_writtenDate d), day_written]

/-- What is written is read back, whatever blanks stand around it: a date as its day, and an instant
    from the clock of any zone. -/
theorem FieldType.date_read?_written {front back : List Char}
    (fronts : ∀ c ∈ front, isBlank c = true) (backs : ∀ c ∈ back, isBlank c = true) :
    (∀ d : Date, FieldType.date.read? (String.ofList (front ++ d.written ++ back)) =
      some (.date ⟨some d, .midnight d⟩)) ∧
    ∀ {t shown : Instant} {ahead : Int} {zone : List Char}, ahead.natAbs < 1440 →
      t.ShownAs ahead shown → 0 ≤ shown.date.year → shown.date.year ≤ 9999 → WritesZone ahead zone →
      FieldType.date.read? (String.ofList (front ++ (shown.writtenCivil ++ zone) ++ back)) =
        some (.date ⟨none, t⟩) := by
  have left {cs : List Char} (noBlank : ∀ c ∈ cs, isBlank c = false) :
      trimmed (String.ofList (front ++ cs ++ back)).toList = cs := by
    rw [String.toList_ofList, trimmed_surrounded fronts backs, trimmed_of_shown noBlank]
  constructor
  · intro d
    have day : DateForm.day.read
        (trimmed (String.ofList (front ++ d.written ++ back)).toList) = some ⟨some d, .midnight d⟩ := by
      rw [left (noBlank_writtenDate d), day_written]
    rw [read?, DateReading.ofText?_of_day day]
    rfl
  · intro t shown ahead zone near shows first last writes
    have whole := left (List.forall_mem_append.mpr ⟨noBlank_writtenCivil shown, writes.noBlank⟩)
    have plain : DateForm.day.read (trimmed
        (String.ofList (front ++ (shown.writtenCivil ++ zone) ++ back)).toList) = none := by
      rw [whole, day_writtenCivil]
    have zoned : DateForm.zoned.read (trimmed
        (String.ofList (front ++ (shown.writtenCivil ++ zone) ++ back)).toList) = some ⟨none, t⟩ := by
      rw [whole, zoned_written near shows first last writes]
    rw [read?, DateReading.ofText?_of_zoned plain zoned]
    rfl

/-- The first day of the calendar. -/
def Date.first : Date := ⟨firstYear, 1, 1, by decide⟩

/-- Half a second into the leap second at the end of 2016. -/
def Instant.leap : Instant := ⟨⟨2016, 12, 31, by decide⟩, ⟨23, 59, 60, 500000000, by decide⟩⟩

/-- One hour ahead of UTC it is in the first hour of 2017. -/
def Instant.leapAhead : Instant := ⟨⟨2017, 1, 1, by decide⟩, ⟨0, 59, 60, 500000000, by decide⟩⟩

theorem FieldType.leapSecond_read_back :
    FieldType.date.read? "\u00a0 -262143-01-01\n" = some (.date ⟨some .first, .midnight .first⟩) ∧
      Instant.leap.ShownAs 60 .leapAhead ∧
      FieldType.date.read? "\u00a0 2017-01-01T00:59:60.500+01:00\n" = some (.date ⟨none, .leap⟩) := by
  have fronts : ∀ c ∈ ['\u00a0', ' '], isBlank c = true :=
    List.forall_mem_cons.mpr ⟨rfl, List.forall_mem_singleton.mpr rfl⟩
  have backs : ∀ c ∈ ['\n'], isBlank c = true := List.forall_mem_singleton.mpr rfl
  have ⟨days, instants⟩ := date_read?_written fronts backs
  have shows : Instant.leap.ShownAs 60 .leapAhead := ⟨by decide, rfl, rfl⟩
  have day : String.ofList (['\u00a0', ' '] ++ Date.first.written ++ ['\n']) =
      "\u00a0 -262143-01-01\n" := by decide +kernel
  have instant : String.ofList (['\u00a0', ' '] ++
      (Instant.leapAhead.writtenCivil ++ '+' :: (padded 2 1 ++ ':' :: padded 2 0)) ++ ['\n']) =
      "\u00a0 2017-01-01T00:59:60.500+01:00\n" := by decide +kernel
  rw [← day, ← instant]
  exact ⟨days .first, shows, instants (by decide) shows (by decide) (by decide) (.ahead 60)⟩

end ContactSegments
