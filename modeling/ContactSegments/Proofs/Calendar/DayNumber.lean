import ContactSegments.Proofs.Calendar.Instant
import Mathlib.Order.Monotone.Basic

/-! # Numbers of days

The days of the calendar are numbered without gaps, so that the day after a day has the next number and
the day before it the previous one. Years count 365 days, and one more in leap years.
-/

namespace ContactSegments

namespace Calendar

/-- The days from the first day of year 1 to the first day of a year. -/
def daysBeforeYear (year : Int) : Int :=
  let past := year - 1
  365 * past + past / 4 - past / 100 + past / 400

/-- The days of a year before its months, of which the first is the one numbered 1. -/
def daysBeforeMonth (year : Int) : Nat → Nat
  | 0 | 1 => 0
  | month + 2 => daysBeforeMonth year (month + 1) + daysInMonth year (month + 1)

theorem daysBeforeMonth_succ (year : Int) {month : Nat} (first : 1 ≤ month) :
    daysBeforeMonth year (month + 1) = daysBeforeMonth year month + daysInMonth year month := by
  obtain ⟨month, rfl⟩ := Nat.exists_eq_add_of_le' first
  rfl

/-- The days of the twelve months. -/
theorem daysBeforeMonth_end (year : Int) :
    daysBeforeMonth year 13 = if isLeapYear year then 366 else 365 := by
  cases leap : isLeapYear year <;> simp [daysBeforeMonth, daysInMonth, leap]

theorem daysBeforeYear_succ (year : Int) :
    daysBeforeYear (year + 1) = daysBeforeYear year + daysBeforeMonth year 13 := by
  rw [daysBeforeMonth_end]
  simp only [daysBeforeYear, isLeapYear, Bool.or_eq_true, Bool.and_eq_true, beq_iff_eq, bne_iff_ne]
  split <;> omega

theorem le_daysInMonth (year : Int) (month : Nat) : 28 ≤ daysInMonth year month := by
  unfold daysInMonth
  repeat' split
  all_goals omega

theorem daysBeforeYear_mono {year year' : Int} (before : year ≤ year') :
    daysBeforeYear year ≤ daysBeforeYear year' := by
  obtain earlier | rfl := Int.lt_or_eq_of_le before
  · simp only [daysBeforeYear]
    omega
  · rfl

theorem daysBeforeMonth_mono (year : Int) : Monotone (daysBeforeMonth year) := by
  refine monotone_nat_of_le_succ fun month => ?_
  cases month with
  | zero => rfl
  | succ month => exact Nat.le_add_right _ _

end Calendar

namespace Date

open Calendar

/-- The number of a day; the first day of year 1 has number 1. -/
def number (d : Date) : Int := daysBeforeYear d.year + daysBeforeMonth d.year d.month + d.day

/-- Days are numbered within their year. -/
theorem number_bounds (d : Date) :
    daysBeforeYear d.year < d.number ∧ d.number ≤ daysBeforeYear (d.year + 1) := by
  have ⟨_, _, month, months, day, days⟩ := d.valid
  have within := daysBeforeMonth_succ d.year month
  have rest : daysBeforeMonth d.year (d.month + 1) ≤ daysBeforeMonth d.year 13 :=
    daysBeforeMonth_mono d.year (by omega)
  rw [daysBeforeYear_succ, number]
  omega

theorem number_of_yearEnd {d : Date} (december : d.month = 12)
    (last : d.day = daysInMonth d.year d.month) : d.number = daysBeforeYear (d.year + 1) := by
  have within : daysBeforeMonth d.year 13 = _ := daysBeforeMonth_succ d.year (by decide)
  rw [december] at last
  rw [daysBeforeYear_succ, number, december, last, within]
  omega

theorem number_lt_of_rank_lt {a b : Date} (earlier : a.rank < b.rank) : a.number < b.number := by
  have ⟨_, _, month, months, day, days⟩ := a.valid
  have ⟨_, _, month', months', day', days'⟩ := b.valid
  have most := daysInMonth_le a.year a.month
  have most' := daysInMonth_le b.year b.month
  simp only [rank] at earlier
  obtain year | ⟨year, later⟩ : a.year < b.year ∨
      a.year = b.year ∧ (a.month < b.month ∨ a.month = b.month ∧ a.day < b.day) := by omega
  · have spans := daysBeforeYear_mono (show a.year + 1 ≤ b.year by omega)
    have ended := a.number_bounds.2
    have begun := b.number_bounds.1
    omega
  · rw [number, number, ← year]
    rcases later with earlierMonth | ⟨sameMonth, earlierDay⟩
    · have within := daysBeforeMonth_succ a.year month
      have spans := daysBeforeMonth_mono a.year (show a.month + 1 ≤ b.month by omega)
      omega
    · rw [← sameMonth]
      omega

theorem number_inj {a b : Date} : a.number = b.number ↔ a = b := by
  refine ⟨fun same => ?_, congrArg number⟩
  rcases lt_trichotomy a.rank b.rank with earlier | equal | later
  · exact absurd same (number_lt_of_rank_lt earlier).ne
  · exact rank_inj.mp equal
  · exact absurd same (number_lt_of_rank_lt later).ne'

theorem of?_eq_some_iff {year : Int} {month day : Nat} {d : Date} :
    of? year month day = some d ↔ d.year = year ∧ d.month = month ∧ d.day = day := by
  unfold of?
  split
  · rename_i valid
    rw [Option.some.injEq]
    constructor
    · rintro rfl
      exact ⟨rfl, rfl, rfl⟩
    · rintro ⟨rfl, rfl, rfl⟩
      rfl
  · rename_i invalid
    constructor
    · exact nofun
    · rintro ⟨rfl, rfl, rfl⟩
      exact absurd d.valid invalid

theorem of?_eq_none_iff {year : Int} {month day : Nat} :
    of? year month day = none ↔ ¬ ValidDate year month day := by
  unfold of?
  split <;> simp_all

theorem number_of_next? {d next : Date} (follows : d.next? = some next) :
    next.number = d.number + 1 := by
  have ⟨year, years, month, months, day, days⟩ := d.valid
  simp only [next?, Option.orElse_eq_orElse, Option.orElse_eq_or, Option.or_eq_some_iff,
    of?_eq_some_iff, of?_eq_none_iff, ValidDate] at follows
  rcases follows with ⟨sameYear, sameMonth, ahead⟩ | ⟨last, ⟨sameYear, ahead, first⟩ |
    ⟨ended, ahead, january, first⟩⟩
  · rw [number, number, sameYear, sameMonth, ahead]
    omega
  · have within := daysBeforeMonth_succ d.year month
    rw [number, number, sameYear, ahead, first]
    omega
  · have some_days := le_daysInMonth d.year (d.month + 1)
    have december : d.month = 12 := by omega
    have lastDay : d.day = daysInMonth d.year d.month := by omega
    have ended := number_of_yearEnd december lastDay
    have start : daysBeforeMonth (d.year + 1) 1 = 0 := rfl
    rw [number, ahead, january, first]
    omega

theorem number_of_previous? {d previous : Date} (precedes : d.previous? = some previous) :
    previous.number + 1 = d.number := by
  have ⟨year, years, month, months, day, days⟩ := d.valid
  have ⟨_, _, month', _, day', _⟩ := previous.valid
  simp only [previous?, Option.orElse_eq_orElse, Option.orElse_eq_or, Option.or_eq_some_iff,
    of?_eq_some_iff, of?_eq_none_iff, ValidDate] at precedes
  rcases precedes with ⟨sameYear, sameMonth, behind⟩ | ⟨first, ⟨sameYear, behind, last⟩ |
    ⟨begun, behind, december, last⟩⟩
  · rw [number, number, sameYear, sameMonth, behind]
    omega
  · have within : daysBeforeMonth d.year (d.month - 1 + 1) = _ :=
      daysBeforeMonth_succ d.year (by omega)
    rw [Nat.sub_add_cancel month] at within
    rw [number, number, sameYear, behind, last]
    omega
  · have some_days := le_daysInMonth d.year (d.month - 1)
    have january : d.month = 1 := by omega
    have lastDay : previous.day = daysInMonth previous.year previous.month := by
      rw [december, last]
      rfl
    have ended := number_of_yearEnd december lastDay
    rw [behind, Int.sub_add_cancel] at ended
    have start : daysBeforeMonth d.year 1 = 0 := rfl
    rw [ended, number, january]
    omega

/-- A day without a day after it is the last one. -/
theorem number_le_of_next? {d : Date} (ends : d.next? = none) (e : Date) : e.number ≤ d.number := by
  have ⟨year, years, month, months, day, days⟩ := d.valid
  have ⟨_, years', _, _, _, _⟩ := e.valid
  simp only [next?, Option.orElse_eq_orElse, Option.orElse_eq_or, Option.or_eq_none_iff,
    of?_eq_none_iff, ValidDate] at ends
  have some_days := le_daysInMonth d.year (d.month + 1)
  have some_days' := le_daysInMonth (d.year + 1) 1
  have december : d.month = 12 := by omega
  have lastDay : d.day = daysInMonth d.year d.month := by omega
  calc e.number ≤ daysBeforeYear (e.year + 1) := e.number_bounds.2
    _ ≤ daysBeforeYear (d.year + 1) := daysBeforeYear_mono (by omega)
    _ = d.number := (number_of_yearEnd december lastDay).symm

/-- A day without a day before it is the first one. -/
theorem le_number_of_previous? {d : Date} (begins : d.previous? = none) (e : Date) :
    d.number ≤ e.number := by
  have ⟨year, years, month, months, day, days⟩ := d.valid
  have ⟨years', _, _, _, _, _⟩ := e.valid
  simp only [previous?, Option.orElse_eq_orElse, Option.orElse_eq_or, Option.or_eq_none_iff,
    of?_eq_none_iff, ValidDate] at begins
  have some_days := le_daysInMonth d.year (d.month - 1)
  have some_days' : daysInMonth (d.year - 1) 12 = 31 := rfl
  have january : d.month = 1 := by omega
  have start : daysBeforeMonth d.year 1 = 0 := rfl
  have spans := daysBeforeYear_mono (show d.year ≤ e.year by omega)
  have begun := e.number_bounds.1
  rw [number, january]
  omega

theorem next?_eq_some_iff {d e : Date} : d.next? = some e ↔ e.number = d.number + 1 := by
  refine ⟨number_of_next?, fun follows => ?_⟩
  cases found : d.next? with
  | none =>
      have last := number_le_of_next? found e
      omega
  | some next => rw [number_inj.mp ((number_of_next? found).trans follows.symm)]

theorem previous?_eq_some_iff {d e : Date} : d.previous? = some e ↔ e.number + 1 = d.number := by
  refine ⟨number_of_previous?, fun precedes => ?_⟩
  cases found : d.previous? with
  | none =>
      have first := le_number_of_previous? found e
      omega
  | some previous =>
      have found := number_of_previous? found
      rw [number_inj.mp (show previous.number = e.number by omega)]

end Date

end ContactSegments
