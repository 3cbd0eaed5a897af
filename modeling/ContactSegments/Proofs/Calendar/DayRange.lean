import ContactSegments.Proofs.Calendar.DayNumber

/-! # Days as ranges of time

A day of the calendar reaches from its midnight up to the midnight of the day after it, with its leap
seconds at the end of their minutes. So the order of instants is that of their dates, and of their times
within one day.
-/

namespace ContactSegments

open Calendar

/-- The day comes earlier in the calendar. -/
inductive Date.Before (a b : Date) : Prop
  /-- In an earlier year. -/
  | year (earlier : a.year < b.year) : Before a b
  /-- In an earlier month of the same year. -/
  | month (same : a.year = b.year) (earlier : a.month < b.month) : Before a b
  /-- On an earlier day of the same month. -/
  | day (same : a.year = b.year) (sameMonth : a.month = b.month) (earlier : a.day < b.day) : Before a b

namespace Date

variable {a b d e next : Date}

theorem before_iff_rank_lt : a.Before b ↔ a.rank < b.rank := by
  have ⟨_, _, _, months, _, days⟩ := a.valid
  have ⟨_, _, first, months', firstDay, days'⟩ := b.valid
  have most := daysInMonth_le a.year a.month
  have most' := daysInMonth_le b.year b.month
  simp only [rank]
  constructor
  · intro before
    cases before with
    | year earlier => omega
    | month same earlier => omega
    | day same sameMonth earlier => omega
  · intro less
    obtain earlier | ⟨same, earlier | ⟨sameMonth, earlier⟩⟩ : a.year < b.year ∨
        a.year = b.year ∧ (a.month < b.month ∨ a.month = b.month ∧ a.day < b.day) := by omega
    · exact .year earlier
    · exact .month same earlier
    · exact .day same sameMonth earlier

theorem before_trichotomy (a b : Date) : a.Before b ∨ a = b ∨ b.Before a := by
  rw [before_iff_rank_lt, before_iff_rank_lt, ← rank_inj]
  exact lt_trichotomy a.rank b.rank

/-- Earlier days have smaller numbers. -/
theorem before_iff_number_lt : a.Before b ↔ a.number < b.number := by
  constructor
  · intro before
    exact number_lt_of_rank_lt (before_iff_rank_lt.mp before)
  · intro less
    obtain before | rfl | after := before_trichotomy a b
    · exact before
    · exact absurd less (lt_irrefl _)
    · have greater := number_lt_of_rank_lt (before_iff_rank_lt.mp after)
      omega

/-- Between a day and the day after it there is no other one. -/
theorem before_next_iff (follows : d.next? = some next) : e.Before next ↔ e.Before d ∨ e = d := by
  have number := number_of_next? follows
  rw [before_iff_number_lt, before_iff_number_lt, ← number_inj]
  omega

/-- No day comes after one that has no day after it. -/
theorem before_or_eq_of_last (last : d.next? = none) (e : Date) : e.Before d ∨ e = d := by
  have most := number_le_of_next? last e
  rw [before_iff_number_lt, ← number_inj]
  omega

theorem not_before_self (d : Date) : ¬ d.Before d := by
  rw [before_iff_rank_lt]
  exact lt_irrefl _

end Date

theorem TimeOfDay.rank_midnight : midnight.rank = 0 := by
  simp [rank, midnight]

namespace Instant

variable {d : Date} {t : Instant}

/-- A day begins with the first of its times. -/
theorem midnight_rank (d : Date) : (midnight d).rank = d.rank * TimeOfDay.rankBound := by
  rw [rank, midnight, TimeOfDay.rank_midnight, Int.natCast_zero, Int.add_zero]

theorem lt_midnight_iff : t < midnight d ↔ t.date.Before d := by
  have late := t.time.rank_lt
  have compares : t < midnight d ↔ t.rank < (midnight d).rank := Iff.rfl
  rw [compares, midnight_rank, Date.before_iff_rank_lt, rank]
  simp only [TimeOfDay.rankBound, nanosPerSecond] at late ⊢
  omega

theorem midnight_le_iff : midnight d ≤ t ↔ ¬ t.date.Before d := by
  have compares : midnight d ≤ t ↔ ¬ t < midnight d := Int.not_lt.symm
  rw [compares, lt_midnight_iff]

/-- After midnight of a day come its other times and the days after it. -/
theorem midnight_lt_iff : midnight d < t ↔ d.Before t.date ∨ t.date = d ∧ t.time ≠ .midnight := by
  have late := t.time.rank_lt
  have compares : midnight d < t ↔ (midnight d).rank < t.rank := Iff.rfl
  rw [compares, midnight_rank, Date.before_iff_rank_lt, ne_eq, ← TimeOfDay.rank_inj,
    TimeOfDay.rank_midnight, ← Date.rank_inj, rank]
  simp only [TimeOfDay.rankBound, nanosPerSecond] at late ⊢
  omega

/-- The times of a day lie from its midnight on and before that of the next, which the last day does not
    have. -/
theorem on_day_iff :
    (midnight d ≤ t ∧ ∀ next, d.next? = some next → t < midnight next) ↔ t.date = d := by
  simp only [midnight_le_iff, lt_midnight_iff]
  constructor
  · rintro ⟨begun, within⟩
    have reached : t.date.Before d ∨ t.date = d := by
      cases follows : d.next? with
      | none => exact Date.before_or_eq_of_last follows t.date
      | some next => exact (Date.before_next_iff follows).mp (within next follows)
    exact reached.resolve_left begun
  · rintro rfl
    refine ⟨t.date.not_before_self, fun next follows => ?_⟩
    exact (Date.before_next_iff follows).mpr (.inr rfl)

end Instant

end ContactSegments
