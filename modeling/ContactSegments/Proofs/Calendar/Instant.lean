import ContactSegments.Calendar.Instant

/-! # The order of instants

The rank of an instant says which one it is, so two instants of which neither is before the other are
the same.
-/

namespace ContactSegments

theorem Calendar.daysInMonth_le (year : Int) (month : Nat) : daysInMonth year month ≤ 31 := by
  unfold daysInMonth
  repeat' split
  all_goals omega

theorem Date.rank_inj {a b : Date} : a.rank = b.rank ↔ a = b := by
  refine ⟨fun same => ?_, congrArg rank⟩
  obtain ⟨year, month, day, valid⟩ := a
  obtain ⟨year', month', day', valid'⟩ := b
  have ⟨_, _, _, _, _, ends⟩ := valid
  have ⟨_, _, _, _, _, ends'⟩ := valid'
  have most := Calendar.daysInMonth_le year month
  have most' := Calendar.daysInMonth_le year' month'
  simp only [Date.rank] at same
  obtain ⟨rfl, rfl, rfl⟩ : year = year' ∧ month = month' ∧ day = day' := by omega
  rfl

namespace TimeOfDay

theorem rank_lt (t : TimeOfDay) : t.rank < rankBound := by
  have ⟨hours, minutes, seconds, nanos⟩ := t.valid
  simp only [rank, rankBound, Calendar.nanosPerSecond] at *
  omega

theorem rank_inj {a b : TimeOfDay} : a.rank = b.rank ↔ a = b := by
  refine ⟨fun same => ?_, congrArg rank⟩
  obtain ⟨hour, minute, second, nano, valid⟩ := a
  obtain ⟨hour', minute', second', nano', valid'⟩ := b
  have ⟨_, _, _, nanos⟩ := valid
  have ⟨_, _, _, nanos'⟩ := valid'
  simp only [rank, Calendar.nanosPerSecond] at same nanos nanos'
  obtain ⟨rfl, rfl, rfl, rfl⟩ :
      hour = hour' ∧ minute = minute' ∧ second = second' ∧ nano = nano' := by omega
  rfl

end TimeOfDay

/-- The times of a day fit between two days. -/
theorem Instant.rank_inj {a b : Instant} : a.rank = b.rank ↔ a = b := by
  refine ⟨fun same => ?_, congrArg rank⟩
  have late := a.time.rank_lt
  have late' := b.time.rank_lt
  simp only [rank, TimeOfDay.rankBound, Calendar.nanosPerSecond] at same late late'
  have days : a.date = b.date := Date.rank_inj.mp (by omega)
  have times : a.time = b.time := by
    rw [days] at same
    exact TimeOfDay.rank_inj.mp (by omega)
  rw [Instant.mk.injEq]
  exact ⟨days, times⟩

end ContactSegments
