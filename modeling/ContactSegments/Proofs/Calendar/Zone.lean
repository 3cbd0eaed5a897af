import ContactSegments.Calendar.Form
import ContactSegments.Proofs.Calendar.DayNumber

/-! # Clocks of other zones

A clock that is some minutes ahead shows, at every instant, the date and time so many minutes later, and
its seconds run with those of UTC, leap seconds too. What it shows names the instant again, also when it
shows another day, month or year.
-/

namespace ContactSegments

theorem TimeOfDay.of?_eq_some_iff {hour minute second nano : Nat} {t : TimeOfDay} :
    of? hour minute second nano = some t ↔
      t.hour = hour ∧ t.minute = minute ∧ t.second = second ∧ t.nano = nano := by
  unfold of?
  split
  · rename_i valid
    rw [Option.some.injEq]
    constructor
    · rintro rfl
      exact ⟨rfl, rfl, rfl, rfl⟩
    · rintro ⟨rfl, rfl, rfl, rfl⟩
      rfl
  · rename_i invalid
    constructor
    · exact nofun
    · rintro ⟨rfl, rfl, rfl, rfl⟩
      exact absurd t.valid invalid

/-- The whole minutes of the day that have passed. -/
def TimeOfDay.minutes (t : TimeOfDay) : Nat := t.hour * 60 + t.minute

theorem TimeOfDay.minutes_lt (t : TimeOfDay) : t.minutes < 1440 := by
  have ⟨hours, minutes, _, _⟩ := t.valid
  rw [TimeOfDay.minutes]
  omega

theorem TimeOfDay.atMinute_eq_some_iff {t u : TimeOfDay} {minutes : Nat} :
    t.atMinute minutes = some u ↔ u.minutes = minutes ∧ u.second = t.second ∧ u.nano = t.nano := by
  have ⟨hours, _, _, _⟩ := u.valid
  rw [atMinute, of?_eq_some_iff, ← and_assoc, TimeOfDay.minutes]
  refine and_congr_left fun _ => ?_
  omega

namespace Instant

/-- The whole minutes that have passed, counted over all days. -/
def minutes (t : Instant) : Int := t.date.number * 1440 + t.time.minutes

/-- What a clock that is so many minutes ahead of UTC shows at an instant. -/
structure ShownAs (t : Instant) (ahead : Int) (shown : Instant) : Prop where
  minutes : shown.minutes = t.minutes + ahead
  second : shown.time.second = t.time.second
  nano : shown.time.nano = t.time.nano

variable {t u : Instant} {ahead : Int}

theorem ShownAs.back (shown : t.ShownAs ahead u) : u.ShownAs (-ahead) t where
  minutes := by
    have later := shown.minutes
    omega
  second := shown.second.symm
  nano := shown.nano.symm

/-- An instant is made of a date and a time when there are both. -/
theorem made_iff {date : Option Date} {time : Option TimeOfDay} :
    (do return ⟨← date, ← time⟩ : Option Instant) = some u ↔
      date = some u.date ∧ time = some u.time := by
  obtain ⟨d, t⟩ := u
  cases date <;> cases time <;> simp

/-- Minutes are added as by a clock, into the day after or the day before. -/
theorem addMinutes?_eq_some_iff (near : ahead.natAbs < 1440) :
    t.addMinutes? ahead = some u ↔ t.ShownAs ahead u := by
  have early := t.time.minutes_lt
  have early' := u.time.minutes_lt
  have parts : t.ShownAs ahead u ↔ u.minutes = t.minutes + ahead ∧
      u.time.second = t.time.second ∧ u.time.nano = t.time.nano :=
    ⟨fun shown => ⟨shown.minutes, shown.second, shown.nano⟩, fun ⟨m, s, n⟩ => ⟨m, s, n⟩⟩
  have total : ((t.time.hour * 60 + t.time.minute : Nat) : Int) = t.time.minutes := rfl
  simp only [addMinutes?, total, parts, minutes]
  split
  · rw [made_iff, Date.previous?_eq_some_iff, TimeOfDay.atMinute_eq_some_iff, ← and_assoc]
    refine and_congr_left fun _ => ?_
    omega
  split
  · rw [made_iff, Date.next?_eq_some_iff, TimeOfDay.atMinute_eq_some_iff, ← and_assoc]
    refine and_congr_left fun _ => ?_
    omega
  · have same : t.date = u.date ↔ u.date.number = t.date.number := by
      rw [eq_comm, Date.number_inj]
    refine (@made_iff u (some t.date) _).trans ?_
    rw [Option.some.injEq, same, TimeOfDay.atMinute_eq_some_iff, ← and_assoc]
    refine and_congr_left fun _ => ?_
    omega

/-- What a clock in a zone shows is read as the instant at which it shows it. -/
theorem inZone_of_shownAs (near : ahead.natAbs < 1440) (shown : t.ShownAs ahead u) :
    Calendar.inZone u.date u.time ahead = some t :=
  (addMinutes?_eq_some_iff (by omega)).mpr shown.back

end Instant

end ContactSegments
