import ContactSegments.Calendar.Date

/-! # Instants

An instant is a date of the calendar and a time of that day, both in UTC, with nanoseconds. The
second numbered 60 is a leap second; it comes after all of second 59 and before the next minute.
Instants are ordered by `rank`.
-/

namespace ContactSegments

namespace Calendar

def nanosPerSecond : Nat := 1000000000

/-- Hour, minute, second and nanosecond name a time of the day. -/
def ValidTime (hour minute second nano : Nat) : Prop :=
  hour < 24 ∧ minute < 60 ∧ second ≤ 60 ∧ nano < nanosPerSecond

instance (hour minute second nano : Nat) : Decidable (ValidTime hour minute second nano) :=
  inferInstanceAs (Decidable (_ ∧ _))

end Calendar

/-- A time of the day; second 60 is a leap second. Leap seconds stand at the end of a minute only:
    those that chrono's `with_nanosecond` puts after another second, or that an offset with seconds
    moves there, are left out. No text and no clock gives one. -/
structure TimeOfDay where
  hour : Nat
  minute : Nat
  second : Nat
  nano : Nat
  valid : Calendar.ValidTime hour minute second nano
deriving DecidableEq

namespace TimeOfDay

open Calendar

/-- The time with these parts, if there is one. -/
def of? (hour minute second nano : Nat) : Option TimeOfDay :=
  if h : ValidTime hour minute second nano then some ⟨hour, minute, second, nano, h⟩ else none

def midnight : TimeOfDay := ⟨0, 0, 0, 0, by decide⟩

/-- A number that grows with the time; a minute has room for its leap second. -/
def rank (t : TimeOfDay) : Nat :=
  ((t.hour * 60 + t.minute) * 61 + t.second) * nanosPerSecond + t.nano

/-- All ranks of one day are below this number. -/
def rankBound : Nat := 24 * 60 * 61 * nanosPerSecond

/-- The same second of another minute of the day. -/
def atMinute (t : TimeOfDay) (minutes : Nat) : Option TimeOfDay :=
  of? (minutes / 60) (minutes % 60) t.second t.nano

end TimeOfDay

/-- A date and a time of that day in UTC. -/
structure Instant where
  date : Date
  time : TimeOfDay
deriving DecidableEq

namespace Instant

/-- The first instant of a day. -/
def midnight (date : Date) : Instant := ⟨date, .midnight⟩

/-- The position of an instant in the order of time. -/
def rank (t : Instant) : Int := t.date.rank * TimeOfDay.rankBound + t.time.rank

instance : LT Instant := ⟨fun a b => a.rank < b.rank⟩

instance : LE Instant := ⟨fun a b => a.rank ≤ b.rank⟩

instance (a b : Instant) : Decidable (a < b) := inferInstanceAs (Decidable (a.rank < b.rank))

instance (a b : Instant) : Decidable (a ≤ b) := inferInstanceAs (Decidable (a.rank ≤ b.rank))

/-- The instant so many whole minutes later, or earlier when the number is negative. The seconds
    stay as they are, a leap second too; fewer than a day's minutes are moved at once. -/
def addMinutes? (t : Instant) (minutes : Int) : Option Instant := do
  let total : Int := (t.time.hour * 60 + t.time.minute : Nat) + minutes
  if total < 0 then
    return ⟨← t.date.previous?, ← t.time.atMinute (total + 1440).toNat⟩
  else if 1440 ≤ total then
    return ⟨← t.date.next?, ← t.time.atMinute (total - 1440).toNat⟩
  else
    return ⟨t.date, ← t.time.atMinute total.toNat⟩

end Instant

end ContactSegments
