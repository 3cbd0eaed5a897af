/-! # Calendar dates

Dates of the proleptic Gregorian calendar between the years -262143 and 262142. Every date has a
successor and a predecessor except the last and the first one.
-/

namespace ContactSegments

namespace Calendar

def firstYear : Int := -262143

def lastYear : Int := 262142

def isLeapYear (year : Int) : Bool :=
  (year % 4 == 0 && year % 100 != 0) || year % 400 == 0

def daysInMonth (year : Int) (month : Nat) : Nat :=
  if month = 2 then (if isLeapYear year then 29 else 28)
  else if month = 4 ∨ month = 6 ∨ month = 9 ∨ month = 11 then 30
  else 31

/-- Year, month and day name a day of the calendar. -/
def ValidDate (year : Int) (month day : Nat) : Prop :=
  firstYear ≤ year ∧ year ≤ lastYear ∧ 1 ≤ month ∧ month ≤ 12 ∧
    1 ≤ day ∧ day ≤ daysInMonth year month

instance (year : Int) (month day : Nat) : Decidable (ValidDate year month day) :=
  inferInstanceAs (Decidable (_ ∧ _))

end Calendar

/-- A day of the calendar. -/
structure Date where
  year : Int
  month : Nat
  day : Nat
  valid : Calendar.ValidDate year month day
deriving DecidableEq

namespace Date

open Calendar

/-- The date with these parts, if there is one. -/
def of? (year : Int) (month day : Nat) : Option Date :=
  if h : ValidDate year month day then some ⟨year, month, day, h⟩ else none

/-- The day after, which the last day does not have. -/
def next? (d : Date) : Option Date :=
  of? d.year d.month (d.day + 1) <|> of? d.year (d.month + 1) 1 <|> of? (d.year + 1) 1 1

/-- The day before, which the first day does not have. -/
def previous? (d : Date) : Option Date :=
  of? d.year d.month (d.day - 1) <|>
    of? d.year (d.month - 1) (daysInMonth d.year (d.month - 1)) <|> of? (d.year - 1) 12 31

/-- A number that grows with the date. -/
def rank (d : Date) : Int := (d.year * 12 + d.month) * 32 + d.day

end Date

end ContactSegments
