import ContactSegments.Calendar.Instant

/-! # Dates and instants as text

A date is written `YYYY-MM-DD`; a year outside 0 to 9999 has a sign and at least four digits. An
instant is written `YYYY-MM-DDThh:mm:ss` with the shortest exact fraction of 0, 3, 6 or 9 digits
and then its zone, `Z` for UTC.
-/

namespace ContactSegments

namespace Calendar

/-- The decimal digits of a number, padded with zeros on the left to a width. -/
def padded (width n : Nat) : List Char :=
  let digits := Nat.toDigits 10 n
  List.replicate (width - digits.length) '0' ++ digits

def writtenYear (year : Int) : List Char :=
  if 0 ≤ year ∧ year ≤ 9999 then padded 4 year.toNat
  else (if year < 0 then '-' else '+') :: padded 4 year.natAbs

/-- The shortest exact fraction of 0, 3, 6 or 9 digits, with its point. -/
def writtenFraction (nano : Nat) : List Char :=
  if nano = 0 then []
  else if nano % 1000000 = 0 then '.' :: padded 3 (nano / 1000000)
  else if nano % 1000 = 0 then '.' :: padded 6 (nano / 1000)
  else '.' :: padded 9 nano

end Calendar

open Calendar

def Date.written (d : Date) : List Char :=
  writtenYear d.year ++ '-' :: padded 2 d.month ++ '-' :: padded 2 d.day

def TimeOfDay.written (t : TimeOfDay) : List Char :=
  padded 2 t.hour ++ ':' :: padded 2 t.minute ++ ':' :: padded 2 t.second ++ writtenFraction t.nano

/-- Date and time without a zone. -/
def Instant.writtenCivil (t : Instant) : List Char :=
  t.date.written ++ 'T' :: t.time.written

namespace Date

def text (d : Date) : String := String.ofList d.written

end Date

namespace Instant

def text (t : Instant) : String := String.ofList (t.writtenCivil ++ ['Z'])

end Instant

end ContactSegments
