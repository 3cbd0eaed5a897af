import ContactSegments.Calendar.Instant
import ContactSegments.Text.Scanner

/-! # Forms of dates in text

The value of a date condition is written in one of five forms: a plain calendar date, a strict
RFC 3339 date-time, or a date-time without zone in one of three spellings, which is taken as UTC.
`DateReading.ofText?` trims the text and takes the first form that fits it.

The times of records are read by `Instant.ofText?`, which is lenient: numbers need no padding, years
may have a sign, and blanks may stand around every part.
-/

namespace ContactSegments

open Text

/-- What a date condition's value says: the instant, and the day when the value is a plain calendar
    date. -/
structure DateReading where
  day : Option Date
  instant : Instant
deriving DecidableEq

/-- The forms of a date value, in the order in which they are tried. -/
inductive DateForm
  /-- A calendar date alone, as in `2024-01-05`. -/
  | day
  /-- A date-time with its zone, as in `2024-01-05T08:15:00Z`, strictly as RFC 3339 has it. -/
  | zoned
  /-- A date-time without zone, as in `2024-01-05T08:15:00`. -/
  | civil
  /-- The same with a fraction, as in `2024-01-05T08:15:00.25`. -/
  | civilFraction
  /-- A date and a time with blanks between them, as in `2024-01-05 08:15:00`. -/
  | spaced
deriving DecidableEq, Repr

namespace Calendar

open Scanner

/-- A number of at most two digits, after blanks. -/
def looseNumber : Scanner Nat := do
  blanks
  number 1 2

/-- A year after blanks: up to four digits, or a sign and any number of digits. -/
def looseYear : Scanner Int := do
  blanks
  fun
    | '-' :: cs => (digits cs).map fun (n, rest) => (-(n : Int), rest)
    | '+' :: cs => (digits cs).map fun (n, rest) => ((n : Int), rest)
    | cs => (number 1 4 cs).map fun (n, rest) => ((n : Int), rest)

/-- Year, month and day with a hyphen directly after each of the first two. -/
def looseDate : Scanner Date := do
  let year ← looseYear
  literal '-'
  let month ← looseNumber
  literal '-'
  let day ← looseNumber
  lift (Date.of? year month day)

/-- Hour, minute and second with a colon directly after each of the first two, then the fraction
    that `fraction` reads. -/
def looseTime (fraction : Scanner Nat) : Scanner TimeOfDay := do
  let hour ← looseNumber
  literal ':'
  let minute ← looseNumber
  literal ':'
  let second ← looseNumber
  let nano ← fraction
  lift (TimeOfDay.of? hour minute second nano)

/-- The mark between date and time. -/
def timeMark : Scanner Unit := do
  let _ ← satisfying fun c => c == 'T' || c == 't' || c == ' '

/-- A zone as minutes east of Greenwich: `Z`, or a sign, hours, what `between` reads, and
    minutes. -/
def zone (between : Scanner Unit) : Scanner Int := do
  let sign ← satisfying fun c =>
    c == 'Z' || c == 'z' || c == '+' || c == '-' || c == '\u2212'
  if sign == 'Z' || sign == 'z' then
    return 0
  let hours ← twoDigits
  between
  let minutes ← twoDigits
  if 24 ≤ hours || 60 ≤ minutes then
    lift none
  let total : Int := (hours * 60 + minutes : Nat)
  return if sign == '+' then total else -total

/-- The instant at which a clock with this zone shows the given date and time. -/
def inZone (date : Date) (time : TimeOfDay) (zone : Int) : Option Instant :=
  Instant.addMinutes? ⟨date, time⟩ (-zone)

/-- A date-time exactly as RFC 3339 has it. -/
def strictInstant : Scanner Instant := do
  let year ← number 4 4
  literal '-'
  let month ← twoDigits
  literal '-'
  let day ← twoDigits
  timeMark
  let hour ← twoDigits
  literal ':'
  let minute ← twoDigits
  literal ':'
  let second ← twoDigits
  let nano ← optionalFraction
  let zone ← zone (literal ':')
  let date ← lift (Date.of? year month day)
  let time ← lift (TimeOfDay.of? hour minute second nano)
  lift (inZone date time zone)

/-- A date-time without zone, with the given separator and fraction. -/
def civilInstant (separator : Scanner Unit) (fraction : Scanner Nat) : Scanner Instant := do
  let date ← looseDate
  separator
  let time ← looseTime fraction
  return ⟨date, time⟩

/-- A letter of either case. -/
def letter (c : Char) : Scanner Unit := do
  let _ ← satisfying fun d => d.toUpper == c

/-- The zone of a lenient date-time: `UTC`, or a zone whose hours and minutes may have colons and
    blanks between them. -/
def looseZone : Scanner Int := fun cs =>
  match (do letter 'U'; letter 'T'; letter 'C' : Scanner Unit) cs with
  | some ((), rest) => some (0, rest)
  | none => zone (fun cs => some ((), cs.dropWhile fun c => c == ':' || isBlank c)) cs

/-- A lenient date-time: blanks may stand before every number and every mark, and at the end. -/
def looseInstant : Scanner Instant := do
  let year ← looseYear
  blanks
  literal '-'
  let month ← looseNumber
  blanks
  literal '-'
  let day ← looseNumber
  timeMark
  let hour ← looseNumber
  blanks
  literal ':'
  let minute ← looseNumber
  blanks
  literal ':'
  let second ← looseNumber
  let nano ← optionalFraction
  blanks
  let zone ← looseZone
  blanks
  let date ← lift (Date.of? year month day)
  let time ← lift (TimeOfDay.of? hour minute second nano)
  lift (inZone date time zone)

end Calendar

open Calendar

/-- The reading of the whole text in this form. -/
def DateForm.read : DateForm → List Char → Option DateReading
  | .day, cs => (looseDate.all cs).map fun d => ⟨some d, .midnight d⟩
  | .zoned, cs => (strictInstant.all cs).map (⟨none, ·⟩)
  | .civil, cs => ((civilInstant (Scanner.literal 'T') (pure 0)).all cs).map (⟨none, ·⟩)
  | .civilFraction, cs =>
    ((civilInstant (Scanner.literal 'T') Scanner.optionalFraction).all cs).map (⟨none, ·⟩)
  | .spaced, cs => ((civilInstant Scanner.blanks (pure 0)).all cs).map (⟨none, ·⟩)

/-- The value of a date condition: the first form that fits the trimmed text. -/
def DateReading.ofText? (s : String) : Option DateReading :=
  [DateForm.day, .zoned, .civil, .civilFraction, .spaced].findSome? (·.read (trimmed s.toList))

/-- The time of a record. -/
def Instant.ofText? (s : String) : Option Instant := looseInstant.all s.toList

end ContactSegments
