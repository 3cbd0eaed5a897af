import ContactSegments.Calendar.Form
import ContactSegments.Proofs.Calendar.Zone
import ContactSegments.Proofs.Text.Digits

/-! # Times as text

The lenient reading of the time of a record takes back what is written, whatever the year, also a leap
second and fractions of every length.
-/

namespace ContactSegments

open Text

theorem Text.isBlank_of_isDigit {c : Char} (digit : c.isDigit = true) : isBlank c = false := by
  obtain ⟨low, high⟩ := toNat_of_isDigit digit
  simp [isBlank, inRanges, blankRanges]
  omega

namespace Text.Scanner

variable {α β : Type}

theorem bind_of_some {scanner : Scanner α} {value : α} {cs rest : List Char}
    (read : scanner cs = some (value, rest)) (next : α → Scanner β) :
    (scanner >>= next) cs = next value rest := by
  rw [bind_apply, read, Option.bind_some]

theorem literal_self (c : Char) (cs : List Char) : literal c (c :: cs) = some ((), cs) := by
  rw [literal_apply_cons, if_pos rfl]

theorem blanks_apply {cs : List Char} (halts : Halts isBlank cs) : blanks cs = some ((), cs) := by
  have kept : ([] ++ cs).dropWhile isBlank = cs := dropWhile_append_halts nofun halts
  exact congrArg (fun rest => some ((), rest)) kept

theorem digits_append {digits rest : List Char} (decimal : ∀ c ∈ digits, c.isDigit = true)
    (enough : 1 ≤ digits.length) (halts : Halts Char.isDigit rest) :
    Scanner.digits (digits ++ rest) = some (Nat.ofDigitChars 10 digits 0, rest) :=
  number_append decimal enough (by simp) (.inr halts)

end Text.Scanner

open Calendar

/-- Month and day have two digits at most. -/
theorem Date.parts_lt (d : Date) : d.month < 100 ∧ d.day < 100 := by
  have ⟨_, _, _, months, _, days⟩ := d.valid
  have short := daysInMonth_le d.year d.month
  omega

/-- Hour, minute and second have two digits. -/
theorem TimeOfDay.parts_lt (t : TimeOfDay) : t.hour < 100 ∧ t.minute < 100 ∧ t.second < 100 := by
  have ⟨hours, minutes, seconds, _⟩ := t.valid
  omega

/-- The parts of a date and time in the order in which they are read. -/
theorem Instant.writtenCivil_append (t : Instant) (rest : List Char) :
    t.writtenCivil ++ rest =
      writtenYear t.date.year ++ '-' :: (padded 2 t.date.month ++ '-' :: (padded 2 t.date.day ++
        'T' :: (padded 2 t.time.hour ++ ':' :: (padded 2 t.time.minute ++ ':' ::
          (padded 2 t.time.second ++ (writtenFraction t.time.nano ++ rest)))))) := by
  simp only [writtenCivil, Date.written, TimeOfDay.written, List.append_assoc, List.cons_append]

namespace Calendar

open Scanner

theorem exists_padded {width : Nat} (wide : 0 < width) (n : Nat) :
    ∃ c cs, padded width n = c :: cs ∧ c.isDigit = true := by
  have long := le_length_padded width n
  cases written : padded width n with
  | nil => simp [written] at long; omega
  | cons c cs => exact ⟨c, cs, rfl, isDigit_of_mem_padded c (written ▸ List.mem_cons_self)⟩

theorem halts_padded {width : Nat} (wide : 0 < width) (n : Nat) (rest : List Char) :
    Halts isBlank (padded width n ++ rest) := by
  obtain ⟨c, cs, written, digit⟩ := exists_padded wide n
  rw [written]
  exact .cons (isBlank_of_isDigit digit)

theorem number_padded {least width n : Nat} (wide : 0 < width) (few : least ≤ width)
    (small : n < 10 ^ width) (rest : List Char) :
    number least width (padded width n ++ rest) = some (n, rest) := by
  have length := length_padded wide small
  have enough : least ≤ (padded width n).length := by omega
  rw [number_append isDigit_of_mem_padded enough (Nat.le_of_eq length) (.inl length),
    ofDigitChars_padded]

theorem looseNumber_padded {n : Nat} (small : n < 100) (rest : List Char) :
    looseNumber (padded 2 n ++ rest) = some (n, rest) := by
  rw [looseNumber, bind_apply, blanks_apply (halts_padded (by decide) n rest)]
  exact number_padded (by decide) (by decide) small rest

theorem looseYear_written (year : Int) (rest : List Char) :
    looseYear (writtenYear year ++ '-' :: rest) = some (year, '-' :: rest) := by
  have signed : ∀ n, Scanner.digits (padded 4 n ++ '-' :: rest) = some (n, '-' :: rest) := by
    intro n
    have enough := le_length_padded 4 n
    rw [digits_append isDigit_of_mem_padded (by omega) (.cons rfl), ofDigitChars_padded]
  rw [looseYear, bind_apply, writtenYear]
  split
  · rename_i plain
    have wide : 0 < 4 := by decide
    obtain ⟨c, cs, written, digit⟩ := exists_padded wide year.toNat
    have read : number 1 4 (padded 4 year.toNat ++ '-' :: rest) = some (year.toNat, '-' :: rest) :=
      number_padded (by decide) (by decide) (by omega) _
    rw [blanks_apply (halts_padded wide _ _), Option.bind_some]
    rw [written, List.cons_append] at read ⊢
    -- a year without a sign begins with a digit
    split
    · rename_i same
      cases same
      cases digit
    · rename_i same
      cases same
      cases digit
    · rw [read, Option.map_some]
      dsimp only
      rw [Int.toNat_of_nonneg plain.1]
  · rename_i long
    split
    · rename_i before
      rw [List.cons_append, blanks_apply (.cons rfl), Option.bind_some]
      simp only [signed, Option.map_some]
      have same : -(year.natAbs : Int) = year := by omega
      rw [same]
    · rename_i after
      rw [List.cons_append, blanks_apply (.cons rfl), Option.bind_some]
      simp only [signed, Option.map_some]
      have same : (year.natAbs : Int) = year := by omega
      rw [same]

theorem optionalFraction_padded {width n : Nat} (wide : 0 < width) (few : width ≤ 9)
    (small : n < 10 ^ width) {rest : List Char} (halts : Halts Char.isDigit rest) :
    optionalFraction ('.' :: padded width n ++ rest) = some (n * 10 ^ (9 - width), rest) := by
  have length := length_padded wide small
  have read : (padded width n ++ rest).takeWhile Char.isDigit = padded width n :=
    takeWhile_append_halts isDigit_of_mem_padded halts
  have kept : (padded width n).take 9 = padded width n := List.take_of_length_le (by omega)
  have some_digit : (padded width n).isEmpty = false := by
    obtain ⟨c, cs, written, -⟩ := exists_padded wide n
    rw [written]
    rfl
  simp only [List.cons_append, optionalFraction, fraction, read, kept, some_digit,
    Bool.false_eq_true, if_false, ofDigitChars_padded, length]
  rw [List.drop_left' length]
  rfl

theorem optionalFraction_written {nano : Nat} (small : nano < nanosPerSecond) {c : Char}
    {rest : List Char} (point : c ≠ '.') (digit : c.isDigit = false) :
    optionalFraction (writtenFraction nano ++ c :: rest) = some (nano, c :: rest) := by
  simp only [nanosPerSecond] at small
  have halts : Halts Char.isDigit (c :: rest) := .cons digit
  unfold writtenFraction
  split
  · rename_i none
    rw [List.nil_append, none, optionalFraction]
    intro cs same
    exact point (List.cons.inj same).1
  split
  · rename_i millis
    have whole : nano / 1000000 * 10 ^ (9 - 3) = nano := by omega
    rw [optionalFraction_padded (by decide) (by decide) (by omega) halts, whole]
  split
  · rename_i micros
    have whole : nano / 1000 * 10 ^ (9 - 6) = nano := by omega
    rw [optionalFraction_padded (by decide) (by decide) (by omega) halts, whole]
  · rw [optionalFraction_padded (by decide) (by decide) (by omega) halts]
    simp

theorem inZone_zero (t : Instant) : inZone t.date t.time 0 = some t :=
  Instant.inZone_of_shownAs (by decide) ⟨(Int.add_zero _).symm, rfl, rfl⟩

theorem looseZone_written : looseZone ['Z'] = some (0, []) := by decide +kernel

theorem timeMark_written (rest : List Char) : timeMark ('T' :: rest) = some ((), rest) := rfl

theorem of?_date (d : Date) : Date.of? d.year d.month d.day = some d := dif_pos d.valid

theorem of?_time (t : TimeOfDay) : TimeOfDay.of? t.hour t.minute t.second t.nano = some t :=
  dif_pos t.valid

theorem looseInstant_written (t : Instant) :
    looseInstant (t.writtenCivil ++ ['Z']) = some (t, []) := by
  have ⟨month, day⟩ := t.date.parts_lt
  have ⟨hour, minute, second⟩ := t.time.parts_lt
  have ⟨_, _, _, nanos⟩ := t.time.valid
  have mark : ∀ c rest, isBlank c = false → blanks (c :: rest) = some ((), c :: rest) :=
    fun c rest shows => blanks_apply (.cons shows)
  rw [Instant.writtenCivil_append, looseInstant]
  refine (bind_of_some (looseYear_written t.date.year _) _).trans ?_
  refine (bind_of_some (mark '-' _ rfl) _).trans ?_
  refine (bind_of_some (literal_self '-' _) _).trans ?_
  refine (bind_of_some (looseNumber_padded month _) _).trans ?_
  refine (bind_of_some (mark '-' _ rfl) _).trans ?_
  refine (bind_of_some (literal_self '-' _) _).trans ?_
  refine (bind_of_some (looseNumber_padded day _) _).trans ?_
  refine (bind_of_some (timeMark_written _) _).trans ?_
  refine (bind_of_some (looseNumber_padded hour _) _).trans ?_
  refine (bind_of_some (mark ':' _ rfl) _).trans ?_
  refine (bind_of_some (literal_self ':' _) _).trans ?_
  refine (bind_of_some (looseNumber_padded minute _) _).trans ?_
  refine (bind_of_some (mark ':' _ rfl) _).trans ?_
  refine (bind_of_some (literal_self ':' _) _).trans ?_
  refine (bind_of_some (looseNumber_padded second _) _).trans ?_
  refine (bind_of_some (optionalFraction_written nanos (by decide) rfl) _).trans ?_
  refine (bind_of_some (mark 'Z' _ rfl) _).trans ?_
  refine (bind_of_some looseZone_written _).trans ?_
  refine (bind_of_some (blanks_apply .nil) _).trans ?_
  simp only [bind_apply, lift, of?_date, of?_time, Option.map_some, Option.bind_some, inZone_zero]

end Calendar

/-- The time of a record is read back from its text. -/
theorem Instant.ofText?_text (t : Instant) : Instant.ofText? t.text = some t := by
  rw [ofText?, text, String.toList_ofList, Scanner.all, looseInstant_written]

end ContactSegments
