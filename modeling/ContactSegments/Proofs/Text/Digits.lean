import ContactSegments.Calendar.Written
import ContactSegments.Proofs.Text.Scanner
import ContactSegments.Text.Hex
import Mathlib.Algebra.Group.Nat.Defs

/-! # Digits

A number that is written in digits, with leading zeros or without, is read back from them. Hexadecimal
digits come in rows of a known width; decimal ones are read off the front of a text, as many as there
are or as many as are wanted.
-/

namespace ContactSegments

namespace Text

theorem toNat_of_isDigit {c : Char} (digit : c.isDigit = true) : 48 ≤ c.toNat ∧ c.toNat ≤ 57 := by
  simpa [Char.isDigit, UInt32.le_iff_toNat_le] using digit

theorem hexDigit?_digitChar : ∀ d < 16, hexDigit? (Nat.digitChar d) = some d := by decide

theorem hexNumber?_append (sofar : Nat) (front rest : List Char) :
    hexNumber? sofar (front ++ rest) = (hexNumber? sofar front).bind (hexNumber? · rest) := by
  induction front generalizing sofar with
  | nil => rfl
  | cons c front ih =>
      simp only [List.cons_append, hexNumber?, Option.bind_eq_bind]
      cases hexDigit? c with
      | none => rfl
      | some d => exact ih _

@[simp] theorem length_hexDigits (width n : Nat) : (hexDigits width n).length = width := by
  induction width generalizing n with
  | zero => rfl
  | succ width ih => simp [hexDigits, ih]

/-- Of a number with more digits the last ones are written. -/
theorem hexNumber?_hexDigits (width n : Nat) :
    hexNumber? 0 (hexDigits width n) = some (n % 16 ^ width) := by
  induction width generalizing n with
  | zero => simp [hexDigits, hexNumber?, Nat.mod_one]
  | succ width ih =>
      have last := hexDigit?_digitChar (n % 16) (Nat.mod_lt n (by decide))
      have split : n % 16 ^ (width + 1) = 16 * (n / 16 % 16 ^ width) + n % 16 := by
        rw [Nat.pow_succ', Nat.mod_mul]
        omega
      simp only [hexDigits, hexNumber?_append, ih, Option.bind_some, hexNumber?, last,
        Option.bind_eq_bind, split]

namespace Scanner

theorem number_append {digits rest : List Char} (decimal : ∀ c ∈ digits, c.isDigit = true)
    {least most : Nat} (enough : least ≤ digits.length) (few : digits.length ≤ most)
    (halts : digits.length = most ∨ Halts Char.isDigit rest) :
    number least most (digits ++ rest) = some (Nat.ofDigitChars 10 digits 0, rest) := by
  have front : ((digits ++ rest).take most).takeWhile Char.isDigit = digits := by
    rcases halts with full | halts
    · rw [← full, List.take_left]
      simpa using takeWhile_append_halts decimal .nil
    · rw [List.take_append, List.take_of_length_le few]
      refine takeWhile_append_halts decimal fun c first => ?_
      refine halts c ?_
      cases rest with
      | nil => simp at first
      | cons d rest =>
          cases wanted : most - digits.length <;> simp_all
  simp only [number, front, if_neg (Nat.not_lt.mpr enough), List.drop_left]

end Scanner

end Text

namespace Calendar

open Text

theorem isDigit_of_mem_padded {width n : Nat} : ∀ c ∈ padded width n, c.isDigit = true := by
  intro c within
  rcases List.mem_append.mp within with zero | digit
  · rw [(List.mem_replicate.mp zero).2]
    rfl
  · exact Nat.isDigit_of_mem_toDigits (by decide) (by decide) digit

theorem ofDigitChars_padded (width n : Nat) : Nat.ofDigitChars 10 (padded width n) 0 = n := by
  simp [padded, Nat.ofDigitChars_append, Nat.ofDigitChars_replicate_zero]

theorem le_length_padded (width n : Nat) : width ≤ (padded width n).length := by
  simp only [padded, List.length_append, List.length_replicate]
  omega

theorem length_padded {width n : Nat} (wide : 0 < width) (small : n < 10 ^ width) :
    (padded width n).length = width := by
  have short := (Nat.length_toDigits_le_iff (by decide) wide).mpr small
  simp only [padded, List.length_append, List.length_replicate]
  omega

end Calendar

end ContactSegments
