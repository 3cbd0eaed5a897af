import ContactSegments.Text.Search
import Mathlib.Data.List.Infix

/-! # Occurrence as a relation

The suffixes that a search goes through are exactly those of the haystack, so a needle is found just
when it stands somewhere in the haystack in one piece.
-/

namespace ContactSegments.Text

theorem mem_suffixes {rest hay : List α} : rest ∈ suffixes hay ↔ rest <:+ hay := by
  induction hay with
  | nil => simp [suffixes]
  | cons a as ih => simp only [suffixes, List.mem_cons, ih, List.suffix_cons_iff]

theorem any_suffixes {test : List α → Bool} {hay : List α} :
    (suffixes hay).any test = true ↔ ∃ front rest, hay = front ++ rest ∧ test rest = true := by
  simp only [List.any_eq_true, mem_suffixes]
  constructor
  · rintro ⟨rest, ⟨front, joined⟩, held⟩
    exact ⟨front, rest, joined.symm, held⟩
  · rintro ⟨front, rest, joined, held⟩
    exact ⟨rest, ⟨front, joined.symm⟩, held⟩

theorem occursIn_iff [BEq α] [LawfulBEq α] {needle hay : List α} :
    occursIn needle hay = true ↔ needle <:+: hay := by
  simp only [occursIn, List.any_eq_true, mem_suffixes, List.isPrefixOf_iff_prefix]
  rw [List.infix_iff_prefix_suffix]
  constructor
  · rintro ⟨rest, inside, begins⟩
    exact ⟨rest, begins, inside⟩
  · rintro ⟨rest, begins, inside⟩
    exact ⟨rest, inside, begins⟩

end ContactSegments.Text
