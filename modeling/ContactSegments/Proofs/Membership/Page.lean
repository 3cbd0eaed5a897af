import ContactSegments.Membership
import Mathlib.Data.List.Induction

/-! # Pages of a list

A query for a page visits all matches one by one. What it ends with is a part of their list: what the
page's offset leaves of it, up to the page's limit.
-/

namespace ContactSegments

/-- The part of a list that a page shows. -/
def Page.slice (page : Page) (ids : List ContactId) : List ContactId :=
  (ids.drop page.offset).take page.limit

namespace Page

variable (page : Page)

/-- One match more is shown when the ones before it reach the page and do not fill it. -/
theorem slice_append_singleton (ids : List ContactId) (id : ContactId) :
    page.slice (ids ++ [id]) =
      if page.offset ≤ ids.length ∧ (page.slice ids).length < page.limit then page.slice ids ++ [id]
      else page.slice ids := by
  unfold slice
  rw [List.length_take, List.length_drop]
  split
  · rename_i shown
    obtain ⟨reached, room⟩ := shown
    have short : (ids.drop page.offset).length < page.limit := by
      rw [List.length_drop]
      omega
    rw [List.drop_append_of_le_length reached, List.take_of_length_le, List.take_of_length_le]
    · omega
    · rw [List.length_append, List.length_singleton]
      omega
  · rename_i hidden
    by_cases reached : page.offset ≤ ids.length
    · have full : page.limit ≤ (ids.drop page.offset).length := by
        rw [List.length_drop]
        omega
      rw [List.drop_append_of_le_length reached, List.take_append_of_le_length full]
    · have past : (ids ++ [id]).length ≤ page.offset := by
        rw [List.length_append, List.length_singleton]
        omega
      rw [List.drop_of_length_le past, List.drop_of_length_le (by omega)]

theorem visit_slice (ids : List ContactId) (id : ContactId) :
    page.visit ⟨ids.length, page.slice ids⟩ id = ⟨(ids ++ [id]).length, page.slice (ids ++ [id])⟩ := by
  rw [slice_append_singleton, List.length_append, List.length_singleton]
  rfl

/-- After all visits the number of matches is known, and the part of them that the page shows. -/
theorem foldl_visit (ids : List ContactId) :
    ids.foldl page.visit ⟨0, []⟩ = ⟨ids.length, page.slice ids⟩ := by
  induction ids using List.reverseRecOn with
  | nil => simp [slice]
  | append_singleton ids id ih =>
      rw [List.foldl_append, ih]
      exact page.visit_slice ids id

theorem check_eq_ok {max : Nat} (room : 1 ≤ page.limit) (small : page.limit ≤ max) :
    page.check max = .ok () := by
  unfold check
  rw [if_neg (by omega), if_neg (by omega)]

end Page

/-- The page after this one starts where it ends, if it shows something and something is left. -/
def Page.next? (page : Page) (ids : List ContactId) : Option Nat :=
  if page.slice ids ≠ [] ∧ page.offset + (page.slice ids).length < ids.length then
    some (page.offset + (page.slice ids).length)
  else none

/-- Offsets do not go past the largest one, and lists that are counted do not reach beyond it. -/
theorem Page.toPage_slice (page : Page) {ids : List ContactId} (counted : ids.length < wordBound) :
    QueryResult.toPage ⟨ids.length, page.slice ids⟩ page.offset =
      ⟨page.slice ids, ids.length, page.offset, page.next? ids⟩ := by
  have most : ids.length ≤ largestOffset := Nat.le_pred_of_lt counted
  simp only [QueryResult.toPage, Page.next?, MemberPage.mk.injEq, true_and, Bool.and_eq_true,
    Bool.not_eq_true', List.isEmpty_eq_false_iff, decide_eq_true_eq, ne_eq]
  by_cases left : page.offset + (page.slice ids).length < ids.length
  · have within : min (page.offset + (page.slice ids).length) largestOffset =
        page.offset + (page.slice ids).length := by omega
    rw [within]
  · have past : ¬ min (page.offset + (page.slice ids).length) largestOffset < ids.length := by omega
    rw [if_neg fun both => past both.2, if_neg fun both => left both.2]

end ContactSegments
