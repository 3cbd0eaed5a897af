import ContactSegments.Text.Blank
import Mathlib.Data.List.DropRight

/-! # Trimmed texts

A text that is trimmed begins and ends with characters that are not blank, so trimming it again changes
nothing.
-/

namespace ContactSegments.Text

theorem dropWhile_trimmed (cs : List Char) : (trimmed cs).dropWhile isBlank = trimmed cs := by
  rw [List.dropWhile_eq_self_iff]
  intro some
  -- what is left after the end is trimmed begins as the text did before
  have front : trimmed cs <+: cs.dropWhile isBlank := List.rdropWhile_prefix isBlank _
  rw [front.getElem some]
  exact List.dropWhile_get_zero_not isBlank cs _

/-- Blanks around a text change nothing of what is left when it is trimmed. -/
theorem trimmed_surrounded {front back : List Char} (fronts : ∀ c ∈ front, isBlank c = true)
    (backs : ∀ c ∈ back, isBlank c = true) (cs : List Char) :
    trimmed (front ++ cs ++ back) = trimmed cs := by
  have nothing : back.dropWhile isBlank = [] := List.dropWhile_eq_nil_iff.mpr backs
  have ended (shown : List Char) : (shown ++ back).rdropWhile isBlank = shown.rdropWhile isBlank := by
    rw [List.rdropWhile, List.reverse_append,
      List.dropWhile_append_of_pos fun c within => backs c (List.mem_reverse.mp within)]
    rfl
  calc trimmed (front ++ cs ++ back)
      = ((cs ++ back).dropWhile isBlank).rdropWhile isBlank := by
        rw [List.append_assoc, trimmed, List.dropWhile_append_of_pos fronts]
        rfl
    _ = (cs.dropWhile isBlank).rdropWhile isBlank := by
        rw [List.dropWhile_append]
        split
        · rename_i blank
          rw [nothing, List.isEmpty_iff.mp blank]
        · rw [ended]

theorem trimmed_of_shown {cs : List Char} (shown : ∀ c ∈ cs, isBlank c = false) : trimmed cs = cs := by
  have kept {ds : List Char} (shown : ∀ c ∈ ds, isBlank c = false) : ds.dropWhile isBlank = ds := by
    cases ds with
    | nil => rfl
    | cons d ds => rw [List.dropWhile_cons, shown d List.mem_cons_self, if_neg Bool.false_ne_true]
  rw [trimmed, kept shown, kept fun c within => shown c (List.mem_reverse.mp within),
    List.reverse_reverse]

theorem trimmed_trimmed (cs : List Char) : trimmed (trimmed cs) = trimmed cs := by
  have ended : (trimmed cs).rdropWhile isBlank = trimmed cs := List.rdropWhile_idempotent isBlank _
  calc trimmed (trimmed cs) = ((trimmed cs).dropWhile isBlank).rdropWhile isBlank := rfl
    _ = (trimmed cs).rdropWhile isBlank := by rw [dropWhile_trimmed]
    _ = trimmed cs := ended

theorem trimmed_eq_nil_iff {cs : List Char} : trimmed cs = [] ↔ cs.all isBlank = true := by
  have ends : trimmed cs = (cs.dropWhile isBlank).rdropWhile isBlank := rfl
  rw [ends, List.rdropWhile_eq_nil_iff, List.all_eq_true]
  constructor
  · intro blank
    refine List.dropWhile_eq_nil_iff.mp ?_
    by_contra shown
    -- the first character that is left is not blank
    have first := List.head_dropWhile_not isBlank shown
    exact absurd (blank _ (List.head_mem shown)) (by simp [first])
  · intro blank c within
    exact blank c ((List.dropWhile_sublist _).subset within)

theorem toList_trim (s : String) : (trim s).toList = trimmed s.toList := String.toList_ofList

theorem isBlankText_iff {s : String} : isBlankText s = true ↔ trim s = "" := by
  rw [isBlankText, ← trimmed_eq_nil_iff, ← toList_trim, String.toList_eq_nil_iff]

theorem trim_trim (s : String) : trim (trim s) = trim s := by
  unfold trim
  rw [String.toList_ofList, trimmed_trimmed]

end ContactSegments.Text
