import ContactSegments.Proofs.Text.Digits
import ContactSegments.Uuid
import Mathlib.Data.List.Nodup

/-! # Identifiers

Identifiers come in the order of their numbers. An identifier is read back from its text: the hyphens
stand where they are looked for, and between them are the digits of the number.
-/

namespace ContactSegments.Uuid

open Text

theorem compare_eq_lt_iff {a b : Uuid} : compare a b = .lt ↔ a.value.val < b.value.val :=
  Nat.compare_eq_lt

theorem isLE_compare_iff {a b : Uuid} : (compare a b).isLE ↔ a.value.val ≤ b.value.val :=
  Nat.isLE_compare

theorem value_inj {a b : Uuid} : a.value.val = b.value.val ↔ a = b := by
  cases a
  cases b
  rw [Uuid.mk.injEq, Fin.val_inj]

/-- Identifiers in ascending order are what sorting the same identifiers gives. -/
theorem mergeSort_eq_of_ascending {ids ascending : List Uuid} (once : ids.Nodup)
    (ordered : ascending.Pairwise fun a b => compare a b = .lt)
    (same : ∀ id, id ∈ ids ↔ id ∈ ascending) :
    ids.mergeSort (fun a b => (compare a b).isLE) = ascending := by
  have distinct : ascending.Nodup := by
    refine ordered.imp fun before => ?_
    rintro rfl
    exact absurd (compare_eq_lt_iff.mp before) (Nat.lt_irrefl _)
  have perm : (ids.mergeSort fun a b => (compare a b).isLE).Perm ascending :=
    (List.mergeSort_perm _ _).trans ((List.perm_ext_iff_of_nodup once distinct).mpr same)
  have sorted : (ids.mergeSort fun a b => (compare a b).isLE).Pairwise
      fun a b => (compare a b).isLE = true := by
    refine List.pairwise_mergeSort ?_ ?_ _
    · intro a b c
      simp only [isLE_compare_iff]
      exact Nat.le_trans
    · intro a b
      rw [Bool.or_eq_true, isLE_compare_iff, isLE_compare_iff]
      exact Nat.le_total _ _
  have ordered' : ascending.Pairwise fun a b => (compare a b).isLE = true :=
    ordered.imp fun before => isLE_compare_iff.mpr (Nat.le_of_lt (compare_eq_lt_iff.mp before))
  refine perm.eq_of_pairwise ?_ sorted ordered'
  intro a b _ _ first second
  exact value_inj.mp (Nat.le_antisymm (isLE_compare_iff.mp first) (isLE_compare_iff.mp second))

/-- How many digits groups of these lengths have. -/
def digitsOf (sizes : List Nat) : Nat := sizes.foldr (· + ·) 0

theorem unhyphenated?_hyphenated {sizes : List Nat} (some_group : sizes ≠ []) {cs : List Char}
    (long : cs.length = digitsOf sizes) :
    unhyphenated? sizes (hyphenated sizes cs) = some cs := by
  fun_induction hyphenated sizes cs with
  | case1 => exact absurd rfl some_group
  | case2 n cs =>
      have all : cs.take n = cs := List.take_of_length_le (by simp [digitsOf] at long; omega)
      simp only [unhyphenated?, all]
      exact if_pos long
  | case3 n sizes cs more ih =>
      have first : (cs.take n).length = n := by
        rw [List.length_take]
        simp only [digitsOf, List.foldr_cons] at long
        omega
      have others : (cs.drop n).length = digitsOf sizes := by
        rw [List.length_drop]
        simp only [digitsOf, List.foldr_cons] at long ⊢
        omega
      obtain ⟨m, rest, rfl⟩ := List.exists_cons_of_ne_nil more
      have gap : (cs.take n ++ '-' :: hyphenated (m :: rest) (cs.drop n)).drop n =
          '-' :: hyphenated (m :: rest) (cs.drop n) := List.drop_left' first
      have front : (cs.take n ++ '-' :: hyphenated (m :: rest) (cs.drop n)).take n = cs.take n :=
        List.take_left' first
      simp only [unhyphenated?, gap, front, ih nofun others, Option.map_some, List.take_append_drop]

theorem length_hyphenated {sizes : List Nat} (some_group : sizes ≠ []) {cs : List Char}
    (long : cs.length = digitsOf sizes) :
    (hyphenated sizes cs).length + 1 = cs.length + sizes.length := by
  fun_induction hyphenated sizes cs with
  | case1 => exact absurd rfl some_group
  | case2 n cs =>
      simp only [digitsOf, List.foldr_cons, List.foldr_nil] at long
      simp only [List.length_take, List.length_cons, List.length_nil]
      omega
  | case3 n sizes cs more ih =>
      simp only [digitsOf, List.foldr_cons] at long
      have others : (cs.drop n).length = digitsOf sizes := by
        simp only [List.length_drop, digitsOf]
        omega
      have rest := ih more others
      simp only [List.length_append, List.length_cons, List.length_take, List.length_drop] at rest ⊢
      omega

/-- Hyphens stand between the groups. -/
theorem length_le_count_hyphenated (sizes : List Nat) (cs : List Char) :
    sizes.length ≤ (hyphenated sizes cs).count '-' + 1 := by
  fun_induction hyphenated sizes cs with
  | case1 => exact Nat.zero_le _
  | case2 n cs => exact Nat.le_add_left _ _
  | case3 n sizes cs more ih =>
      rw [List.count_append, List.count_cons_self, List.length_cons]
      omega

theorem ofDigits?_hexDigits (id : Uuid) : ofDigits? (hexDigits 32 id.value.val) = some id := by
  have small : id.value.val % 16 ^ 32 = id.value.val := Nat.mod_eq_of_lt id.value.isLt
  simp only [ofDigits?, hexNumber?_hexDigits, small, Option.bind_eq_bind, Option.bind_some]
  exact dif_pos ⟨length_hexDigits _ _, id.value.isLt⟩

theorem length_written (id : Uuid) : id.written.length = 36 := by
  have hyphens : id.written.length + 1 = (hexDigits 32 id.value.val).length + groups.length :=
    length_hyphenated (by decide) (length_hexDigits _ _)
  rw [length_hexDigits] at hyphens
  simpa [groups] using hyphens

theorem unhyphenated?_written (id : Uuid) :
    unhyphenated? groups id.written = some (hexDigits 32 id.value.val) :=
  unhyphenated?_hyphenated (by decide) (length_hexDigits _ _)

theorem ofText?_text (id : Uuid) : ofText? id.text = some id := by
  have hyphenated : ofChars? id.written = ofHyphenated? id.written := by
    unfold ofChars?
    simp only [length_written]
    rfl
  rw [ofText?, text, String.toList_ofList, hyphenated]
  simp only [ofHyphenated?, unhyphenated?_written, Option.bind_eq_bind, Option.bind_some,
    ofDigits?_hexDigits]

end ContactSegments.Uuid
