import ContactSegments.Text.Folding
import Mathlib.Data.List.Infix

/-! # Folding a piece of a text

A piece of a text is folded inside the text as it is on its own, capital sigmas apart: whether one of
them ends a word is seen from the characters around it, and the piece may not have enough of them. Where
the piece is not torn out of a word at a sigma, its folding stands in the folding of the text.
-/

namespace ContactSegments.Text

/-- The lower case of characters inside a longer text, with the characters before them, nearest first,
    and those after them. -/
def foldedWithin (before : List Char) : List Char → List Char → List Char
  | [], _ => []
  | c :: cs, after =>
    (if c = capitalSigma then [lowercaseSigma before (cs ++ after)] else lowercaseChar c) ++
      foldedWithin (c :: before) cs after

theorem foldedAfter_append (before cs after : List Char) :
    foldedAfter before (cs ++ after) =
      foldedWithin before cs after ++ foldedAfter (cs.reverse ++ before) after := by
  induction cs generalizing before with
  | nil => rfl
  | cons c cs ih => simp [foldedAfter, foldedWithin, ih]

theorem folded_eq_foldedWithin (cs : List Char) : folded cs = foldedWithin [] cs [] := by
  simpa [folded, foldedAfter] using foldedAfter_append [] cs []

theorem folded_append (before cs after : List Char) :
    folded (before ++ cs ++ after) =
      foldedWithin [] before (cs ++ after) ++ foldedWithin before.reverse cs after ++
        foldedAfter (cs.reverse ++ before.reverse) after := by
  rw [folded, List.append_assoc, foldedAfter_append, foldedAfter_append, List.append_nil,
    List.append_assoc]

theorem lowercaseChar_ne_nil (c : Char) : lowercaseChar c ≠ [] := by
  unfold lowercaseChar
  split_ifs <;> exact List.cons_ne_nil _ _

theorem length_le_length_foldedAfter (before cs : List Char) :
    cs.length ≤ (foldedAfter before cs).length := by
  induction cs generalizing before with
  | nil => exact Nat.zero_le _
  | cons c cs ih =>
      have first := List.length_pos_iff.mpr (lowercaseChar_ne_nil c)
      have others := ih (c :: before)
      simp only [foldedAfter, List.length_append, List.length_cons]
      split_ifs
      · simp only [List.length_singleton]
        omega
      · omega

theorem lowercaseSigma_ne_capitalSigma (before after : List Char) :
    lowercaseSigma before after ≠ capitalSigma := by
  unfold lowercaseSigma
  split_ifs <;> decide

/-- A text is its own folding when each of its characters is. -/
theorem foldedAfter_eq_self_iff {before cs : List Char} :
    foldedAfter before cs = cs ↔ ∀ c ∈ cs, c ≠ capitalSigma ∧ lowercaseChar c = [c] := by
  induction cs generalizing before with
  | nil => simp [foldedAfter]
  | cons c cs ih =>
      rw [List.forall_mem_cons, ← @ih (c :: before), foldedAfter]
      constructor
      · intro same
        have others := length_le_length_foldedAfter (c :: before) cs
        have long := congrArg List.length same
        rw [List.length_append, List.length_cons] at long
        split_ifs at same long with sigma
        · have first := (List.cons.inj same).1
          rw [sigma] at first
          exact absurd first (lowercaseSigma_ne_capitalSigma _ _)
        · have some_char := List.length_pos_iff.mpr (lowercaseChar_ne_nil c)
          have rest_long : (foldedAfter (c :: before) cs).length = cs.length := by omega
          obtain ⟨own, rest⟩ := List.append_inj' (same.trans List.singleton_append.symm) rest_long
          exact ⟨⟨sigma, own⟩, rest⟩
      · intro ⟨⟨plain, own⟩, rest⟩
        rw [if_neg plain, own, rest, List.singleton_append]

/-- The characters around a sigma decide which letter it becomes, and not how many there are. -/
theorem length_foldedWithin (before before' cs after after' : List Char) :
    (foldedWithin before cs after).length = (foldedWithin before' cs after').length := by
  induction cs generalizing before before' with
  | nil => rfl
  | cons c cs ih =>
      simp only [foldedWithin, List.length_append, ih (c :: before) (c :: before')]
      split <;> rfl

theorem length_folded (cs : List Char) {before after : List Char} :
    (folded cs).length = (foldedWithin before cs after).length := by
  rw [folded_eq_foldedWithin]
  exact length_foldedWithin ..

/-- Two foldings of the same characters are the same when every capital sigma is folded alike. -/
theorem foldedWithin_eq_iff {before before' cs after after' : List Char} :
    foldedWithin before cs after = foldedWithin before' cs after' ↔
      ∀ front rest, cs = front ++ capitalSigma :: rest →
        lowercaseSigma (front.reverse ++ before) (rest ++ after) =
          lowercaseSigma (front.reverse ++ before') (rest ++ after') := by
  induction cs generalizing before before' with
  | nil => simp [foldedWithin]
  | cons c cs ih =>
      simp only [foldedWithin]
      constructor
      · intro same front rest split
        obtain ⟨heads, tails⟩ := List.append_inj' same (length_foldedWithin ..)
        cases front with
        | nil =>
            obtain ⟨rfl, rfl⟩ := List.cons.inj split
            simpa using heads
        | cons d front =>
            obtain ⟨rfl, others⟩ := List.cons.inj split
            simpa using ih.mp tails front rest others
      · intro alike
        have tails : foldedWithin (c :: before) cs after = foldedWithin (c :: before') cs after' :=
          ih.mpr fun front rest same => by simpa using alike (c :: front) rest (by rw [same]; rfl)
        rw [tails]
        split
        · rename_i sigma
          have heads := alike [] cs (by rw [sigma]; rfl)
          simp only [List.reverse_nil, List.nil_append] at heads
          rw [heads]
        · rfl

/-- The piece between the characters before it and after it is torn out of a word at a capital sigma. -/
inductive Torn (before piece after : List Char) : Prop
  /-- In the piece the sigma ends a word, which goes on after the piece. -/
  | ahead (front rest : List Char) (sigma : piece = front ++ capitalSigma :: rest)
    (word : meetsCased front.reverse = true) (last : rest.all isCaseIgnorable = true)
    (goesOn : meetsCased after = true) : Torn before piece after
  /-- In the piece the sigma stands alone, and it ends a word that began before the piece. -/
  | behind (front rest : List Char) (sigma : piece = front ++ capitalSigma :: rest)
    (first : front.all isCaseIgnorable = true) (began : meetsCased before.reverse = true)
    (ends : meetsCased (rest ++ after) = false) : Torn before piece after

theorem meetsCased_append (front rest : List Char) :
    meetsCased (front ++ rest) =
      if front.all isCaseIgnorable then meetsCased rest else meetsCased front := by
  induction front with
  | nil => rfl
  | cons c front ih =>
      simp only [meetsCased, List.cons_append, List.dropWhile_cons, List.all_cons] at ih ⊢
      cases isCaseIgnorable c <;> simp [ih]

theorem meetsCased_of_all {cs : List Char} (ignorable : cs.all isCaseIgnorable = true) :
    meetsCased cs = false := by
  simpa [ignorable, meetsCased] using meetsCased_append cs []

theorem lowercaseSigma_eq_iff {before before' after after' : List Char} :
    lowercaseSigma before after = lowercaseSigma before' after' ↔
      (meetsCased before && !meetsCased after) = (meetsCased before' && !meetsCased after') := by
  have differ : finalSigma ≠ smallSigma := by decide
  unfold lowercaseSigma
  cases meetsCased before && !meetsCased after <;>
    cases meetsCased before' && !meetsCased after' <;> simp [differ, differ.symm]

/-- A sigma of a piece becomes another letter than on its own in two ways: it ends a word in the piece
    which goes on after it, or it stands alone in the piece and ends a word that began before. -/
theorem lowercaseSigma_within_iff {before front rest after : List Char} :
    lowercaseSigma (front.reverse ++ before.reverse) (rest ++ after) =
        lowercaseSigma front.reverse rest ↔
      ¬ (meetsCased front.reverse = true ∧ rest.all isCaseIgnorable = true ∧
          meetsCased after = true) ∧
        ¬ (front.all isCaseIgnorable = true ∧ meetsCased before.reverse = true ∧
          meetsCased (rest ++ after) = false) := by
  rw [lowercaseSigma_eq_iff, meetsCased_append front.reverse, List.all_reverse]
  cases first : front.all isCaseIgnorable with
  | true =>
      have alone : meetsCased front.reverse = false :=
        meetsCased_of_all (by rwa [List.all_reverse])
      cases meetsCased before.reverse <;> cases meetsCased (rest ++ after) <;> simp [alone]
  | false =>
      rw [meetsCased_append rest]
      cases last : rest.all isCaseIgnorable with
      | true =>
          have ended := meetsCased_of_all last
          cases meetsCased front.reverse <;> cases meetsCased after <;> simp [ended]
      | false => simp

/-- A piece is folded inside a text as on its own just when it is not torn out of a word. -/
theorem foldedWithin_eq_folded_iff {before piece after : List Char} :
    foldedWithin before.reverse piece after = folded piece ↔ ¬ Torn before piece after := by
  rw [folded_eq_foldedWithin, foldedWithin_eq_iff]
  simp only [List.append_nil, lowercaseSigma_within_iff]
  constructor
  · rintro alike (⟨front, rest, sigma, word, last, goesOn⟩ | ⟨front, rest, sigma, first, began, ends⟩)
    · exact (alike front rest sigma).1 ⟨word, last, goesOn⟩
    · exact (alike front rest sigma).2 ⟨first, began, ends⟩
  · intro whole front rest sigma
    exact ⟨fun ⟨word, last, goesOn⟩ => whole (.ahead front rest sigma word last goesOn),
      fun ⟨first, began, ends⟩ => whole (.behind front rest sigma first began ends)⟩

theorem not_torn_of_notMem {piece : List Char} (none : capitalSigma ∉ piece)
    (before after : List Char) : ¬ Torn before piece after := by
  rintro (⟨front, rest, sigma, -⟩ | ⟨front, rest, sigma, -⟩) <;> simp [sigma] at none

/-- What is its own folding stays as it is behind other characters. -/
theorem folded_append_of_folded {front cs : List Char} (none : capitalSigma ∉ front)
    (own : folded cs = cs) : folded (front ++ cs) = folded front ++ cs := by
  have whole : foldedWithin [] front cs = folded front :=
    foldedWithin_eq_folded_iff.mpr (not_torn_of_notMem none [] cs)
  have kept : foldedAfter (front.reverse ++ []) cs = cs :=
    foldedAfter_eq_self_iff.mpr (foldedAfter_eq_self_iff.mp own)
  rw [← whole]
  exact (foldedAfter_append [] front cs).trans (congrArg _ kept)

theorem folded_isInfix {before piece after : List Char} (whole : ¬ Torn before piece after) :
    folded piece <:+: folded (before ++ piece ++ after) := by
  rw [folded_append, foldedWithin_eq_folded_iff.mpr whole]
  exact List.infix_append _ _ _

theorem folded_isPrefix_iff {piece after : List Char} :
    folded piece <+: folded (piece ++ after) ↔ ¬ Torn [] piece after := by
  have split := folded_append [] piece after
  rw [List.nil_append] at split
  rw [split, ← foldedWithin_eq_folded_iff, foldedWithin, List.nil_append]
  constructor
  · rintro ⟨rest, joined⟩
    exact (List.append_inj joined (length_folded piece)).1.symm
  · intro same
    rw [same]
    exact List.prefix_append _ _

theorem folded_isSuffix_iff {before piece : List Char} :
    folded piece <:+ folded (before ++ piece) ↔ ¬ Torn before piece [] := by
  have split := folded_append before piece []
  rw [List.append_nil, List.append_nil, foldedAfter, List.append_nil] at split
  rw [split, ← foldedWithin_eq_folded_iff]
  constructor
  · rintro ⟨front, joined⟩
    exact (List.append_inj' joined (length_folded piece)).2.symm
  · intro same
    rw [same]
    exact List.suffix_append _ _

end ContactSegments.Text
