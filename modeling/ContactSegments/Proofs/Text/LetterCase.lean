import ContactSegments.Text.Folding

/-! # The case of ASCII letters

Texts that differ in the case of ASCII letters alone are folded alike, whatever other letters stand
between these. For the letters themselves the folding removes the difference, and a capital sigma beside
one sees a letter with case either way.
-/

namespace ContactSegments.Text

/-- The texts are the same but for the case of letters `A` to `Z`; `Char.toLower` changes no other
    characters. -/
def SameLetters (s t : String) : Prop := s.toList.map Char.toLower = t.toList.map Char.toLower

instance (s t : String) : Decidable (SameLetters s t) :=
  inferInstanceAs (Decidable (_ = _))

/-- The capitals of ASCII. -/
def capital (k : Fin 26) : Char := .ofNat (0x41 + k)

theorem toLower_eq_or (c : Char) : c.toLower = c ∨ ∃ k, c = capital k := by
  by_cases letter : 'A'.val ≤ c.val ∧ c.val ≤ 'Z'.val
  · obtain ⟨low, high⟩ := letter
    have first : 65 ≤ c.toNat := low
    have last : c.toNat ≤ 90 := high
    refine .inr ⟨⟨c.toNat - 65, by omega⟩, ?_⟩
    have same : 0x41 + (c.toNat - 65) = c.toNat := by omega
    rw [capital, same, Char.ofNat_toNat]
  · exact .inl (dif_neg letter)

/-- What is the same for the capitals and their small letters is the same for every character. -/
theorem apply_toLower {α : Type} {f : Char → α} (letters : ∀ k, f (capital k).toLower = f (capital k))
    (c : Char) : f c.toLower = f c := by
  obtain same | ⟨k, rfl⟩ := toLower_eq_or c
  · rw [same]
  · exact letters k

theorem lowercaseChar_toLower (c : Char) : lowercaseChar c.toLower = lowercaseChar c :=
  apply_toLower (by decide +kernel) c

theorem isCased_toLower (c : Char) : isCased c.toLower = isCased c :=
  apply_toLower (by decide +kernel) c

theorem isCaseIgnorable_toLower (c : Char) : isCaseIgnorable c.toLower = isCaseIgnorable c :=
  apply_toLower (by decide +kernel) c

theorem isBlank_toLower (c : Char) : isBlank c.toLower = isBlank c :=
  apply_toLower (by decide +kernel) c

theorem toLower_eq_capitalSigma_iff (c : Char) : c.toLower = capitalSigma ↔ c = capitalSigma := by
  have same : decide (c.toLower = capitalSigma) = decide (c = capitalSigma) :=
    apply_toLower (f := fun c => decide (c = capitalSigma)) (by decide +kernel) c
  simpa using same

theorem meetsCased_map_toLower (cs : List Char) : meetsCased (cs.map Char.toLower) = meetsCased cs := by
  induction cs with
  | nil => rfl
  | cons c cs ih =>
      simp only [meetsCased, List.map_cons, List.dropWhile_cons, isCaseIgnorable_toLower] at ih ⊢
      cases isCaseIgnorable c with
      | true => exact ih
      | false => exact isCased_toLower c

theorem lowercaseSigma_map_toLower (before after : List Char) :
    lowercaseSigma (before.map Char.toLower) (after.map Char.toLower) = lowercaseSigma before after := by
  simp only [lowercaseSigma, meetsCased_map_toLower]

theorem foldedAfter_map_toLower (before cs : List Char) :
    foldedAfter (before.map Char.toLower) (cs.map Char.toLower) = foldedAfter before cs := by
  induction cs generalizing before with
  | nil => rfl
  | cons c cs ih =>
      have rest := ih (c :: before)
      rw [List.map_cons] at rest
      simp only [List.map_cons, foldedAfter, rest, toLower_eq_capitalSigma_iff,
        lowercaseSigma_map_toLower, lowercaseChar_toLower]

namespace SameLetters

variable {s t : String}

theorem folded_eq (same : SameLetters s t) : folded s.toList = folded t.toList :=
  calc folded s.toList
      = folded (s.toList.map Char.toLower) := (foldedAfter_map_toLower [] _).symm
    _ = folded (t.toList.map Char.toLower) := congrArg folded same
    _ = folded t.toList := foldedAfter_map_toLower [] _

theorem fold_eq (same : SameLetters s t) : fold s = fold t := congrArg String.ofList same.folded_eq

theorem isBlankText_eq (same : SameLetters s t) : isBlankText s = isBlankText t := by
  have unchanged (cs : List Char) : (cs.map Char.toLower).all isBlank = cs.all isBlank := by
    simp only [List.all_map, Function.comp_def, isBlank_toLower]
  rw [isBlankText, ← unchanged, same, unchanged, isBlankText]

end SameLetters

end ContactSegments.Text
