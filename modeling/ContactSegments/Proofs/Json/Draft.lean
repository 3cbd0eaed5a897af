import ContactSegments.Json.Draft
import ContactSegments.Proofs.Json.Token

/-! # The draft of written text

The tokens of a value make up its draft again, whatever stands after them. Each token costs a step at
the most, so as many steps as tokens are enough.
-/

namespace ContactSegments

namespace Json

/-- No value begins with the end of an array. -/
theorem exists_tokens (j : Json) :
    ∃ t ts, j.tokens = t :: ts ∧ t ≠ .mark ']' := by
  rcases j with _ | b | n | s | (_ | ⟨item, items⟩) | (_ | ⟨⟨key, value⟩, members⟩) <;>
    exact ⟨_, _, rfl, by simp⟩

theorem length_tokens_pos (j : Json) : 0 < j.tokens.length := by
  obtain ⟨t, ts, first, -⟩ := j.exists_tokens
  simp [first]

end Json

namespace Draft

theorem value_array {tokens : List Token} (full : ∀ rest, tokens ≠ .mark ']' :: rest)
    (fuel : Nat) :
    value (fuel + 1) (.mark '[' :: tokens) =
      (.array (items fuel tokens).1 (items fuel tokens).2.isSome, (items fuel tokens).2) := by
  rw [value]
  exact full

theorem value_object (fuel : Nat) (key : Option String) (tokens : List Token) :
    value (fuel + 1) (.mark '\x7b' :: .string key :: tokens) =
      (.object (members fuel (.string key :: tokens)).1
        (members fuel (.string key :: tokens)).2.isSome,
        (members fuel (.string key :: tokens)).2) := by
  rw [value]
  exact nofun

mutual

theorem value_tokens : (j : Json) → {fuel : Nat} → j.tokens.length ≤ fuel → (rest : List Token) →
    value fuel (j.tokens ++ rest) = (ofJson j, some rest)
  | j, 0, enough, _ => absurd j.length_tokens_pos (Nat.not_lt.mpr enough)
  | .null, _ + 1, _, _ | .bool _, _ + 1, _, _ | .number _, _ + 1, _, _ | .string _, _ + 1, _, _
  | .array [], _ + 1, _, _ | .object [], _ + 1, _, _ => rfl
  | .array (item :: others), fuel + 1, enough, rest => by
      -- what stands after the bracket is an item and not the end of an empty array
      obtain ⟨t, ts, first, full⟩ := item.exists_tokens
      simp only [Json.tokens, List.length_cons, List.cons_append] at enough ⊢
      rw [value_array, items_tokens item others (by omega) rest]
      · rfl
      · simp [first, full]
  | .object ((key, member) :: others), fuel + 1, enough, rest => by
      simp only [Json.tokens, List.length_cons, List.cons_append] at enough ⊢
      rw [value_object, members_tokens key member others (by omega) rest]
      rfl
termination_by j => sizeOf j

theorem items_tokens : (item : Json) → (others : List Json) → {fuel : Nat} →
    (item.tokens ++ Json.tokensOfItems others).length ≤ fuel → (rest : List Token) →
    items fuel (item.tokens ++ Json.tokensOfItems others ++ rest) =
      (ofItems (item :: others), some rest)
  | item, others, 0, enough, _ => by
      have some_token := item.length_tokens_pos
      simp only [List.length_append] at enough
      omega
  | item, [], fuel + 1, enough, rest => by
      simp only [Json.tokensOfItems, List.length_append, List.length_cons, List.length_nil] at enough
      rw [items, List.append_assoc, value_tokens item (by omega)]
      rfl
  | item, next :: others, fuel + 1, enough, rest => by
      have some_token := item.length_tokens_pos
      simp only [Json.tokensOfItems, List.length_append, List.length_cons] at enough
      have later : items fuel (next.tokens ++ Json.tokensOfItems others ++ rest) = _ :=
        items_tokens next others (by simp only [List.length_append]; omega) rest
      rw [items, List.append_assoc, value_tokens item (by omega)]
      simp only [Json.tokensOfItems, List.cons_append, later]
      rfl
termination_by item others => sizeOf item + sizeOf others

theorem members_tokens : (key : String) → (member : Json) → (others : List (String × Json)) →
    {fuel : Nat} → (member.tokens ++ Json.tokensOfMembers others).length + 2 ≤ fuel →
    (rest : List Token) →
    members fuel (.string (some key) :: .mark ':' :: (member.tokens ++
        Json.tokensOfMembers others ++ rest)) =
      (ofMembers ((key, member) :: others), some rest)
  | key, member, [], fuel + 1, enough, rest => by
      simp only [Json.tokensOfMembers, List.length_append, List.length_cons, List.length_nil]
        at enough
      rw [members, List.append_assoc, value_tokens member (by omega)]
      rfl
  | key, member, (other, value) :: others, fuel + 1, enough, rest => by
      simp only [Json.tokensOfMembers, List.length_append, List.length_cons] at enough
      have later : members fuel (.string (some other) :: .mark ':' :: (value.tokens ++
          Json.tokensOfMembers others ++ rest)) = _ :=
        members_tokens other value others (by simp only [List.length_append]; omega) rest
      rw [members, List.append_assoc, value_tokens member (by omega)]
      simp only [Json.tokensOfMembers, List.cons_append, later]
      rfl
termination_by _ member others => sizeOf member + sizeOf others

end

/-- The tokens of a value are the whole of it. -/
theorem ofTokens_tokens (j : Json) : ofTokens j.tokens = (ofJson j, some []) := by
  have read : value (2 * j.tokens.length + 2) (j.tokens ++ []) = (ofJson j, some []) :=
    value_tokens j (by omega) []
  rw [List.append_nil] at read
  exact read

mutual

theorem wellFormed_ofJson (j : Json) : (ofJson j).wellFormed = true := by
  cases j with
  | null | bool b | number n | string s => rfl
  | array items => simp [ofJson, wellFormed, wellFormed_ofItems items]
  | object members => simp [ofJson, wellFormed, wellFormed_ofMembers members]

theorem wellFormed_ofItems (items : List Json) : allWellFormed (ofItems items) = true := by
  cases items with
  | nil => rfl
  | cons item items => simp [ofItems, allWellFormed, wellFormed_ofJson item, wellFormed_ofItems items]

theorem wellFormed_ofMembers (members : List (String × Json)) :
    membersWellFormed (ofMembers members) = true := by
  cases members with
  | nil => rfl
  | cons member members =>
      obtain ⟨key, value⟩ := member
      simp [ofMembers, membersWellFormed, wellFormed_ofJson value, wellFormed_ofMembers members]

end

end Draft

end ContactSegments
