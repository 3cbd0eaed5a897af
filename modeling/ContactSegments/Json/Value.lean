/-! # JSON values

A value of JSON. An integer that fits 64 bits, with or without sign, is exact; of any other number
the leading digits that fit 64 bits are kept. The values that records carry are keyed, that is, the
keys of every object in them ascend, so each occurs once. `Json.keyed` brings a value into this
form, where a later member replaces an earlier one of the same key, and `keyed_keyed` says that it
does.
-/

namespace ContactSegments

/-- A number of JSON. -/
inductive JsonNumber
  /-- A whole number of 64 bits. -/
  | integer (value : Int)
  /-- Any other number: a sign, and a mantissa times a power of ten. -/
  | decimal (negative : Bool) (mantissa : Nat) (exponent : Int)
deriving DecidableEq, Repr

/-- A value of JSON; the members of an object stand in their order. -/
inductive Json
  | null
  | bool (value : Bool)
  | number (value : JsonNumber)
  | string (value : String)
  | array (items : List Json)
  | object (members : List (String × Json))
deriving Repr, BEq

namespace Json

def ofNat (n : Nat) : Json := .number (.integer n)

/-- The value, or null when there is none. -/
def orNull (value : Option Json) : Json := value.getD .null

/-- The value of the last member with this key. -/
def get? : Json → String → Option Json
  | .object members, key => (members.reverse.find? (·.1 == key)).map (·.2)
  | _, _ => none

mutual

/-- The keys of every object in the value ascend. -/
def Keyed : Json → Prop
  | .array items => KeyedItems items
  | .object members => (members.map Prod.fst).Pairwise (· < ·) ∧ KeyedMembers members
  | _ => True

def KeyedItems : List Json → Prop
  | [] => True
  | item :: items => item.Keyed ∧ KeyedItems items

def KeyedMembers : List (String × Json) → Prop
  | [] => True
  | (_, value) :: members => value.Keyed ∧ KeyedMembers members

end

/-- Puts a member in its place among ascending keys; it replaces one of the same key. -/
def insertMember (key : String) (value : Json) : List (String × Json) → List (String × Json)
  | [] => [(key, value)]
  | (k, v) :: members =>
    if key < k then (key, value) :: (k, v) :: members
    else if key = k then (key, value) :: members
    else (k, v) :: insertMember key value members

mutual

/-- The value with the members of every object in ascending order of their keys; of several
    members with one key the last stays. -/
def keyed : Json → Json
  | .array items => .array (keyedItems items)
  | .object members => .object (keyedMembers [] members)
  | j => j

def keyedItems : List Json → List Json
  | [] => []
  | item :: items => item.keyed :: keyedItems items

/-- The members, added to those placed before. -/
def keyedMembers (placed : List (String × Json)) : List (String × Json) → List (String × Json)
  | [] => placed
  | (key, value) :: members => keyedMembers (insertMember key value.keyed placed) members

end

theorem keys_insertMember (key : String) (value : Json) (members : List (String × Json)) :
    ∀ k ∈ (insertMember key value members).map Prod.fst,
      k = key ∨ k ∈ members.map Prod.fst := by
  induction members with
  | nil => simp [insertMember]
  | cons member members ih =>
    obtain ⟨k', v'⟩ := member
    simp only [insertMember]
    intro k hk
    split at hk
    · simpa using hk
    · split at hk
      · subst key; exact Or.inr (by simpa using hk)
      · simp only [List.map_cons, List.mem_cons] at hk ⊢
        rcases hk with rfl | hk
        · exact Or.inr (Or.inl rfl)
        · exact (ih k hk).imp id Or.inr

theorem pairwise_insertMember (key : String) (value : Json) {members : List (String × Json)}
    (h : (members.map Prod.fst).Pairwise (· < ·)) :
    ((insertMember key value members).map Prod.fst).Pairwise (· < ·) := by
  induction members with
  | nil => simp [insertMember]
  | cons member members ih =>
    obtain ⟨k', v'⟩ := member
    simp only [List.map_cons, List.pairwise_cons] at h
    simp only [insertMember]
    split
    · rename_i hlt
      simp only [List.map_cons, List.pairwise_cons, List.mem_cons]
      refine ⟨?_, h.1, h.2⟩
      rintro k (rfl | hk)
      · exact hlt
      · exact Std.lt_trans hlt (h.1 k hk)
    · split
      · subst key; simpa using h
      · rename_i hlt hne
        have hgt : k' < key := Std.lt_of_le_of_ne (String.not_lt.mp hlt) (Ne.symm hne)
        simp only [List.map_cons, List.pairwise_cons]
        refine ⟨fun k hk => ?_, ih h.2⟩
        rcases keys_insertMember key value members k hk with rfl | hk
        · exact hgt
        · exact h.1 k hk

theorem keyedMembers_insertMember (key : String) {value : Json} {members : List (String × Json)}
    (hv : value.Keyed) (h : KeyedMembers members) :
    KeyedMembers (insertMember key value members) := by
  induction members with
  | nil => exact ⟨hv, trivial⟩
  | cons member members ih =>
    obtain ⟨k', v'⟩ := member
    simp only [insertMember]
    split
    · exact ⟨hv, h⟩
    · split
      · exact ⟨hv, h.2⟩
      · exact ⟨h.1, ih h.2⟩

mutual

/-- The form that `keyed` makes is keyed. -/
theorem keyed_keyed (j : Json) : j.keyed.Keyed := by
  cases j with
  | null | bool | number | string => trivial
  | array items => exact keyedItems_keyed items
  | object members =>
    have noKeys : (([] : List (String × Json)).map Prod.fst).Pairwise (· < ·) := List.Pairwise.nil
    exact keyedMembers_keyed members noKeys trivial

theorem keyedItems_keyed (items : List Json) : KeyedItems (keyedItems items) := by
  cases items with
  | nil => trivial
  | cons item items => exact ⟨keyed_keyed item, keyedItems_keyed items⟩

theorem keyedMembers_keyed (members : List (String × Json)) {placed : List (String × Json)}
    (hp : (placed.map Prod.fst).Pairwise (· < ·)) (hv : KeyedMembers placed) :
    ((keyedMembers placed members).map Prod.fst).Pairwise (· < ·) ∧
      KeyedMembers (keyedMembers placed members) := by
  cases members with
  | nil => exact ⟨hp, hv⟩
  | cons member members =>
    obtain ⟨key, value⟩ := member
    exact keyedMembers_keyed members (pairwise_insertMember key _ hp)
      (keyedMembers_insertMember key (keyed_keyed value) hv)

end

end Json

end ContactSegments
