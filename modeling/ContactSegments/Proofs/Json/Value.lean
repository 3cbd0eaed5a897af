import ContactSegments.Contact
import ContactSegments.Proofs.Json.Reader

/-! # Values that are kept as they are

A value of any kind is read back if its containers are not nested too deep. Keyed values are their
own keyed form, and that form does not depend on the order in which the members of the outermost
object come.
-/

namespace ContactSegments

open Draft

namespace Json

mutual

/-- How many containers stand inside each other. -/
def depth : Json → Nat
  | .array items => depthOfItems items + 1
  | .object members => depthOfMembers members + 1
  | .null | .bool _ | .number _ | .string _ => 0

def depthOfItems : List Json → Nat
  | [] => 0
  | item :: items => max item.depth (depthOfItems items)

def depthOfMembers : List (String × Json) → Nat
  | [] => 0
  | (_, value) :: members => max value.depth (depthOfMembers members)

end

theorem perm_insertMember {key : String} {members : List (String × Json)}
    (absent : key ∉ members.map Prod.fst) (value : Json) :
    (insertMember key value members).Perm ((key, value) :: members) := by
  induction members with
  | nil => exact .refl _
  | cons member members ih =>
      obtain ⟨k, v⟩ := member
      obtain ⟨other, absent⟩ : key ≠ k ∧ key ∉ members.map Prod.fst := by simpa using absent
      rw [insertMember, if_neg other]
      split
      · exact .refl _
      · exact ((ih absent).cons (k, v)).trans (.swap _ _ _)

theorem perm_keyedMembers {placed members : List (String × Json)}
    (same : ∀ member ∈ members, member.2.keyed = member.2)
    (distinct : ((placed ++ members).map Prod.fst).Nodup) :
    (keyedMembers placed members).Perm (placed ++ members) := by
  induction members generalizing placed with
  | nil =>
      rw [List.append_nil]
      exact .refl _
  | cons member members ih =>
      obtain ⟨key, value⟩ := member
      -- the member moves from the front of the rest into its place among those before
      have moved : (placed ++ (key, value) :: members).Perm ((key, value) :: placed ++ members) :=
        List.perm_middle
      have absent : key ∉ placed.map Prod.fst := by
        have apart := (moved.map Prod.fst).nodup_iff.mp distinct
        simp at apart
        simpa using apart.1.1
      have here := same _ List.mem_cons_self
      have inserted := (perm_insertMember absent value).append_right members
      have later : ((insertMember key value placed ++ members).map Prod.fst).Nodup :=
        ((inserted.trans moved.symm).map Prod.fst).nodup_iff.mpr distinct
      rw [keyedMembers, here]
      exact (ih (fun other within => same other (List.mem_cons_of_mem _ within)) later).trans
        (inserted.trans moved.symm)

theorem nodup_of_ascending {members : List (String × Json)}
    (ascending : (members.map Prod.fst).Pairwise (· < ·)) : (members.map Prod.fst).Nodup :=
  List.Pairwise.imp (fun before => Std.ne_of_lt before) ascending

/-- Ascending members are put together again from whatever order they come in. -/
theorem keyedMembers_of_perm {members order : List (String × Json)}
    (ascending : (members.map Prod.fst).Pairwise (· < ·))
    (same : ∀ member ∈ members, member.2.keyed = member.2) (perm : order.Perm members) :
    keyedMembers [] order = members := by
  have distinct := (perm.map Prod.fst).nodup_iff.mpr (nodup_of_ascending ascending)
  have placed : (keyedMembers [] order).Perm order :=
    perm_keyedMembers (fun member within => same member (perm.mem_iff.mp within)) distinct
  have noKeys : (([] : List (String × Json)).map Prod.fst).Pairwise (· < ·) := List.Pairwise.nil
  obtain ⟨sorted, -⟩ := keyedMembers_keyed order noKeys trivial
  refine List.Perm.eq_of_pairwise (fun a b _ _ before after => ?_) (List.pairwise_map.mp sorted)
    (List.pairwise_map.mp ascending) (placed.trans perm)
  exact absurd (Std.lt_trans before after) Std.lt_irrefl

mutual

theorem keyed_of_keyed {j : Json} (keyed : j.Keyed) : j.keyed = j := by
  cases j with
  | null | bool b | number n | string s => rfl
  | array items => exact congrArg Json.array (keyedItems_of_keyed keyed)
  | object members =>
      obtain ⟨ascending, inside⟩ := keyed
      exact congrArg Json.object
        (keyedMembers_of_perm ascending (keyed_of_keyedMembers inside) (.refl _))

theorem keyedItems_of_keyed {items : List Json} (keyed : KeyedItems items) :
    keyedItems items = items := by
  cases items with
  | nil => rfl
  | cons item items =>
      simp only [keyedItems, keyed_of_keyed keyed.1, keyedItems_of_keyed keyed.2]

theorem keyed_of_keyedMembers {members : List (String × Json)} (keyed : KeyedMembers members) :
    ∀ member ∈ members, member.2.keyed = member.2 := by
  cases members with
  | nil => exact nofun
  | cons member members =>
      obtain ⟨key, value⟩ := member
      exact List.forall_mem_cons.mpr ⟨keyed_of_keyed keyed.1, keyed_of_keyedMembers keyed.2⟩

end

end Json

theorem CustomFields.ofMembers_of_perm (fields : CustomFields) {order : List (String × Json)}
    (perm : order.Perm fields.members) : ofMembers order = fields := by
  obtain ⟨members, ascending, inside⟩ := fields
  have same := Json.keyedMembers_of_perm ascending (Json.keyed_of_keyedMembers inside) perm
  simp only [ofMembers, same]

theorem Json.depthOfItems_cons_le {item : Json} {items : List Json} {limit : Nat} :
    depthOfItems (item :: items) ≤ limit ↔ item.depth ≤ limit ∧ depthOfItems items ≤ limit :=
  Nat.max_le

theorem Json.depthOfMembers_cons_le {key : String} {value : Json} {members : List (String × Json)}
    {limit : Nat} :
    depthOfMembers ((key, value) :: members) ≤ limit ↔
      value.depth ≤ limit ∧ depthOfMembers members ≤ limit :=
  Nat.max_le

namespace Draft

mutual

theorem toJson?_ofJson {j : Json} (exact : j.Exact) (limit : Nat) :
    toJson? limit (ofJson j) = if j.depth ≤ limit then some j else none := by
  cases j with
  | null | bool b | string s => rfl
  | number n =>
      cases n with
      | integer i => rfl
      | decimal negative mantissa exponent => exact exact.elim
  | array items =>
      cases limit with
      | zero => rfl
      | succ limit =>
          rw [ofJson, toJson?, itemsToJson?_ofItems exact limit]
          simp only [Json.depth, Nat.add_le_add_iff_right]
          split <;> rfl
  | object members =>
      cases limit with
      | zero => rfl
      | succ limit =>
          rw [ofJson, toJson?, membersToJson?_ofMembers exact limit]
          simp only [Json.depth, Nat.add_le_add_iff_right]
          split <;> rfl

theorem itemsToJson?_ofItems {items : List Json} (exact : Json.ExactItems items) (limit : Nat) :
    itemsToJson? limit (ofItems items) =
      if Json.depthOfItems items ≤ limit then some items else none := by
  cases items with
  | nil => rfl
  | cons item items =>
      obtain ⟨first, more⟩ := exact
      rw [ofItems, itemsToJson?, toJson?_ofJson first, itemsToJson?_ofItems more]
      by_cases fits : item.depth ≤ limit <;> by_cases fit : Json.depthOfItems items ≤ limit <;>
        simp [Json.depthOfItems_cons_le, fits, fit]

theorem membersToJson?_ofMembers {members : List (String × Json)}
    (exact : Json.ExactMembers members) (limit : Nat) :
    membersToJson? limit (ofMembers members) =
      if Json.depthOfMembers members ≤ limit then some members else none := by
  cases members with
  | nil => rfl
  | cons member members =>
      obtain ⟨key, value⟩ := member
      obtain ⟨first, more⟩ := exact
      rw [ofMembers, membersToJson?, toJson?_ofJson first, membersToJson?_ofMembers more]
      by_cases fits : value.depth ≤ limit <;> by_cases fit : Json.depthOfMembers members ≤ limit <;>
        simp [Json.depthOfMembers_cons_le, fits, fit]

end

end Draft

namespace Reader

theorem any_ofJson {j : Json} (exact : j.Exact) (limit : Nat) :
    any limit (ofJson j) = if j.depth ≤ limit then .ok j else .error .malformed := by
  rw [any, toJson?_ofJson exact]
  split <;> rfl

theorem eachMember_ofMembers {members : List (String × Json)} (exact : Json.ExactMembers members)
    (limit : Nat) :
    eachMember (any limit) (ofMembers members) =
      if Json.depthOfMembers members ≤ limit then .ok members else .error .malformed := by
  induction members with
  | nil => rfl
  | cons member members ih =>
      obtain ⟨key, value⟩ := member
      obtain ⟨first, more⟩ := exact
      rw [ofMembers, eachMember, any_ofJson first, ih more]
      by_cases fits : value.depth ≤ limit <;> by_cases fit : Json.depthOfMembers members ≤ limit <;>
        simp [Json.depthOfMembers_cons_le, fits, fit, bind, Except.bind, pure, Except.pure]

end Reader

end ContactSegments
