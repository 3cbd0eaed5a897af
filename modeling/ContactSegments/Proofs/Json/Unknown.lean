import ContactSegments.Wire.Segment

/-! # Members that nobody asks for

A record is read from the members that it knows. Whatever else stands in the object is passed over, as
long as it is JSON itself. So a draft is read as the draft without it is, at every depth.
-/

namespace ContactSegments

namespace Draft

variable (names : List String) (prune : String → Draft → Draft)

/-- A member as it is for a record that knows these names, if it is anything for it. -/
def prunedMember : Option String × Draft → Option (Option String × Draft)
  | (none, value) => some (none, value)
  | (some key, value) =>
    if key ∈ names then some (some key, prune key value)
    else if value.wellFormed then none
    else some (some key, value)

def prunedItems : List String → List Draft → List Draft
  | name :: names, item :: items => prune name item :: prunedItems names items
  | _, items => items

/-- The draft without the members that a record does not know. What it knows is pruned as its name
    says. -/
def pruned : Draft → Draft
  | .object members closed => .object (members.filterMap (prunedMember names prune)) closed
  | .array items closed => .array (prunedItems prune names items) closed
  | draft => draft

/-- The draft of a list with each of its items pruned. -/
def eachPruned (prune : Draft → Draft) : Draft → Draft
  | .array items closed => .array (items.map prune) closed
  | draft => draft

/-- A member is passed over wherever it stands. -/
theorem pruned_insert {key : String} (unknown : key ∉ names) {value : Draft}
    (complete : value.wellFormed = true) (before after : List (Option String × Draft))
    (closed : Bool) :
    pruned names prune (.object (before ++ (some key, value) :: after) closed) =
      pruned names prune (.object (before ++ after) closed) := by
  simp [pruned, prunedMember, unknown, complete]

end Draft

theorem mem_of_lookup {β : Type} {key : String} {entries : List (String × β)} {b : β}
    (found : entries.lookup key = some b) : (key, b) ∈ entries := by
  obtain ⟨before, after, rfl, -⟩ := List.lookup_eq_some_iff.mp found
  simp

theorem not_mem_of_lookup {β : Type} {key : String} {entries : List (String × β)}
    (absent : entries.lookup key = none) : key ∉ entries.map Prod.fst := by
  intro named
  obtain ⟨entry, given, rfl⟩ := List.mem_map.mp named
  simpa using List.lookup_eq_none_iff.mp absent entry given

namespace RecordReader

open ContactSegments.Draft

variable {α β : Type} {prune : String → Draft → Draft}

/-- Pruning does not change what the record is made of. -/
structure Keeps (record : RecordReader α) (prune : String → Draft → Draft) : Prop where
  checks : ∀ field ∈ record.fields, ∀ draft, field.2 (prune field.1 draft) = field.2 draft
  builds : ∀ found other,
    (∀ field ∈ record.fields, other field.1 = (found field.1).map (prune field.1)) →
      record.build other = record.build found

theorem keeps_pure (a : α) : (pure a : RecordReader α).Keeps prune where
  checks _ given := by cases given
  builds _ _ _ := rfl

theorem Keeps.seq {make : RecordReader (α → β)} {record : RecordReader α} (first : make.Keeps prune)
    (second : record.Keeps prune) : (make <*> record).Keeps prune where
  checks field given := (List.mem_append.mp given).elim (first.checks field) (second.checks field)
  builds found other agree := by
    have made := first.builds found other fun field given =>
      agree field (List.mem_append_left _ given)
    have built := second.builds found other fun field given =>
      agree field (List.mem_append_right _ given)
    show (do return (← make.build other) (← record.build other)) =
      (do return (← make.build found) (← record.build found))
    rw [made, built]

theorem Keeps.map {record : RecordReader α} (keeps : record.Keeps prune) (f : α → β) :
    (f <$> record).Keeps prune :=
  (keeps_pure f).seq keeps

variable {name : String} {reader : Reader α}

theorem keeps_required (kept : ∀ draft, reader (prune name draft) = reader draft) :
    (required name reader).Keeps prune where
  checks field given draft := by
    cases List.mem_singleton.mp given
    exact congrArg (Except.map fun _ => ()) (kept draft)
  builds found other agree := by
    have same := agree _ (List.mem_singleton.mpr rfl)
    simp only [required] at same ⊢
    rw [same]
    cases found name with
    | none => rfl
    | some draft => exact kept draft

theorem keeps_optional (kept : ∀ draft, reader (prune name draft) = reader draft) (absent : α) :
    (optional name reader absent).Keeps prune where
  checks field given draft := by
    cases List.mem_singleton.mp given
    exact congrArg (Except.map fun _ => ()) (kept draft)
  builds found other agree := by
    have same := agree _ (List.mem_singleton.mpr rfl)
    simp only [optional] at same ⊢
    rw [same]
    cases found name with
    | none => rfl
    | some draft => exact kept draft

section

variable {fields : List (String × Reader Unit)}
  (checks : ∀ field ∈ fields, ∀ draft, field.2 (prune field.1 draft) = field.2 draft)

include checks

theorem checkMembers_pruned (met : List String) (members : List (Option String × Draft)) :
    checkMembers fields met (members.filterMap (prunedMember (fields.map Prod.fst) prune)) =
      checkMembers fields met members := by
  induction members generalizing met with
  | nil => rfl
  | cons member members ih =>
      obtain ⟨_ | key, value⟩ := member
      · rfl
      · cases known : fields.lookup key with
        | some check =>
            have here := mem_of_lookup known
            have same : check (prune key value) = check value := checks _ here value
            simp only [List.filterMap_cons, prunedMember, if_pos (List.mem_map_of_mem here),
              checkMembers, known, same, ih]
        | none =>
            have unnamed := not_mem_of_lookup known
            cases complete : value.wellFormed <;>
              simp [prunedMember, unnamed, checkMembers, known, complete, ih]

theorem checkItems_pruned (items : List Draft) :
    checkItems fields (prunedItems prune (fields.map Prod.fst) items) = checkItems fields items := by
  induction fields generalizing items with
  | nil => rfl
  | cons field fields ih =>
      cases items with
      | nil => rfl
      | cons item items =>
          have same := checks field List.mem_cons_self item
          have rest := ih fun other given => checks other (List.mem_cons_of_mem _ given)
          simp only [List.map_cons, prunedItems, checkItems, same, rest]

end

theorem lookup_pruned {names : List String} (named : name ∈ names)
    (members : List (Option String × Draft)) :
    (members.filterMap (prunedMember names prune)).lookup (some name) =
      (members.lookup (some name)).map (prune name) := by
  induction members with
  | nil => rfl
  | cons member members ih =>
      obtain ⟨key, value⟩ := member
      by_cases here : some name = key
      · subst here
        simp [prunedMember, named]
      · have elsewhere : (some name == key) = false := by simpa using here
        rw [List.lookup_cons, elsewhere, List.filterMap_cons]
        rcases key with _ | key
        · simp [prunedMember, List.lookup_cons, ih]
        · by_cases known : key ∈ names <;> by_cases complete : value.wellFormed = true <;>
            simp [prunedMember, known, complete, List.lookup_cons, elsewhere, ih]

theorem lookup_prunedItems (names : List String) (items : List Draft) :
    (names.zip (prunedItems prune names items)).lookup name =
      ((names.zip items).lookup name).map (prune name) := by
  induction names generalizing items with
  | nil => rfl
  | cons first names ih =>
      cases items with
      | nil => rfl
      | cons item items =>
          simp only [prunedItems, List.zip_cons_cons, List.lookup_cons]
          split
          · rename_i same
            cases eq_of_beq same
            rfl
          · exact ih items

/-- A record is read alike before and after it was pruned. -/
theorem Keeps.read {record : RecordReader α} (keeps : record.Keeps prune) (draft : Draft) :
    record.read (draft.pruned (record.fields.map Prod.fst) prune) = record.read draft := by
  cases draft with
  | object members closed =>
      simp only [pruned, RecordReader.read, checkMembers_pruned keeps.checks]
      rw [keeps.builds (fun name => members.lookup (some name)) _ fun field given =>
        lookup_pruned (List.mem_map_of_mem given) members]
  | array items closed =>
      simp only [pruned, RecordReader.read, checkItems_pruned keeps.checks]
      rw [keeps.builds (fun name => ((record.fields.map Prod.fst).zip items).lookup name) _
        fun field _ => lookup_prunedItems _ items]
  | _ => rfl

end RecordReader

theorem Reader.list_eachPruned {α : Type} {reader : Reader α} {prune : Draft → Draft}
    (kept : ∀ draft, reader (prune draft) = reader draft) (draft : Draft) :
    Reader.list reader (draft.eachPruned prune) = Reader.list reader draft := by
  cases draft with
  | array items closed =>
      have same : Reader.eachItem reader (items.map prune) = Reader.eachItem reader items := by
        induction items with
        | nil => rfl
        | cons item items ih => simp only [List.map_cons, Reader.eachItem, kept, ih]
      simp only [Draft.eachPruned, Reader.list, same]
  | _ => rfl

theorem Reader.nullable_pruned {α : Type} {reader : Reader α} {names : List String}
    {prune : String → Draft → Draft}
    (kept : ∀ draft, reader (draft.pruned names prune) = reader draft) (draft : Draft) :
    Reader.nullable reader (draft.pruned names prune) = Reader.nullable reader draft := by
  cases draft with
  | null => rfl
  | _ => exact congrArg (Except.map some) (kept _)

open RecordReader

namespace Condition

def pruned : Draft → Draft := Draft.pruned (record.fields.map Prod.fst) fun _ draft => draft

theorem keeps_record : record.Keeps fun _ draft => draft :=
  .seq (.seq (.seq (.seq (.map (keeps_required fun _ => rfl) _) (keeps_required fun _ => rfl))
    (keeps_required fun _ => rfl)) (keeps_optional (fun _ => rfl) _)) (keeps_optional (fun _ => rfl) _)

theorem reader_pruned (draft : Draft) : reader (pruned draft) = reader draft :=
  keeps_record.read draft

end Condition

namespace Criteria

def pruned : Draft → Draft :=
  Draft.pruned (record.fields.map Prod.fst) fun _ => Draft.eachPruned Condition.pruned

theorem keeps_record : record.Keeps fun _ => Draft.eachPruned Condition.pruned :=
  .map (keeps_optional (Reader.list_eachPruned Condition.reader_pruned) _) _

theorem reader_pruned (draft : Draft) : reader (pruned draft) = reader draft :=
  keeps_record.read draft

end Criteria

/-- Under criteria the conditions are pruned; other parts have no members of their own. -/
def Draft.prunedPart (name : String) : Draft → Draft :=
  if name = "criteria" then Criteria.pruned else fun draft => draft

namespace NewSegment

def pruned : Draft → Draft := Draft.pruned (record.fields.map Prod.fst) Draft.prunedPart

theorem keeps_record : record.Keeps Draft.prunedPart :=
  .seq (.seq (.seq (.map (keeps_required fun _ => rfl) _) (keeps_required fun _ => rfl))
    (keeps_optional Criteria.reader_pruned _)) (keeps_optional (fun _ => rfl) _)

theorem reader_pruned (draft : Draft) : reader (pruned draft) = reader draft :=
  keeps_record.read draft

end NewSegment

namespace SegmentChange

def pruned : Draft → Draft := Draft.pruned (record.fields.map Prod.fst) Draft.prunedPart

theorem keeps_record : record.Keeps Draft.prunedPart :=
  .seq (.seq (.map (keeps_optional (fun _ => rfl) _) _)
    (keeps_optional (fun draft => Reader.nullable_pruned Criteria.reader_pruned draft) _))
    (keeps_optional (fun _ => rfl) _)

theorem reader_pruned (draft : Draft) : reader (pruned draft) = reader draft :=
  keeps_record.read draft

end SegmentChange

end ContactSegments
