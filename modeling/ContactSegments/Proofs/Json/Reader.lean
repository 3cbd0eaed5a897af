import ContactSegments.Json.Reader
import ContactSegments.Proofs.Json.Draft
import ContactSegments.Proofs.Json.Unknown

/-! # Reading what was written

A reader that takes a value out of written JSON takes it out of the text too. A record is made of the
values of its members, as long as each of its names stands once.
-/

namespace ContactSegments

open Draft

namespace Reader

variable {α : Type} {reader : Reader α} {write : α → Json}

/-- Of an exact value the text says as much as the value itself. -/
theorem ofText_text (reader : Reader α) {j : Json} (exact : j.Exact) :
    reader.ofText j.text = reader (ofJson j) := by
  rw [ofText, Token.ofText_text exact, ofTokens_tokens]
  show (reader (ofJson j) >>= fun value => ifClosed true value) = reader (ofJson j)
  cases reader (ofJson j) <;> rfl

/-- The reader takes every value out of what is written for it. -/
def Reverses (reader : Reader α) (write : α → Json) : Prop :=
  ∀ a, reader (ofJson (write a)) = .ok a

theorem reverses_text : text.Reverses .string := fun _ => rfl

theorem reverses_parsed {parse : String → Option α} {print : α → String}
    (parses : ∀ a, parse (print a) = some a) :
    (parsed parse).Reverses fun a => .string (print a) := by
  intro a
  simp [parsed, ofJson, text, parses a, bind, Except.bind, pure, Except.pure]

theorem Reverses.nullable (reverses : reader.Reverses write) (full : ∀ a, write a ≠ .null) :
    (nullable reader).Reverses fun value => .orNull (value.map write) := by
  intro value
  cases value with
  | none => rfl
  | some a =>
      have read : Reader.nullable reader (ofJson (write a)) =
          (reader (ofJson (write a))).map some := by
        cases written : write a with
        | null => exact absurd written (full a)
        | _ => rfl
      show Reader.nullable reader (ofJson (write a)) = .ok (some a)
      rw [read, reverses a]
      rfl

theorem Reverses.list (reverses : reader.Reverses write) :
    (list reader).Reverses fun values => .array (values.map write) := by
  intro values
  have each : eachItem reader (ofItems (values.map write)) = .ok values := by
    induction values with
    | nil => rfl
    | cons a values ih =>
        simp only [List.map_cons, ofItems, eachItem, reverses a, ih]
        rfl
  simp only [ofJson, Reader.list, each]
  rfl

theorem reverses_named {all : List α} {name : α → String}
    (listed : ∀ a, (all.map fun value => (name value, value)).lookup (name a) = some a) :
    (named all name).Reverses fun a => .string (name a) := by
  intro a
  simp only [named, ofJson, choice, listed a]
  rfl

end Reader

namespace RecordReader

variable {α β : Type} {members : List (String × Json)}

theorem lookup_of_mem (distinct : (members.map Prod.fst).Nodup) {member : String × Json}
    (within : member ∈ members) : members.lookup member.1 = some member.2 := by
  induction members with
  | nil => cases within
  | cons first members ih =>
      obtain ⟨single, distinct⟩ := List.nodup_cons.mp distinct
      rcases List.mem_cons.mp within with rfl | later
      · exact List.lookup_cons_self
      · have other : (member.1 == first.1) = false := by
          rw [beq_eq_false_iff_ne]
          rintro same
          exact single (same ▸ List.mem_map_of_mem later)
        rw [List.lookup_cons, other]
        exact ih distinct later

theorem lookup_ofMembers (name : String) (members : List (String × Json)) :
    (ofMembers members).lookup (some name) = (members.lookup name).map ofJson := by
  induction members with
  | nil => rfl
  | cons member members ih =>
      obtain ⟨key, value⟩ := member
      have same : (some name == some key) = (name == key) := rfl
      rw [ofMembers, List.lookup_cons, List.lookup_cons, same, ih]
      split <;> rfl

/-- Where every key stands once, each member is checked by itself. -/
theorem checkMembers_ofMembers {fields : List (String × Reader Unit)} {met : List String}
    (distinct : (members.map Prod.fst).Nodup) (fresh : ∀ key ∈ met, key ∉ members.map Prod.fst) :
    checkMembers fields met (ofMembers members) = .ok () ↔
      ∀ member ∈ members, ∀ check, fields.lookup member.1 = some check →
        check (ofJson member.2) = .ok () := by
  induction members generalizing met with
  | nil => simp [ofMembers, checkMembers]
  | cons member members ih =>
      obtain ⟨key, value⟩ := member
      obtain ⟨single, distinct⟩ := List.nodup_cons.mp distinct
      rw [ofMembers, checkMembers, List.forall_mem_cons]
      cases known : fields.lookup key with
      | none =>
          have later : ∀ key ∈ met, key ∉ members.map Prod.fst :=
            fun other seen within => fresh other seen (List.mem_cons_of_mem _ within)
          simp [wellFormed_ofJson, ih distinct later]
      | some check =>
          have unmet : key ∉ met := fun seen => fresh key seen List.mem_cons_self
          have later : ∀ other ∈ key :: met, other ∉ members.map Prod.fst := by
            intro other seen within
            rcases List.mem_cons.mp seen with rfl | seen
            · exact single within
            · exact fresh other seen (List.mem_cons_of_mem _ within)
          rw [← ih distinct later]
          cases passed : check (ofJson value) with
          | ok _ => simp [unmet, passed, bind, Except.bind]
          | error e => simp [unmet, passed, bind, Except.bind]

/-- What the record is made of when these members are read. -/
structure Takes (record : RecordReader α) (members : List (String × Json)) (value : α) : Prop where
  checks : ∀ field ∈ record.fields, ∀ j, members.lookup field.1 = some j →
    field.2 (ofJson j) = .ok ()
  builds : record.build (fun name => (members.lookup name).map ofJson) = .ok value

theorem takes_pure (value : α) : (pure value : RecordReader α).Takes members value where
  checks _ given := by cases given
  builds := rfl

theorem Takes.seq {make : RecordReader (α → β)} {record : RecordReader α} {f : α → β} {value : α}
    (first : make.Takes members f) (second : record.Takes members value) :
    (make <*> record).Takes members (f value) where
  checks field given := (List.mem_append.mp given).elim (first.checks field) (second.checks field)
  builds := by
    let found := fun name => (members.lookup name).map ofJson
    show (do return (← make.build found) (← record.build found)) = Except.ok (f value)
    rw [first.builds, second.builds]
    rfl

theorem Takes.map {record : RecordReader α} {value : α} (takes : record.Takes members value)
    (f : α → β) : (f <$> record).Takes members (f value) :=
  (takes_pure f).seq takes

variable {name : String} {reader : Reader α} {j : Json} {value : α}

theorem takes_required (given : members.lookup name = some j)
    (reads : reader (ofJson j) = .ok value) : (required name reader).Takes members value where
  checks field only other found := by
    cases List.mem_singleton.mp only
    cases given.symm.trans found
    exact congrArg (Except.map fun _ => ()) reads
  builds := by simpa [required, given] using reads

theorem takes_optional (given : members.lookup name = some j)
    (reads : reader (ofJson j) = .ok value) (absent : α) :
    (optional name reader absent).Takes members value where
  checks field only other found := by
    cases List.mem_singleton.mp only
    cases given.symm.trans found
    exact congrArg (Except.map fun _ => ()) reads
  builds := by simpa [optional, given] using reads

theorem Takes.read {record : RecordReader α} (takes : record.Takes members value)
    (distinct : (members.map Prod.fst).Nodup) :
    record.read (ofJson (.object members)) = .ok value := by
  have passed : checkMembers record.fields [] (ofMembers members) = .ok () := by
    refine (checkMembers_ofMembers distinct (by simp)).mpr fun member within check known => ?_
    exact takes.checks _ (mem_of_lookup known) member.2 (lookup_of_mem distinct within)
  simp only [ofJson, RecordReader.read, passed, lookup_ofMembers]
  exact takes.builds

/-- A record that is read passed each of its checks. -/
theorem checks_of_read {record : RecordReader α}
    (read : record.read (ofJson (.object members)) = .ok value)
    (distinct : (members.map Prod.fst).Nodup) (member : String × Json) (within : member ∈ members)
    {check : Reader Unit} (known : record.fields.lookup member.1 = some check) :
    check (ofJson member.2) = .ok () := by
  cases passed : checkMembers record.fields [] (ofMembers members) with
  | ok _ => exact (checkMembers_ofMembers distinct (by simp)).mp passed member within check known
  | error e =>
      simp only [ofJson, RecordReader.read, passed] at read
      cases read

end RecordReader

end ContactSegments
