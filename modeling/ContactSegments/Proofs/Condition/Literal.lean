import ContactSegments.Proofs.Condition.Meaning
import ContactSegments.Proofs.Text.Folding

/-! # Literal occurrences

Texts are compared in lower case, with the whole value and the whole needle folded apart. So a needle
that stands in the value character for character is found unless it is torn out of a word at a capital
sigma, which is one letter inside a word and another at its end.
-/

namespace ContactSegments

/-- The operators of a type apply to no other type. -/
theorem FieldType.eq_of_allows {a b : FieldType} {operator : Operator}
    (allowed : a.allows operator = true) (allowed' : b.allows operator = true) : a = b := by
  revert allowed allowed'
  cases a <;> cases b <;> cases operator <;> decide

namespace Condition

open Text

variable {catalog : Catalog} {max : Nat} {c : Condition} {group : FilterGroup} {field : Field}
  {contact : Contact} {v : String}

/-- The field of a legal condition with an operator on texts holds texts. -/
theorem type_of_text_operator {filter : Filter} (legal : c.check catalog = .ok filter)
    (found : catalog.find? c.field = some field) {operator : Operator}
    (texts : FieldType.text.allows operator = true) (named : c.operator = operator.name) :
    field.type = .text := by
  obtain ⟨field', operator', -, found', named', allowed, -⟩ := check_eq_ok_iff.mp legal
  obtain rfl := Option.some.inj (found.symm.trans found')
  obtain rfl := Operator.name_inj.mp (named'.trans named)
  exact FieldType.eq_of_allows allowed texts

/-- A legal condition with an operator on texts compares its value with that of the contact. -/
theorem exists_compares (legal : checkAll catalog max [c] = .ok group)
    (found : catalog.find? c.field = some field) (value : contact.text field.attr = some v) :
    ∃ predicate, group.toPredicate catalog contact.organization = .ok predicate ∧
      ∀ operator, FieldType.text.allows operator = true → c.operator = operator.name →
        (predicate.holds contact = true ↔ operator.Compares (fold v) (fold c.value)) := by
  obtain ⟨predicate, made, -, matched⟩ := exists_toPredicate legal contact.organization
  refine ⟨predicate, made, fun operator texts named => ?_⟩
  obtain ⟨-, filter, ok, -⟩ := checkAll_singleton_eq_ok_iff.mp legal
  have type := type_of_text_operator ok found texts named
  rw [matched, List.forall_mem_singleton, saysOf_text found named.symm type, value]
  simp

/-- A condition whose value stands literally in that of the contact: its needle is found there, at the
    front and at the end just when it is not torn out of a word, and in any case when it is the whole
    value or has no capital sigma. -/
theorem holds_of_occurrence (legal : checkAll catalog max [c] = .ok group)
    (found : catalog.find? c.field = some field) (value : contact.text field.attr = some v)
    {before after : List Char} (occurs : v.toList = before ++ c.value.toList ++ after) :
    ∃ predicate, group.toPredicate catalog contact.organization = .ok predicate ∧
      let matched := predicate.holds contact = true
      let torn := Torn before c.value.toList after
      (c.operator = "contains" → ¬ torn → matched) ∧
      (c.operator = "startsWith" → before = [] → (matched ↔ ¬ torn)) ∧
      (c.operator = "endsWith" → after = [] → (matched ↔ ¬ torn)) ∧
      (c.operator = "equals" → before = [] → after = [] → matched) ∧
      (c.operator = "notEquals" → before = [] → after = [] → ¬ matched) ∧
      (capitalSigma ∉ c.value.toList → ¬ torn) := by
  obtain ⟨predicate, made, compares⟩ := exists_compares legal found value
  have letters : ∀ s, (fold s).toList = folded s.toList := by simp [fold]
  have whole : before = [] → after = [] → v = c.value := by
    rintro rfl rfl
    simpa [← String.toList_inj] using occurs
  refine ⟨predicate, made, fun named kept => ?contains, fun named start => ?startsWith,
    fun named ending => ?endsWith, fun named start ending => ?equals,
    fun named start ending => ?notEquals, fun none => not_torn_of_notMem none before after⟩
  case contains =>
    rw [compares .contains rfl named, Operator.Compares, letters, letters, occurs]
    exact folded_isInfix kept
  case startsWith =>
    subst start
    rw [compares .startsWith rfl named, Operator.Compares, letters, letters, occurs, List.nil_append]
    exact folded_isPrefix_iff
  case endsWith =>
    subst ending
    rw [compares .endsWith rfl named, Operator.Compares, letters, letters, occurs, List.append_nil]
    exact folded_isSuffix_iff
  case equals => rw [compares .equals rfl named, Operator.Compares, whole start ending]
  case notEquals =>
    rw [compares .notEquals rfl named, Operator.Compares, whole start ending]
    exact not_not_intro rfl

end Condition

namespace Kosmos

open Condition Text

/-- The company of this contact ends in a sigma and has another one inside its last word. -/
def contact : Contact :=
  { Contact.blank .nil ⟨.nil⟩ (.midnight ⟨2024, 5, 17, by decide⟩) with
    companyName := some "ΑΕ ΚΟΣΜΟΣ" }

def condition (operator : Operator) (value : String) : Condition :=
  ⟨"c1", "companyName", operator.name, value, none⟩

def field : Field := ⟨⟨.text, .companyName, "company_name"⟩, "companyName"⟩

def group (operator : Operator) (value : String) : FilterGroup where
  filters := [⟨"c1", field, operator, .text value, none⟩]
  filters_ne_nil := List.cons_ne_nil _ _

/-- The last word is found at the end, its sigmas notwithstanding: the blank in front of it keeps it
    whole. -/
theorem last_word_found :
    checkAll .standard 1 [condition .endsWith "ΚΟΣΜΟΣ"] = .ok (group .endsWith "ΚΟΣΜΟΣ") ∧
      ∃ predicate, (group .endsWith "ΚΟΣΜΟΣ").toPredicate .standard ⟨.nil⟩ = .ok predicate ∧
        predicate.holds contact = true := by
  have legal : checkAll .standard 1 [condition .endsWith "ΚΟΣΜΟΣ"] =
      .ok (group .endsWith "ΚΟΣΜΟΣ") := rfl
  have registered : Catalog.standard.find? "companyName" = some field := rfl
  have value : contact.text field.attr = some "ΑΕ ΚΟΣΜΟΣ" := rfl
  have occurs : "ΑΕ ΚΟΣΜΟΣ".toList =
      "ΑΕ ".toList ++ (condition .endsWith "ΚΟΣΜΟΣ").value.toList ++ [] := by decide
  have whole : ¬ Torn "ΑΕ ".toList "ΚΟΣΜΟΣ".toList [] :=
    foldedWithin_eq_folded_iff.mp (by decide +kernel)
  obtain ⟨predicate, made, -, -, ending, -⟩ := holds_of_occurrence legal registered value occurs
  exact ⟨legal, predicate, made, (ending rfl rfl).mpr whole⟩

/-- A legal condition on the company that does not match the contact. -/
def Misses (operator : Operator) (value : String) : Prop :=
  checkAll .standard 1 [condition operator value] = .ok (group operator value) ∧
    ∃ predicate, (group operator value).toPredicate .standard contact.organization = .ok predicate ∧
      predicate.holds contact = false

/-- Three pieces are copied from the name and are not found where they stand: in front of an `Μ` a sigma
    is not the one that ends a word, and after an `Ο` the last one is. -/
theorem pieces_missed :
    ("ΚΟΣ".toList <:+: "ΑΕ ΚΟΣΜΟΣ".toList ∧ Misses .contains "ΚΟΣ") ∧
      ("ΑΕ ΚΟΣ".toList <+: "ΑΕ ΚΟΣΜΟΣ".toList ∧ Misses .startsWith "ΑΕ ΚΟΣ") ∧
      ("Σ".toList <:+ "ΑΕ ΚΟΣΜΟΣ".toList ∧ Misses .endsWith "Σ") := by
  have inside : Misses .contains "ΚΟΣ" := ⟨rfl, _, rfl, by decide +kernel⟩
  have front : Misses .startsWith "ΑΕ ΚΟΣ" := ⟨rfl, _, rfl, by decide +kernel⟩
  have ending : Misses .endsWith "Σ" := ⟨rfl, _, rfl, by decide +kernel⟩
  exact ⟨⟨by decide, inside⟩, ⟨by decide, front⟩, by decide, ending⟩

end Kosmos

end ContactSegments
