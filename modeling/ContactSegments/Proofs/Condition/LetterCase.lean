import ContactSegments.Proofs.Condition.Drift
import ContactSegments.Proofs.Condition.Literal
import ContactSegments.Proofs.Text.LetterCase

/-! # Conditions on texts in any letter case

Changing the case of ASCII letters in the value of a condition on a text, or in the text of a contact,
changes nothing: the condition is legal as before and becomes the same clause, which holds of the same
contacts. Other letters may stand anywhere between.
-/

namespace ContactSegments

open Text

/-- The clause of a text has no more of it than its folding. -/
theorem Field.clause?_of_fold {s t : String} (same : fold s = fold t) (field : Field)
    (operator : Operator) : field.clause? operator (.text s) = field.clause? operator (.text t) := by
  unfold Field.clause?
  cases field.type with
  | text => simp only [Target.textClause?, same]
  | date => rfl

namespace Condition

variable {catalog : Catalog} {c d : Condition} {max : Nat} {operator : Operator} {group : FilterGroup}

/-- A legal condition on a text stays legal, with the same clause. -/
theorem toClause_of_sameLetters (field : d.field = c.field) (named : d.operator = c.operator)
    (letters : SameLetters c.value d.value) {filter : Filter} (legal : c.check catalog = .ok filter)
    (text : filter.field.type = .text) :
    ∃ other, d.check catalog = .ok other ∧ ∀ clause,
      filter.toClause catalog = .ok clause ↔ other.toClause catalog = .ok clause := by
  obtain ⟨known, operator, value, found, isNamed, allowed, read, rfl⟩ := check_eq_ok_iff.mp legal
  rw [← field] at found
  rw [← named] at isNamed
  rw [text] at read
  obtain ⟨shows, rfl⟩ := readValue_text_eq_ok_iff.mp read
  have alsoRead : readValue known.type operator d.value = .ok (.text d.value) := by
    rw [text, readValue_text_eq_ok_iff]
    exact ⟨letters.isBlankText_eq ▸ shows, rfl⟩
  refine ⟨_, check_eq_ok_iff.mpr
    ⟨known, operator, .text d.value, found, isNamed, allowed, alsoRead, rfl⟩, fun clause => ?_⟩
  simp only [Filter.toClause_eq_ok_iff, Field.clause?_of_fold letters.fold_eq]

/-- Whatever the case of the ASCII letters in the value, a condition with an operator on texts is legal
    and becomes one and the same predicate, which binds the same values. It does not see the case of the
    ASCII letters in the text of a contact either. -/
theorem letter_case_ignored (legal : checkAll catalog max [c] = .ok group)
    (texts : FieldType.text.allows operator = true) (named : c.operator = operator.name)
    (field : d.field = c.field) (alsoNamed : d.operator = c.operator)
    (letters : SameLetters c.value d.value) :
    ∃ other, checkAll catalog max [d] = .ok other ∧ ∀ organization, ∃ predicate,
      group.toPredicate catalog organization = .ok predicate ∧
      other.toPredicate catalog organization = .ok predicate ∧
      ∀ (found : Field) (contact contact' : Contact) (v v' : String),
        catalog.find? c.field = some found → contact.organization = contact'.organization →
        contact.text found.attr = some v → contact'.text found.attr = some v' → SameLetters v v' →
        predicate.holds contact = predicate.holds contact' := by
  obtain ⟨room, filter, ok, rfl⟩ := checkAll_singleton_eq_ok_iff.mp legal
  have type {found : Field} (known : catalog.find? c.field = some found) : found.type = .text :=
    type_of_text_operator ok known texts named
  obtain ⟨other, alsoOk, sameClause⟩ :=
    toClause_of_sameLetters field alsoNamed letters ok (type (field_of_check ok).1)
  refine ⟨_, checkAll_singleton_eq_ok_iff.mpr ⟨room, other, alsoOk, rfl⟩, fun organization => ?_⟩
  obtain ⟨predicate, made, -, matched⟩ := exists_toPredicate legal organization
  have alsoMade : FilterGroup.toPredicate ⟨[other], List.cons_ne_nil _ _⟩ catalog organization =
      .ok predicate :=
    FilterGroup.toPredicate_of_clauses (.cons (fun clause => (sameClause clause).mp) .nil) made
  refine ⟨predicate, made, alsoMade, ?_⟩
  intro found contact contact' v v' known owners value value' same
  rw [Bool.eq_iff_iff, matched, matched, owners, List.forall_mem_singleton, List.forall_mem_singleton,
    saysOf_text known named.symm (type known), saysOf_text known named.symm (type known), value, value']
  simp only [Option.some.injEq, exists_eq_left', same.fold_eq]

end Condition

namespace BesideSigma

open Condition Text

/-- The company ends in a sigma, with letters of ASCII around it. -/
def contact (company : String) : Contact :=
  { Contact.blank .nil ⟨.nil⟩ (.midnight ⟨2024, 5, 20, by decide⟩) with companyName := some company }

def condition (value : String) : Condition := ⟨"c1", "companyName", "endsWith", value, none⟩

def field : Field := ⟨⟨.text, .companyName, "company_name"⟩, "companyName"⟩

def group : FilterGroup where
  filters := [⟨"c1", field, .endsWith, .text "İ'bΣ", none⟩]
  filters_ne_nil := List.cons_ne_nil _ _

/-- The sigma becomes the final one after a small letter and after a capital. -/
theorem found_in_any_case :
    checkAll .standard 1 [condition "İ'bΣ"] = .ok group ∧
      ∃ other predicate, checkAll .standard 1 [condition "İ'BΣ"] = .ok other ∧
        other.toPredicate .standard ⟨.nil⟩ = .ok predicate ∧
        predicate.holds (contact "xİ'bΣ") = true ∧ predicate.holds (contact "Xİ'BΣ") = true := by
  have legal : checkAll .standard 1 [condition "İ'bΣ"] = .ok group := rfl
  have registered : Catalog.standard.find? "companyName" = some field := rfl
  have letters : SameLetters "İ'bΣ" "İ'BΣ" := by decide
  have valueLetters : SameLetters "xİ'bΣ" "Xİ'BΣ" := by decide
  have texts : FieldType.text.allows .endsWith = true := rfl
  obtain ⟨other, alsoLegal, predicates⟩ :=
    letter_case_ignored (d := condition "İ'BΣ") legal texts rfl rfl rfl letters
  obtain ⟨predicate, made, alsoMade, alike⟩ := predicates ⟨.nil⟩
  have same := alike field (contact "xİ'bΣ") (contact "Xİ'BΣ") _ _ registered rfl rfl rfl valueLetters
  have holds : predicate.holds (contact "xİ'bΣ") = true := by
    cases made
    decide +kernel
  exact ⟨legal, other, predicate, alsoLegal, alsoMade, holds, same ▸ holds⟩

end BesideSigma

end ContactSegments
