import ContactSegments.Predicate.OfFilters
import ContactSegments.Proofs.Text.Search

/-! # What clauses say

The clause that an operator makes of a value says of a contact what the operator means, in terms of
the contact's folded text or its time alone.
-/

namespace ContactSegments

theorem Text.fold_eq_iff {v needle : String} :
    Text.fold v = needle ↔ Text.folded v.toList = needle.toList := by
  rw [← String.toList_inj, Text.fold, String.toList_ofList]

theorem Predicate.holds_iff {predicate : Predicate} {contact : Contact} :
    predicate.holds contact = true ↔
      contact.organization = predicate.organization ∧
        ∀ clause ∈ predicate.clauses, clause.holds contact = true := by
  simp [Predicate.holds]

/-- How a folded text has to stand to a folded needle. -/
def Operator.Compares (operator : Operator) (text needle : String) : Prop :=
  match operator with
  | .equals => text = needle
  | .notEquals => text ≠ needle
  | .contains => needle.toList <:+: text.toList
  | .startsWith => needle.toList <+: text.toList
  | .endsWith => needle.toList <:+ text.toList
  | .on | .before | .after => False

/-- How a time has to stand to a reading: within its day, which may be the last one, or to one side
    of its instant. -/
def Operator.Places (operator : Operator) (t : Instant) (reading : DateReading) : Prop :=
  match operator with
  | .on =>
    ∃ day, reading.day = some day ∧ .midnight day ≤ t ∧
      ∀ next, day.next? = some next → t < .midnight next
  | .before => t < reading.instant
  | .after => reading.instant < t
  | .equals | .notEquals | .contains | .startsWith | .endsWith => False

namespace Target

variable {target : Target} {operator : Operator}

theorem textClause?_of_allows (target : Target) (allowed : FieldType.text.allows operator = true) (raw : String) :
    ∃ clause, target.textClause? operator raw = some clause := by
  cases operator with
  | equals | notEquals | contains | startsWith | endsWith => exact ⟨_, rfl⟩
  | on | before | after => exact absurd allowed (by decide)

theorem holds_of_textClause? {raw : String} {clause : Clause}
    (made : target.textClause? operator raw = some clause) (contact : Contact) :
    clause.holds contact = true ↔
      ∃ v, contact.text target.attr = some v ∧ operator.Compares (Text.fold v) (Text.fold raw) := by
  have folded : ∀ s, (Text.fold s).toList = Text.folded s.toList := by simp [Text.fold]
  cases operator with
  | equals | notEquals | contains | startsWith | endsWith =>
      simp only [textClause?, Option.some.injEq] at made
      subst made
      simp only [Clause.holds, Option.any_eq_true, TextMode.holds, beq_iff_eq, bne_iff_ne, ne_eq,
        Text.occursIn_iff, List.isPrefixOf_iff_prefix, List.isSuffixOf_iff_suffix,
        Operator.Compares, Text.fold_eq_iff, folded]
  | on | before | after => simp [textClause?] at made

theorem dateClause?_of_allows (target : Target) {reading : DateReading}
    (allowed : FieldType.date.allows operator = true)
    (dated : operator = .on → ∃ day, reading.day = some day) :
    ∃ clause, target.dateClause? operator reading = some clause := by
  cases operator with
  | on =>
      obtain ⟨day, isDay⟩ := dated rfl
      exact ⟨target.dayClause day, by simp [dateClause?, isDay]⟩
  | before | after => exact ⟨_, rfl⟩
  | equals | notEquals | contains | startsWith | endsWith => exact absurd allowed (by decide)

theorem holds_dayClause (day : Date) (contact : Contact) :
    (target.dayClause day).holds contact = true ↔
      ∃ t, contact.timestamp target.attr = some t ∧ .midnight day ≤ t ∧
        ∀ next, day.next? = some next → t < .midnight next := by
  cases ends : day.next? <;>
    simp [dayClause, ends, Clause.holds, Option.any_eq_true, Bound.allowsAbove, Bound.allowsBelow]

theorem holds_of_dateClause? {reading : DateReading} {clause : Clause}
    (made : target.dateClause? operator reading = some clause) (contact : Contact) :
    clause.holds contact = true ↔
      ∃ t, contact.timestamp target.attr = some t ∧ operator.Places t reading := by
  cases operator with
  | on =>
      simp only [dateClause?, Option.map_eq_some_iff] at made
      obtain ⟨day, isDay, rfl⟩ := made
      rw [holds_dayClause]
      simp [Operator.Places, isDay]
  | before | after =>
      simp only [dateClause?, Option.some.injEq] at made
      subst made
      simp [Clause.holds, Option.any_eq_true, Bound.allowsAbove, Bound.allowsBelow, Operator.Places]
  | equals | notEquals | contains | startsWith | endsWith => simp [dateClause?] at made

end Target

end ContactSegments
