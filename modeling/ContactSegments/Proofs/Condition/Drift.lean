import ContactSegments.Proofs.Condition.Meaning

/-! # Catalogs that change

Filters are made by one catalog and may be turned into a predicate by another one. They are as long as
every field that they name still has its type; then each clause reads the field as it now is. Otherwise
there is no predicate at all, and the first filter that does not fit is reported.
-/

namespace ContactSegments

/-- Both catalogs have a field of this name, and its type is the same. -/
def Catalog.SameType (old new : Catalog) (name : String) : Prop :=
  ∃ field field', old.find? name = some field ∧ new.find? name = some field' ∧
    field'.type = field.type

/-- Why a filter of the old catalog has no clause in the new one. -/
inductive Filter.Drift (old new : Catalog) (filter : Filter) : EvaluationError → Prop
  | gone (absent : new.find? filter.field.name = none) :
    Drift old new filter (.unregisteredField filter.field.name)
  | changed {field field' : Field} (was : old.find? filter.field.name = some field)
      (now : new.find? filter.field.name = some field') (other : field'.type ≠ field.type) :
    Drift old new filter (.inapplicable filter.id filter.operator filter.field.name)

/-- A filter that drifted has lost its field or the type of it. -/
theorem Filter.Drift.not_sameType {old new : Catalog} {filter : Filter} {error : EvaluationError}
    (drift : filter.Drift old new error) : ¬ old.SameType new filter.field.name := by
  rintro ⟨was, now, before, found, same⟩
  cases drift with
  | gone absent =>
      rw [absent] at found
      cases found
  | changed was' now' other =>
      rw [before] at was'
      rw [found] at now'
      cases was'
      cases now'
      exact other same

namespace Condition

variable {old new : Catalog} {c : Condition} {filter : Filter}

/-- The field of a filter is the one that the catalog has under the name in the condition. -/
theorem field_of_check (legal : c.check old = .ok filter) :
    old.find? c.field = some filter.field ∧ filter.field.name = c.field := by
  obtain ⟨field, operator, value, found, -, -, -, rfl⟩ := check_eq_ok_iff.mp legal
  exact ⟨found, Catalog.name_of_find? found⟩

/-- A condition that is legal by one catalog is legal by any other in which its field has the same
    type. -/
theorem check_of_sameType (legal : c.check old = .ok filter) {field : Field}
    (found : new.find? filter.field.name = some field) (same : field.type = filter.field.type) :
    c.check new = .ok { filter with field } := by
  obtain ⟨was, operator, value, registered, named, allowed, read, rfl⟩ := check_eq_ok_iff.mp legal
  rw [Catalog.name_of_find? registered] at found
  refine check_eq_ok_iff.mpr ⟨field, operator, value, found, named, ?_, ?_, rfl⟩
  · rw [same]
    exact allowed
  · rw [same]
    exact read

/-- A filter whose field still has its type has a clause, which reads the field as it now is. -/
theorem exists_clause_of_sameType (legal : c.check old = .ok filter)
    (kept : old.SameType new filter.field.name) :
    ∃ clause, filter.toClause new = .ok clause ∧
      (∃ field, new.find? filter.field.name = some field ∧ field.Reads clause) ∧
      ∀ contact, clause.holds contact = true ↔ c.SaysOf new contact := by
  obtain ⟨registered, name⟩ := field_of_check legal
  obtain ⟨was, field, before, found, same⟩ := kept
  obtain rfl : filter.field = was := by
    rw [name, registered] at before
    exact Option.some.inj before
  obtain ⟨clause, made, meant⟩ := exists_clause (check_of_sameType legal found same)
  have renamed : field.name = filter.field.name := Catalog.name_of_find? found
  have again : filter.toClause new = .ok clause := by
    rw [← made]
    simp only [Filter.toClause, renamed]
  obtain ⟨read, now, ofField⟩ := Filter.toClause_eq_ok_iff.mp again
  exact ⟨clause, again, ⟨read, now, Field.reads_of_clause? ofField⟩, meant⟩

/-- Values are of the type of their field, so they fit no field of another type. -/
theorem clause?_of_other_type (legal : c.check old = .ok filter) {field : Field}
    (other : field.type ≠ filter.field.type) : field.clause? filter.operator filter.value = none := by
  obtain ⟨was, operator, value, -, -, -, read, rfl⟩ := check_eq_ok_iff.mp legal
  cases type : was.type with
  | text =>
      rw [type] at read other
      obtain ⟨-, rfl⟩ := readValue_text_eq_ok_iff.mp read
      cases now : field.type with
      | text => exact absurd now other
      | date => simp [Field.clause?, now]
  | date =>
      rw [type] at read other
      obtain ⟨-, reading, -, -, rfl⟩ := readValue_date_eq_ok_iff.mp read
      cases now : field.type with
      | text => simp [Field.clause?, now]
      | date => exact absurd now other

theorem toClause_eq_error_iff (legal : c.check old = .ok filter) {error : EvaluationError} :
    filter.toClause new = .error error ↔ filter.Drift old new error := by
  obtain ⟨registered, name⟩ := field_of_check legal
  rw [← name] at registered
  constructor
  · intro failed
    cases now : new.find? filter.field.name with
    | none =>
        simp only [Filter.toClause, now] at failed
        cases failed
        exact .gone now
    | some field =>
        have other : field.type ≠ filter.field.type := by
          intro same
          obtain ⟨clause, made, -⟩ :=
            exists_clause_of_sameType legal ⟨_, field, registered, now, same⟩
          rw [made] at failed
          cases failed
        simp only [Filter.toClause, now, clause?_of_other_type legal other] at failed
        cases failed
        exact .changed registered now other
  · intro drift
    cases drift with
    | gone absent => simp only [Filter.toClause, absent]
    | changed was now other =>
        obtain rfl := Option.some.inj (registered.symm.trans was)
        simp only [Filter.toClause, now, clause?_of_other_type legal other]

/-- A filter has a clause just when its field still has its type. -/
theorem exists_toClause_iff (legal : c.check old = .ok filter) :
    (∃ clause, filter.toClause new = .ok clause) ↔ old.SameType new filter.field.name := by
  constructor
  · rintro ⟨clause, made⟩
    obtain ⟨registered, name⟩ := field_of_check legal
    obtain ⟨field, now, ofField⟩ := Filter.toClause_eq_ok_iff.mp made
    refine ⟨filter.field, field, name ▸ registered, now, ?_⟩
    by_contra other
    rw [clause?_of_other_type legal other] at ofField
    cases ofField
  · intro kept
    obtain ⟨clause, made, -⟩ := exists_clause_of_sameType legal kept
    exact ⟨clause, made⟩

variable {max : Nat} {conditions : List Condition} {group : FilterGroup}

/-- A group fails as the first of its filters that does not fit. -/
theorem toPredicate_eq_error_iff (legal : checkAll old max conditions = .ok group)
    (organization : OrganizationId) {error : EvaluationError} :
    group.toPredicate new organization = .error error ↔
      ∃ before filter after, group.filters = before ++ filter :: after ∧
        (∀ kept ∈ before, old.SameType new kept.field.name) ∧ filter.Drift old new error := by
  obtain ⟨-, checked⟩ := checkAll_eq_ok_iff.mp legal
  have failed : group.toPredicate new organization = .error error ↔
      group.filters.mapM (·.toClause new) = .error error := by
    unfold FilterGroup.toPredicate
    cases group.filters.mapM (·.toClause new) <;> simp [bind, Except.bind, pure, Except.pure]
  rw [failed, mapM_eq_error_iff]
  refine exists_congr fun before => exists_congr fun filter => exists_congr fun after =>
    and_congr_right fun split => and_congr (forall₂_congr fun kept within => ?_) ?_
  · obtain ⟨c, -, ok⟩ := exists_source checked (show kept ∈ group.filters by simp [split, within])
    exact exists_toClause_iff ok
  · obtain ⟨c, -, ok⟩ := exists_source checked (show filter ∈ group.filters by simp [split])
    exact toClause_eq_error_iff ok

/-- Filters of one catalog have a predicate by another just when each of their fields still has its type,
    and then every clause reads the field as it now is. Otherwise the first one that drifted is reported.
    By the catalog that made them they always have one. -/
theorem toPredicate_of_drift (legal : checkAll old max conditions = .ok group) (new : Catalog)
    (organization : OrganizationId) :
    ((∃ predicate, group.toPredicate new organization = .ok predicate) ↔
      ∀ filter ∈ group.filters, old.SameType new filter.field.name) ∧
    (∀ predicate, group.toPredicate new organization = .ok predicate →
      predicate.organization = organization ∧
        List.Forall₂ (fun c clause => (∃ field, new.find? c.field = some field ∧ field.Reads clause) ∧
          ∀ contact, clause.holds contact = true ↔ c.SaysOf new contact)
          conditions predicate.clauses) ∧
    (∀ error, group.toPredicate new organization = .error error ↔
      ∃ before filter after, group.filters = before ++ filter :: after ∧
        (∀ kept ∈ before, old.SameType new kept.field.name) ∧ filter.Drift old new error) ∧
    ∃ predicate, group.toPredicate old organization = .ok predicate := by
  obtain ⟨-, checked⟩ := checkAll_eq_ok_iff.mp legal
  refine ⟨⟨?allKept, ?made⟩, fun predicate made => ?clauses,
    fun error => toPredicate_eq_error_iff legal organization, ?again⟩
  case allKept =>
    rintro ⟨predicate, made⟩ filter within
    obtain ⟨-, clauses⟩ := FilterGroup.toPredicate_eq_ok_iff.mp made
    obtain ⟨clause, -, ok⟩ := exists_source clauses.flip within
    obtain ⟨c, -, checks⟩ := exists_source checked within
    exact (exists_toClause_iff checks).mp ⟨clause, ok⟩
  case made =>
    intro kept
    cases made : group.toPredicate new organization with
    | ok predicate => exact ⟨predicate, rfl⟩
    | error error =>
        obtain ⟨before, filter, after, split, -, drift⟩ :=
          (toPredicate_eq_error_iff legal organization).mp made
        exact absurd (kept filter (by simp [split])) drift.not_sameType
  case clauses =>
    obtain ⟨same, clauses⟩ := FilterGroup.toPredicate_eq_ok_iff.mp made
    refine ⟨same, forall₂_trans (fun c filter clause checks ok => ?_) checked clauses⟩
    obtain ⟨clause', ok', reads, meant⟩ :=
      exists_clause_of_sameType checks ((exists_toClause_iff checks).mp ⟨clause, ok⟩)
    obtain rfl := Except.ok.inj (ok.symm.trans ok')
    rw [(field_of_check checks).2] at reads
    exact ⟨reads, meant⟩
  case again =>
    obtain ⟨predicate, made, -⟩ := exists_toPredicate legal organization
    exact ⟨predicate, made⟩

/-- The company is read from another attribute than before. -/
def rebound : Catalog := Catalog.standard.insert "companyName" ⟨.text, .source, "employer"⟩

/-- The time of creation has become a text. -/
def retyped : Catalog := Catalog.standard.insert "createdAt" ⟨.text, .source, "arrival"⟩

theorem lastArrivals_after_drift :
    checkAll .standard 2 lastArrivals = .ok lastArrivalsGroup ∧
      (∃ predicate, lastArrivalsGroup.toPredicate rebound ⟨.nil⟩ = .ok predicate ∧
        predicate.clauses.length = 2) ∧
      lastArrivalsGroup.toPredicate retyped ⟨.nil⟩ =
        .error (.inapplicable "c2" .on "createdAt") := by
  have legal : checkAll .standard 2 lastArrivals = .ok lastArrivalsGroup := rfl
  have company (new : Catalog) (field : Field) (text : field.type = .text)
      (found : new.find? "companyName" = some field) : Catalog.standard.SameType new "companyName" :=
    ⟨_, field, rfl, found, text⟩
  obtain ⟨fits, clauses, -⟩ := toPredicate_of_drift legal rebound ⟨.nil⟩
  obtain ⟨-, -, fails, -⟩ := toPredicate_of_drift legal retyped ⟨.nil⟩
  refine ⟨legal, ?_, (fails _).mpr ?_⟩
  · have time : Catalog.standard.SameType rebound "createdAt" := ⟨_, _, rfl, rfl, rfl⟩
    obtain ⟨predicate, made⟩ := fits.mpr (List.forall_mem_cons.mpr
      ⟨company rebound _ rfl rfl, List.forall_mem_singleton.mpr time⟩)
    exact ⟨predicate, made, (clauses predicate made).2.length_eq.symm⟩
  · exact ⟨[_], _, [], rfl, List.forall_mem_singleton.mpr (company retyped _ rfl rfl),
      .changed rfl rfl (by decide)⟩

end Condition

end ContactSegments
