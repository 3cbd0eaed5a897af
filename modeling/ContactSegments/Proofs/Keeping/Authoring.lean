import ContactSegments.Proofs.Condition.Fault
import ContactSegments.Proofs.Keeping.Admission
import ContactSegments.Proofs.Membership.Page
import ContactSegments.Proofs.Membership.Stored
import ContactSegments.Proofs.Traffic.LastPart

/-! # One verdict on conditions

Conditions are checked when they are tried out, when a segment is created with them and when they
replace those of a segment. As long as the stores work, all of these succeed or fail together, and they
fail with the same rejection.
-/

namespace ContactSegments

open ContactSegments.Action

/-- Whether the action succeeds, and if not, how it fails. -/
def Action.outcome {α : Type} (act : Action α) (world : World) : Except SegmentError Unit :=
  (act.perform world).1.map fun _ => ()

namespace Action

variable {α : Type} {act : Action α} {world after : World}

theorem outcome_ok {a : α} (done : act.perform world = (.ok a, after)) :
    act.outcome world = .ok () := by
  rw [outcome, done]
  rfl

theorem outcome_error {error : SegmentError} (failed : act.perform world = (.error error, after)) :
    act.outcome world = .error error := by
  rw [outcome, failed]
  rfl

theorem outcome_bind_ok {β : Type} {next : α → Action β} {a : α}
    (done : act.perform world = (.ok a, after)) :
    (act >>= next).outcome world = (next a).outcome after := by
  rw [outcome, perform_bind_ok done, outcome]

theorem outcome_bind {β : Type} {next : α → Action β} (succeeds : act.outcome world = .ok ())
    (rest : ∀ a after, (next a).outcome after = .ok ()) : (act >>= next).outcome world = .ok () := by
  rcases done : act.perform world with ⟨error | a, after⟩
  · rw [outcome_error done] at succeeds
    cases succeeds
  · rw [outcome_bind_ok done, rest]

theorem outcome_map {β : Type} (act : Action α) (f : α → β) (world : World) :
    (do return f (← act) : Action β).outcome world = act.outcome world := by
  rw [outcome, perform_map, outcome]
  cases (act.perform world).1 <;> rfl

/-- Queries that do not fail give something. -/
theorem outcome_measured (contacts : world.contactOutage = none) (counter : Counter)
    (predicate : Predicate) (window : Window) :
    (measured counter predicate window).outcome world = .ok () := by
  have done := perform_measured counter predicate window world
  rw [contacts] at done
  exact outcome_ok done

end Action

namespace Engine

variable (engine : Engine) {organization : OrganizationId} {conditions : List Condition}
  {world : World}

/-- What the engine says of conditions, whatever is done with them. -/
def verdict (conditions : List Condition) : Except SegmentError Unit :=
  ((engine.check conditions).map fun _ => ()).mapError .validation

theorem verdict_eq (conditions : List Condition) :
    engine.verdict conditions =
      match engine.criteriaFault? .dynamic ⟨conditions⟩ with
      | some error => .error (.validation error)
      | none => .ok () := by
  unfold verdict criteriaFault?
  cases engine.check conditions <;> rfl

/-- Nothing but the conditions decides about what is done with their predicate, if that succeeds
    whatever the predicate is. -/
theorem outcome_toPredicate_bind {β : Type} {next : Predicate → Action β}
    (succeeds : ∀ predicate, (next predicate).outcome world = .ok ())
    (organization : OrganizationId) (conditions : List Condition) :
    (engine.toPredicate organization conditions >>= next).outcome world =
      engine.verdict conditions := by
  unfold verdict
  cases checked : engine.check conditions with
  | error error =>
      have rejected := engine.perform_toPredicate_of_error checked organization world
      rw [outcome_error (perform_bind_error rejected)]
      rfl
  | ok group =>
      obtain ⟨predicate, -, performed⟩ := engine.perform_toPredicate_of_ok checked organization
      rw [outcome_bind_ok (performed world), succeeds]
      rfl

theorem outcome_toPredicate (organization : OrganizationId) (conditions : List Condition)
    (world : World) :
    (engine.toPredicate organization conditions).outcome world = engine.verdict conditions := by
  rw [← outcome_map _ id]
  exact engine.outcome_toPredicate_bind (fun _ => rfl) organization conditions

theorem outcome_previewCount (contacts : world.contactOutage = none)
    (organization : OrganizationId) (conditions : List Condition) :
    (engine.previewCount organization conditions).outcome world = engine.verdict conditions := by
  refine engine.outcome_toPredicate_bind (fun predicate => ?_) organization conditions
  have counts : (countMatches predicate).outcome world = .ok () :=
    outcome_bind (outcome_measured contacts _ _ _) fun _ _ => rfl
  exact outcome_bind counts fun _ _ => rfl

theorem outcome_previewMembers (contacts : world.contactOutage = none) {page : Page}
    (room : 1 ≤ page.limit) (small : page.limit ≤ engine.limits.maxPageSize)
    (organization : OrganizationId) (conditions : List Condition) :
    (engine.previewMembers organization conditions page).outcome world =
      engine.verdict conditions := by
  refine engine.outcome_toPredicate_bind (fun predicate => ?_) organization conditions
  unfold pageMatches
  rw [page.check_eq_ok room small]
  exact outcome_bind (outcome_measured contacts _ _ _) fun _ _ => rfl

theorem outcome_create (insert : world.tableOutage .insert = none) {new : NewSegment}
    (dynamic : new.kind = .dynamic) (legal : nameFault? new.name = none)
    (organization : OrganizationId) (stamp : Stamp) :
    (engine.create organization new stamp).outcome world =
      engine.verdict new.criteria.conditions := by
  have fault : engine.fault? new.kind (some new.name) (some new.criteria) =
      engine.criteriaFault? .dynamic new.criteria := by
    simp [fault?, dynamic, legal]
  rw [verdict_eq, outcome, perform_create, draft_eq, fault, insert]
  cases engine.criteriaFault? .dynamic new.criteria <;> rfl

theorem outcome_update (order : world.InOrder) {id : SegmentId} {segment : Segment}
    (stands : world.segments.find? organization id = some segment) (dynamic : segment.kind = .dynamic)
    {change : SegmentChange} {criteria : Criteria} (given : change.criteria = some criteria)
    (legal : ∀ name, change.name = some name → nameFault? name = none) (now : Instant) :
    (engine.update organization id change now).outcome world =
      engine.verdict criteria.conditions := by
  have name : change.name.bind nameFault? = none := Option.bind_eq_none_iff.mpr legal
  have fault : engine.fault? segment.kind change.name change.criteria =
      engine.criteriaFault? .dynamic criteria := by
    simp [fault?, dynamic, given, name]
  rw [verdict_eq, outcome, engine.perform_update order.working order.filed, stands]
  dsimp only
  rw [revise_eq, fault]
  cases engine.criteriaFault? .dynamic criteria <;> rfl

/-- Whoever tries conditions out, previews them, or saves them under a legal name, gets the same
    verdict on them, which says nothing of evaluations. So what can be previewed can be saved, and what
    can be saved can be previewed. -/
theorem authoring_agrees (engine : Engine) (order : world.InOrder)
    (contacts : world.contactOutage = none) (organization : OrganizationId)
    (conditions : List Condition) :
    let verdict := engine.verdict conditions
    (engine.toPredicate organization conditions).outcome world = verdict ∧
    (engine.previewCount organization conditions).outcome world = verdict ∧
    (∀ page : Page, 1 ≤ page.limit → page.limit ≤ engine.limits.maxPageSize →
      (engine.previewMembers organization conditions page).outcome world = verdict) ∧
    (∀ new stamp, new.kind = .dynamic → new.criteria = ⟨conditions⟩ → nameFault? new.name = none →
      (engine.create organization new stamp).outcome world = verdict) ∧
    (∀ id segment change now, world.segments.find? organization id = some segment →
      segment.kind = .dynamic → change.criteria = some ⟨conditions⟩ →
      (∀ name, change.name = some name → nameFault? name = none) →
      (engine.update organization id change now).outcome world = verdict) ∧
    ∀ error, verdict ≠ .error (.evaluation error) := by
  refine ⟨engine.outcome_toPredicate organization conditions world,
    engine.outcome_previewCount contacts organization conditions,
    fun page room small => engine.outcome_previewMembers contacts room small organization conditions,
    fun new stamp dynamic given legal => ?_,
    fun id segment change now stands dynamic given legal =>
      engine.outcome_update order stands dynamic given legal now, fun error => ?_⟩
  · rw [engine.outcome_create (order.working .insert) dynamic legal, given]
  · unfold verdict
    cases engine.check conditions <;> exact nofun

end Engine

namespace StoredCriteria

/-- The stored criteria, under another name. -/
def change : SegmentChange := ⟨some " Acme staff ", some acme.criteria, none⟩

/-- What the first engine shows and saves, the one without the field neither shows nor saves. -/
theorem acme_authored :
    world.contactOutage = none ∧ world.segments.find? owner acme.id = some acme ∧
      (engine.previewMembers owner acme.criteria.conditions ⟨0, 10⟩).outcome world = .ok () ∧
      (engine.update owner acme.id change today).outcome world = .ok () ∧
      let rejected := Except.error (.validation ⟨some "c1", .unknownField "companyName"⟩)
      (later.previewMembers owner acme.criteria.conditions ⟨0, 10⟩).outcome world = rejected ∧
      (later.update owner acme.id change today).outcome world = rejected := by
  have order : world.InOrder :=
    ⟨fun _ => rfl, SegmentTable.filed_empty.insert acme⟩
  have held : world.segments.find? owner acme.id = some acme := by decide +kernel
  have legal : ∀ name, change.name = some name → nameFault? name = none := by
    rintro _ ⟨⟩
    decide +kernel
  have accepts : engine.verdict acme.criteria.conditions = .ok () := rfl
  have rejects : later.verdict acme.criteria.conditions =
      .error (.validation ⟨some "c1", .unknownField "companyName"⟩) := rfl
  obtain ⟨-, -, shows, -, saves, -⟩ :=
    engine.authoring_agrees order rfl owner acme.criteria.conditions
  obtain ⟨-, -, refuses, -, keeps, -⟩ :=
    later.authoring_agrees order rfl owner acme.criteria.conditions
  refine ⟨rfl, held, ?_, ?_, ?_, ?_⟩
  · rw [shows ⟨0, 10⟩ (by decide) (by decide), accepts]
  · rw [saves acme.id acme change today held rfl rfl legal, accepts]
  · rw [refuses ⟨0, 10⟩ (by decide) (by decide), rejects]
  · rw [keeps acme.id acme change today held rfl rfl legal, rejects]

end StoredCriteria

/-- What a rejection of conditions is when a segment with these conditions is stored already. -/
def SegmentError.ofStored : SegmentError → SegmentError
  | .validation error => .evaluation (.staleCriteria error)
  | error => error

namespace Engine

/-- Stored conditions are judged as they are when they are written, and what is found wrong with them is
    told as an evaluation error. -/
theorem storedPredicate_judges_alike (engine : Engine) {segment : Segment}
    (dynamic : segment.kind = .dynamic) (world : World) :
    ((engine.storedPredicate segment).perform world).1 =
      ((engine.toPredicate segment.organization segment.criteria.conditions).perform
        world).1.mapError .ofStored := by
  cases made : ((engine.toPredicate segment.organization segment.criteria.conditions).perform
    world).1 with
  | ok predicate => rw [(engine.perform_storedPredicate_of_ok dynamic made).2]; rfl
  | error error =>
      obtain ⟨rejection, rfl, stale⟩ := engine.perform_storedPredicate_of_error dynamic made
      rw [stale]
      rfl

/-- Conditions are rejected as a list when there are none or too many of them, and else for the first of
    them that has a fault, which is named. Those without a fault become the filters that they write, in
    their order. Conditions of a stored segment get the same judgement. -/
theorem check_judges (engine : Engine) (conditions : List Condition) :
    let catalog := engine.catalog
    let max := engine.limits.maxConditions
    (∀ cause, engine.check conditions = .error ⟨none, cause⟩ ↔
      conditions = [] ∧ cause = .emptyConditions ∨
        conditions ≠ [] ∧ max < conditions.length ∧ cause = .tooManyConditions max) ∧
    (∀ id cause, engine.check conditions = .error ⟨some id, cause⟩ ↔
      conditions.length ≤ max ∧ ∃ before c after, conditions = before ++ c :: after ∧
        (∀ b ∈ before, ∃ filter, b.Writes catalog filter) ∧ c.id = id ∧ c.HasFault catalog cause) ∧
    (∀ group, engine.check conditions = .ok group ↔
      conditions.length ≤ max ∧
        List.Forall₂ (Condition.Writes catalog) conditions group.filters) ∧
    ∀ (segment : Segment) (world : World),
      ((engine.storedPredicate
        { segment with kind := .dynamic, criteria := ⟨conditions⟩ }).perform world).1 =
        ((engine.toPredicate segment.organization conditions).perform
          world).1.mapError .ofStored := by
  refine ⟨fun cause => ?asList, fun id cause => ?forOne, fun group => ?legal,
    fun segment world => ?stored⟩
  case asList => simp [check, Condition.checkAll_eq_error_iff, Condition.toFilters_eq_error_iff]
  case forOne =>
    simp only [check, Condition.checkAll_eq_error_iff, Condition.toFilters_eq_error_iff,
      ValidationError.mk.injEq, reduceCtorEq, false_and, and_false, false_or, Option.some.injEq]
    constructor
    · rintro ⟨-, short, before, c, after, split, good, _, fault, rfl, rfl⟩
      exact ⟨short, before, c, after, split, good, rfl, fault⟩
    · rintro ⟨short, before, c, after, split, good, rfl, fault⟩
      exact ⟨by simp [split], short, before, c, after, split, good, cause, fault, rfl, rfl⟩
  case legal =>
    simp only [check, Condition.checkAll_eq_ok_iff, Condition.check_eq_ok_iff_writes]
  case stored => exact engine.storedPredicate_judges_alike rfl world

end Engine

end ContactSegments
