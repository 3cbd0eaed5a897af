import Mathlib.Data.List.Forall2

/-! # Results of lists

A list is worked through in order until the first failure. It succeeds just when each of its items
does, and then the results stand in the order of the items.
-/

namespace ContactSegments

theorem bind_eq_ok_iff {step : Except ε α} {next : α → Except ε β} {b : β} :
    step >>= next = .ok b ↔ ∃ a, step = .ok a ∧ next a = .ok b := by
  cases step with
  | error e => simp [bind, Except.bind]
  | ok a => simp [bind, Except.bind]

theorem map_eq_ok_iff {f : α → β} {step : Except ε α} {b : β} :
    step.map f = .ok b ↔ ∃ a, step = .ok a ∧ f a = b := by
  cases step with
  | error e => simp [Except.map]
  | ok a => simp [Except.map]

theorem mapError_eq_ok_iff {f : ε → ε'} {step : Except ε α} {a : α} :
    step.mapError f = .ok a ↔ step = .ok a := by
  cases step with
  | error e => simp [Except.mapError]
  | ok a => simp [Except.mapError]

theorem bind_eq_error_iff {step : Except ε α} {next : α → Except ε β} {e : ε} :
    step >>= next = .error e ↔ step = .error e ∨ ∃ a, step = .ok a ∧ next a = .error e := by
  cases step with
  | error e' => simp [bind, Except.bind]
  | ok a => simp [bind, Except.bind]

theorem map_eq_error_iff {f : α → β} {step : Except ε α} {e : ε} :
    step.map f = .error e ↔ step = .error e := by
  cases step with
  | error e' => simp [Except.map]
  | ok a => simp [Except.map]

theorem mapError_eq_error_iff {f : ε → ε'} {step : Except ε α} {e' : ε'} :
    step.mapError f = .error e' ↔ ∃ e, step = .error e ∧ f e = e' := by
  cases step with
  | error e => simp [Except.mapError]
  | ok a => simp [Except.mapError]

theorem mapM_eq_ok_iff {f : α → Except ε β} {as : List α} {bs : List β} :
    as.mapM f = .ok bs ↔ List.Forall₂ (fun a b => f a = .ok b) as bs := by
  induction as generalizing bs with
  | nil =>
      rw [List.mapM_nil]
      cases bs with
      | nil => exact ⟨fun _ => .nil, fun _ => rfl⟩
      | cons b bs => exact ⟨nofun, nofun⟩
  | cons a as ih =>
      simp only [List.mapM_cons, bind_eq_ok_iff, ih]
      constructor
      · rintro ⟨b, head, rest, tail, same⟩
        cases same
        exact .cons head tail
      · rintro (_ | ⟨head, tail⟩)
        exact ⟨_, head, _, tail, rfl⟩

/-- A list fails as the first of its items that does. -/
theorem mapM_eq_error_iff {f : α → Except ε β} {as : List α} {e : ε} :
    as.mapM f = .error e ↔
      ∃ before a after, as = before ++ a :: after ∧ (∀ b ∈ before, ∃ r, f b = .ok r) ∧
        f a = .error e := by
  induction as with
  | nil => exact ⟨nofun, by simp⟩
  | cons first as ih =>
      have rest (b : β) : (as.mapM f >>= fun bs => pure (b :: bs)) = .error e ↔
          as.mapM f = .error e := by
        cases as.mapM f <;> simp [bind, Except.bind, pure, Except.pure]
      simp only [List.mapM_cons, bind_eq_error_iff, rest, ih]
      constructor
      · rintro (head | ⟨b, head, before, a, after, rfl, good, fails⟩)
        · exact ⟨[], first, as, rfl, nofun, head⟩
        · exact ⟨first :: before, a, after, rfl, List.forall_mem_cons.mpr ⟨⟨b, head⟩, good⟩, fails⟩
      · rintro ⟨before, a, after, split, good, fails⟩
        cases before with
        | nil =>
            obtain ⟨rfl, rfl⟩ := List.cons.inj split
            exact .inl fails
        | cons b before =>
            obtain ⟨rfl, rfl⟩ := List.cons.inj split
            obtain ⟨⟨r, head⟩, good⟩ := List.forall_mem_cons.mp good
            exact .inr ⟨r, head, before, a, after, rfl, good, fails⟩

theorem exists_failure {f : α → Except ε β} {as : List α} {e : ε} (failed : as.mapM f = .error e) :
    ∃ a ∈ as, f a = .error e := by
  obtain ⟨before, a, after, rfl, -, fails⟩ := mapM_eq_error_iff.mp failed
  exact ⟨a, by simp, fails⟩

theorem exists_source {R : α → β → Prop} {as : List α} {bs : List β} (related : List.Forall₂ R as bs)
    {b : β} (within : b ∈ bs) : ∃ a ∈ as, R a b := by
  induction related with
  | nil => cases within
  | @cons a b' as bs head _ ih =>
      rcases List.mem_cons.mp within with rfl | within
      · exact ⟨a, List.mem_cons_self, head⟩
      · obtain ⟨source, inside, held⟩ := ih within
        exact ⟨source, List.mem_cons_of_mem a inside, held⟩

theorem forall₂_trans {R : α → β → Prop} {S : β → γ → Prop} {T : α → γ → Prop}
    (joined : ∀ a b c, R a b → S b c → T a c) {as : List α} {bs : List β} {cs : List γ}
    (related : List.Forall₂ R as bs) (further : List.Forall₂ S bs cs) : List.Forall₂ T as cs := by
  induction related generalizing cs with
  | nil =>
      cases further
      exact .nil
  | cons head _ ih =>
      cases further with
      | cons next rest => exact .cons (joined _ _ _ head next) (ih rest)

/-- What is true of every item that has a result gives each result one of its own, in their order. -/
theorem exists_images {R : α → β → Prop} {S : β → γ → Prop} {T : α → γ → Prop}
    (image : ∀ a b, R a b → ∃ c, S b c ∧ T a c) {as : List α} {bs : List β}
    (related : List.Forall₂ R as bs) : ∃ cs, List.Forall₂ S bs cs ∧ List.Forall₂ T as cs := by
  induction related with
  | nil => exact ⟨[], .nil, .nil⟩
  | cons head _ ih =>
      obtain ⟨c, second, third⟩ := image _ _ head
      obtain ⟨cs, seconds, thirds⟩ := ih
      exact ⟨c :: cs, .cons second seconds, .cons third thirds⟩

theorem exists_forall₂_iff {R : α → β → Prop} {as : List α} :
    (∃ bs, List.Forall₂ R as bs) ↔ ∀ a ∈ as, ∃ b, R a b := by
  induction as with
  | nil => exact ⟨fun _ => nofun, fun _ => ⟨[], .nil⟩⟩
  | cons a as ih =>
      rw [List.forall_mem_cons, ← ih]
      constructor
      · rintro ⟨_, made⟩
        cases made with
        | cons head tail => exact ⟨⟨_, head⟩, _, tail⟩
      · rintro ⟨⟨b, head⟩, bs, tail⟩
        exact ⟨b :: bs, .cons head tail⟩

theorem map_eq_map_iff {f : α → β} {as bs : List α} :
    as.map f = bs.map f ↔ List.Forall₂ (fun a b => f a = f b) as bs := by
  rw [← List.forall₂_eq_eq_eq, List.forall₂_map_left_iff, List.forall₂_map_right_iff]

theorem forall_mem_iff {P : α → Prop} {Q : β → Prop} {as : List α} {bs : List β}
    (related : List.Forall₂ (fun a b => Q b ↔ P a) as bs) :
    (∀ b ∈ bs, Q b) ↔ ∀ a ∈ as, P a := by
  induction related with
  | nil => simp
  | cons head _ ih => rw [List.forall_mem_cons, List.forall_mem_cons, head, ih]

end ContactSegments
