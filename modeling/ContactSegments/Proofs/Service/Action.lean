import ContactSegments.Service.Engine

/-! # Performing actions

An action performed in a world gives a value or an error and leaves a world. What is true of the
parts of an action carries over to the whole by the lemmas about `>>=` here.
-/

namespace ContactSegments.Action

variable {α β : Type}

/-- What an action gives, and the world that it leaves. -/
def perform (act : Action α) (world : World) : Except SegmentError α × World := act world

@[simp] theorem perform_pure (a : α) (world : World) :
    (pure a : Action α).perform world = (.ok a, world) := rfl

@[simp] theorem perform_get (world : World) : (get : Action World).perform world = (.ok world, world) :=
  rfl

@[simp] theorem perform_modify (f : World → World) (world : World) :
    (modify f : Action PUnit).perform world = (.ok ⟨⟩, f world) := rfl

@[simp] theorem perform_count (counter : Counter) (world : World) :
    (count counter).perform world = (.ok (), world.counting counter) := rfl

theorem perform_bind (act : Action α) (next : α → Action β) (world : World) :
    (act >>= next).perform world =
      match act.perform world with
      | (.ok a, after) => (next a).perform after
      | (.error error, after) => (.error error, after) := by
  unfold perform
  simp only [bind, ExceptT.bind, ExceptT.mk, StateT.bind]
  rcases act world with ⟨_ | _, after⟩ <;> rfl

theorem perform_bind_ok {act : Action α} {next : α → Action β} {world after : World} {a : α}
    (done : act.perform world = (.ok a, after)) :
    (act >>= next).perform world = (next a).perform after := by
  rw [perform_bind, done]

theorem perform_bind_error {act : Action α} {next : α → Action β} {world after : World}
    {error : SegmentError} (failed : act.perform world = (.error error, after)) :
    (act >>= next).perform world = (.error error, after) := by
  rw [perform_bind, failed]

theorem perform_return (act : Action α) (f : α → β) (world : World) :
    (do return f (← act) : Action β).perform world =
      ((act.perform world).1.map f, (act.perform world).2) := by
  rw [perform_bind]
  rcases act.perform world with ⟨_ | _, after⟩ <;> rfl

theorem perform_map (act : Action α) (f : α → β) (world : World) :
    ((do return f (← act) : Action β).perform world).1 = (act.perform world).1.map f := by
  rw [perform_return]

@[simp] theorem perform_evaluated (result : Except EvaluationError α) (world : World) :
    (evaluated result).perform world = (result.mapError .evaluation, world) := by
  cases result <;> rfl

theorem perform_query (predicate : Predicate) (window : Window) (world : World) :
    (query predicate window).perform world =
      (.ok (match world.contactOutage with
        | some message => .error message
        | none => .ok (world.contacts.query predicate window)),
        { world with queries := world.queries + 1 }) := by
  unfold query
  simp only [perform_bind, perform_modify, perform_get]
  cases world.contactOutage <;> rfl

theorem perform_readTable (call : TableCall) (read : SegmentTable → α) (world : World) :
    (readTable call read).perform world =
      (match world.tableOutage call with
        | some (.failing message) => .error (.evaluation (.storage message))
        | _ => .ok (read world.segments), world) := by
  unfold readTable
  simp only [perform_bind, perform_get]
  rcases world.tableOutage call with _ | (_ | _) <;> rfl

theorem perform_writeTable (call : TableCall) (write : SegmentTable → Bool × SegmentTable)
    (world : World) :
    (writeTable call write).perform world =
      match world.tableOutage call with
      | some (.failing message) => (.error (.evaluation (.storage message)), world)
      | some .declining => (.ok false, world)
      | none => (.ok (write world.segments).1, { world with segments := (write world.segments).2 }) := by
  unfold writeTable
  simp only [perform_bind, perform_get]
  rcases world.tableOutage call with _ | (_ | _) <;> rfl

theorem perform_insertSegment (segment : Segment) (world : World) :
    (insertSegment segment).perform world =
      match world.tableOutage .insert with
      | some (.failing message) => (.error (.evaluation (.storage message)), world)
      | _ => (.ok (), { world with segments := world.segments.insert segment }) := by
  unfold insertSegment
  simp only [perform_bind, perform_get]
  rcases world.tableOutage .insert with _ | (_ | _) <;> rfl

/-- A rejection is counted, unless it is that of a name. -/
def rejecting (error : ValidationError) (world : World) : World :=
  match error.cause with
  | .invalidName _ => world
  | _ => world.counting .conditionErrors

theorem perform_admitted (result : Except ValidationError α) (world : World) :
    (admitted result).perform world =
      match result with
      | .ok value => (.ok value, world)
      | .error error => (.error (.validation error), rejecting error world) := by
  cases result with
  | ok value => rfl
  | error error =>
      obtain ⟨id, cause⟩ := error
      cases cause <;> rfl

/-- The world in which a query was counted and put to the contacts. -/
def asking (counter : Counter) (world : World) : World :=
  { world.counting counter with queries := world.queries + 1 }

theorem perform_measured (counter : Counter) (predicate : Predicate) (window : Window)
    (world : World) :
    (measured counter predicate window).perform world =
      match world.contactOutage with
      | none =>
        (.ok (world.contacts.query predicate window),
          (asking counter world).counting .timedQueries)
      | some message =>
        (.error (.evaluation (.storage message)),
          ((asking counter world).counting .evaluationErrors).counting .timedQueries) := by
  unfold measured
  simp only [perform_bind, perform_count, perform_query]
  obtain ⟨contacts, segments, metrics, queries, outage, tableOutage⟩ := world
  cases outage <;> rfl

/-- All values that the action gives, in whatever world, are such. -/
def Gives (act : Action α) (P : α → Prop) : Prop :=
  ∀ world a, (act.perform world).1 = .ok a → P a

theorem gives_pure {P : α → Prop} {a : α} (holds : P a) : (pure a : Action α).Gives P := by
  intro world b given
  cases given
  exact holds

theorem gives_throw {P : α → Prop} (error : SegmentError) : (throw error : Action α).Gives P := by
  intro world a given
  cases given

theorem Gives.bind {act : Action α} {P : α → Prop} {next : α → Action β} {Q : β → Prop}
    (first : act.Gives P) (rest : ∀ a, P a → (next a).Gives Q) : (act >>= next).Gives Q := by
  intro world b given
  rw [perform_bind] at given
  rcases done : act.perform world with ⟨_ | a, after⟩
  · rw [done] at given
    cases given
  · rw [done] at given
    exact rest a (first world a (by rw [done])) after b given

/-- Nothing is said about the values. -/
theorem gives_any (act : Action α) : act.Gives fun _ => True := fun _ _ _ => trivial

/-- In whatever world the action is performed, the world afterwards stands so to the one before. -/
def Moves (act : Action α) (R : World → World → Prop) : Prop := ∀ world, R world (act.perform world).2

/-- Later parts may rely on what earlier ones give. -/
theorem Moves.bind {act : Action α} {next : α → Action β} {R : World → World → Prop} {P : α → Prop}
    (trans : ∀ {u v w}, R u v → R v w → R u w) (first : act.Moves R) (gives : act.Gives P)
    (rest : ∀ a, P a → (next a).Moves R) : (act >>= next).Moves R := by
  intro world
  have moved := first world
  have sound := gives world
  rw [perform_bind]
  rcases done : act.perform world with ⟨_ | a, after⟩ <;> rw [done] at moved sound
  · exact moved
  · exact trans moved (rest a (sound a rfl) after)

end ContactSegments.Action
