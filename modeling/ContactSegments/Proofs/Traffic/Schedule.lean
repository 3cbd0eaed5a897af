import ContactSegments.Proofs.Traffic.Script

/-! # Schedules

Any number of clients have calls under way in one world. A schedule says whose turn it is: the call at
that place does its next part. A client that makes one call after the other is one whose later calls do
not get a turn before the earlier ones have returned, so nothing has to be said about clients.
-/

namespace ContactSegments

open ContactSegments.Action

/-- How far a call has got. -/
inductive Progress
  | running (script : Script Answer)
  | returned (result : Except SegmentError Answer)

namespace Progress

def result? : Progress → Option (Except SegmentError Answer)
  | .running _ => none
  | .returned result => some result

/-- Does the next part. A call that has returned does nothing more. -/
def advance : Progress → World → Progress × World
  | .running (.last act), world =>
    let (result, after) := act.perform world
    (.returned result, after)
  | .running (.part first next), world =>
    match first.perform world with
    | (.ok segment, after) => (.running (next segment), after)
    | (.error error, after) => (.returned (.error error), after)
  | .returned result, world => (.returned result, world)

theorem eq_returned_of_result? {progress : Progress} {result : Except SegmentError Answer}
    (done : progress.result? = some result) : progress = .returned result := by
  cases progress with
  | running script => cases done
  | returned given =>
      cases done
      rfl

end Progress

/-- An operation that was asked for in the name of an organization. -/
structure ClientCall where
  organization : OrganizationId
  operation : Operation
  progress : Progress

def ClientCall.advance (call : ClientCall) (world : World) : ClientCall × World :=
  let (progress, after) := call.progress.advance world
  ({ call with progress }, after)

namespace ClientCall

variable {call : ClientCall} {world : World}

theorem advance_returned {result : Except SegmentError Answer}
    (done : call.progress = .returned result) :
    call.advance world = (call, world) := by
  obtain ⟨organization, operation, progress⟩ := call
  cases done
  rfl

theorem advance_last {act : Action Answer} (running : call.progress = .running (.last act)) :
    call.advance world =
      ({ call with progress := .returned (act.perform world).1 }, (act.perform world).2) := by
  unfold advance
  rw [running]
  rfl

theorem advance_part_ok {first : Action Segment} {next : Segment → Script Answer}
    (running : call.progress = .running (.part first next)) {segment : Segment} {after : World}
    (done : first.perform world = (.ok segment, after)) :
    call.advance world = ({ call with progress := .running (next segment) }, after) := by
  unfold advance Progress.advance
  rw [running]
  simp only [done]

theorem advance_part_error {first : Action Segment} {next : Segment → Script Answer}
    (running : call.progress = .running (.part first next)) {error : SegmentError} {after : World}
    (failed : first.perform world = (.error error, after)) :
    call.advance world = ({ call with progress := .returned (.error error) }, after) := by
  unfold advance Progress.advance
  rw [running]
  simp only [failed]

end ClientCall

theorem eq_or_getElem?_of_set {as : List α} {i j : Nat} {a b : α} (there : (as.set i a)[j]? = some b) :
    (i = j ∧ b = a) ∨ (i ≠ j ∧ as[j]? = some b) := by
  rw [List.getElem?_set] at there
  split at there
  · rename_i same
    split at there <;> cases there
    exact .inl ⟨same, rfl⟩
  · rename_i other
    exact .inr ⟨other, there⟩

/-- A world and the calls that act in it. -/
structure Traffic where
  world : World
  calls : List ClientCall

namespace Traffic

/-- Nothing is done yet of what was asked for. -/
def start (engine : Engine) (asked : List (OrganizationId × Operation)) (world : World) : Traffic where
  world
  calls := asked.map fun (organization, operation) =>
    ⟨organization, operation, .running (engine.script organization operation)⟩

/-- The call at a place does its next part. -/
def step (traffic : Traffic) (i : Nat) : Traffic :=
  match traffic.calls[i]? with
  | none => traffic
  | some call =>
    let (advanced, world) := call.advance traffic.world
    ⟨world, traffic.calls.set i advanced⟩

def run (traffic : Traffic) (schedule : List Nat) : Traffic := schedule.foldl step traffic

/-- What the call at a place has returned, if it has. -/
def result? (traffic : Traffic) (i : Nat) : Option (Except SegmentError Answer) :=
  traffic.calls[i]?.bind (·.progress.result?)

/-- What was asked for. -/
def asked (traffic : Traffic) : List (OrganizationId × Operation) :=
  traffic.calls.map fun call => (call.organization, call.operation)

variable {traffic : Traffic} {i j : Nat} {call : ClientCall} {result : Except SegmentError Answer}

theorem step_of_none (nobody : traffic.calls[i]? = none) : traffic.step i = traffic := by
  unfold step
  rw [nobody]

theorem step_of_some (here : traffic.calls[i]? = some call) :
    traffic.step i =
      ⟨(call.advance traffic.world).2, traffic.calls.set i (call.advance traffic.world).1⟩ := by
  unfold step
  rw [here]

theorem getElem?_step_self (here : traffic.calls[i]? = some call) :
    (traffic.step i).calls[i]? = some (call.advance traffic.world).1 := by
  obtain ⟨within, -⟩ := List.getElem?_eq_some_iff.mp here
  rw [step_of_some here, List.getElem?_set_self within]

theorem getElem?_step_ne (other : i ≠ j) : (traffic.step i).calls[j]? = traffic.calls[j]? := by
  cases here : traffic.calls[i]? with
  | none => rw [step_of_none here]
  | some call => rw [step_of_some here, List.getElem?_set_ne other]

theorem step_of_returned (here : traffic.calls[i]? = some call)
    (done : call.progress = .returned result) : traffic.step i = traffic := by
  have same : traffic.calls.set i call = traffic.calls := by
    obtain ⟨within, stands⟩ := List.getElem?_eq_some_iff.mp here
    rw [← stands, List.set_getElem_self]
  rw [step_of_some here, ClientCall.advance_returned done, same]

theorem result?_set (here : traffic.calls[i]? = some call)
    (world : World) (moved : ClientCall) (j : Nat) :
    result? ⟨world, traffic.calls.set i moved⟩ j =
      if i = j then moved.progress.result? else traffic.result? j := by
  obtain ⟨within, -⟩ := List.getElem?_eq_some_iff.mp here
  unfold result?
  split
  · rename_i same
    subst same
    rw [List.getElem?_set_self within]
    rfl
  · rename_i other
    rw [List.getElem?_set_ne other]

theorem asked_step (traffic : Traffic) (i : Nat) : (traffic.step i).asked = traffic.asked := by
  apply List.ext_getElem?
  intro j
  by_cases same : i = j
  · subst same
    cases here : traffic.calls[i]? with
    | none => rw [step_of_none here]
    | some call => simp [asked, getElem?_step_self here, here, ClientCall.advance]
  · simp [asked, getElem?_step_ne same]

theorem run_append (before after : List Nat) :
    traffic.run (before ++ after) = (traffic.run before).run after := List.foldl_append

theorem asked_run (traffic : Traffic) (schedule : List Nat) :
    (traffic.run schedule).asked = traffic.asked := by
  induction schedule generalizing traffic with
  | nil => rfl
  | cons i schedule ih => exact (ih (traffic.step i)).trans (asked_step traffic i)

theorem asked_start (engine : Engine) (asked : List (OrganizationId × Operation)) (world : World) :
    (start engine asked world).asked = asked := by
  simp [start, Traffic.asked, Function.comp_def]

/-- A call whose turn does not come stays as it is. -/
theorem getElem?_run_of_notMem {schedule : List Nat} (never : i ∉ schedule) :
    (traffic.run schedule).calls[i]? = traffic.calls[i]? := by
  induction schedule generalizing traffic with
  | nil => rfl
  | cons j schedule ih =>
      obtain ⟨other, later⟩ := not_or.mp (mt List.mem_cons.mpr never)
      exact (ih later).trans (getElem?_step_ne (Ne.symm other))

theorem getElem?_start (engine : Engine) {asked : List (OrganizationId × Operation)} (world : World)
    {organization : OrganizationId} {operation : Operation}
    (here : asked[i]? = some (organization, operation)) :
    (start engine asked world).calls[i]? =
      some ⟨organization, operation, .running (engine.script organization operation)⟩ := by
  simp [start, here]

/-- What was asked for at a place is what the call there is about. -/
theorem exists_call_run (engine : Engine) {asked : List (OrganizationId × Operation)} (world : World)
    {organization : OrganizationId} {operation : Operation}
    (here : asked[i]? = some (organization, operation)) (schedule : List Nat) :
    ∃ progress, ((start engine asked world).run schedule).calls[i]? =
      some ⟨organization, operation, progress⟩ := by
  rw [← asked_start engine asked world, ← asked_run (start engine asked world) schedule] at here
  unfold Traffic.asked at here
  rw [List.getElem?_map, Option.map_eq_some_iff] at here
  obtain ⟨⟨_, _, progress⟩, stands, same⟩ := here
  cases same
  exact ⟨progress, stands⟩

/-- A call that has returned stays as it is. -/
theorem getElem?_run_of_returned (here : traffic.calls[i]? = some call)
    (done : call.progress = .returned result) (schedule : List Nat) :
    (traffic.run schedule).calls[i]? = some call := by
  induction schedule generalizing traffic with
  | nil => exact here
  | cons j schedule ih =>
      apply ih
      by_cases same : j = i
      · subst same
        rw [step_of_returned here done]
        exact here
      · rw [getElem?_step_ne same]
        exact here

theorem result?_run (done : traffic.result? i = some result) (schedule : List Nat) :
    (traffic.run schedule).result? i = some result := by
  obtain ⟨call, here, returned⟩ := Option.bind_eq_some_iff.mp done
  unfold result?
  rw [getElem?_run_of_returned here (Progress.eq_returned_of_result? returned) schedule]
  exact returned

theorem step_of_idle (idle : ∀ other, traffic.calls[j]? = some other →
    ∃ result, other.progress = .returned result) : traffic.step j = traffic := by
  cases there : traffic.calls[j]? with
  | none => exact step_of_none there
  | some other =>
      obtain ⟨result, done⟩ := idle other there
      exact step_of_returned there done

theorem run_of_idle {schedule : List Nat} (idle : ∀ j ∈ schedule, ∀ other,
    traffic.calls[j]? = some other → ∃ result, other.progress = .returned result) :
    traffic.run schedule = traffic := by
  induction schedule with
  | nil => rfl
  | cons j schedule ih =>
      change (traffic.step j).run schedule = traffic
      rw [step_of_idle (idle j List.mem_cons_self)]
      exact ih fun k later => idle k (List.mem_cons_of_mem j later)

/-- A call that returns while no other one does anything has done all its parts at once. -/
theorem run_alone {script : Script Answer} (here : traffic.calls[i]? = some call)
    (running : call.progress = .running script) {schedule : List Nat}
    (idle : ∀ j ∈ schedule, j ≠ i → ∀ other, traffic.calls[j]? = some other →
      ∃ result, other.progress = .returned result)
    (done : (traffic.run schedule).result? i ≠ none) :
    traffic.run schedule =
      ⟨(script.whole.perform traffic.world).2,
        traffic.calls.set i
          { call with progress := .returned (script.whole.perform traffic.world).1 }⟩ := by
  induction schedule generalizing traffic call script with
  | nil =>
      refine absurd ?_ done
      change traffic.result? i = none
      simp [result?, here, running, Progress.result?]
  | cons j schedule ih =>
      change (traffic.step j).run schedule = _
      have idle' := fun k later => idle k (List.mem_cons_of_mem j later)
      by_cases own : j = i
      · subst own
        have stepped := step_of_some here
        have further := getElem?_step_self here
        -- the others are still idle after the turn, and so is this call once it has returned
        have others : ∀ k ∈ schedule, k ≠ j → ∀ other, (traffic.step j).calls[k]? = some other →
            ∃ result, other.progress = .returned result := by
          intro k later foreign other there
          rw [getElem?_step_ne (Ne.symm foreign)] at there
          exact idle' k later foreign other there
        have ended : ∀ {result}, (call.advance traffic.world).1.progress = .returned result →
            (traffic.step j).run schedule = traffic.step j := by
          intro result returned
          refine run_of_idle fun k later other there => ?_
          by_cases own : k = j
          · subst own
            rw [further] at there
            cases there
            exact ⟨result, returned⟩
          · exact others k later own other there
        cases script with
        | last act =>
            have advanced := @ClientCall.advance_last _ traffic.world _ running
            rw [ended (by rw [advanced]), stepped, advanced]
            rfl
        | part first next =>
            unfold Script.whole
            rcases performed : first.perform traffic.world with ⟨error | segment, after⟩
            · have advanced := ClientCall.advance_part_error running performed
              rw [ended (by rw [advanced]), stepped, advanced, perform_bind_error performed]
            · rw [ClientCall.advance_part_ok running performed] at stepped further
              rw [ih further rfl others done, stepped, perform_bind_ok performed, List.set_set]
      · have same := step_of_idle (idle j List.mem_cons_self own)
        rw [same]
        exact ih here running idle' (same ▸ done)

/-- The one call has returned before the other gets its first turn. -/
def Precedes (traffic : Traffic) (schedule : List Nat) (i j : Nat) : Prop :=
  ∃ earlier later, schedule = earlier ++ later ∧ j ∉ earlier ∧ (traffic.run earlier).result? i ≠ none

theorem Precedes.append {schedule : List Nat} (precedes : traffic.Precedes schedule i j)
    (more : List Nat) : traffic.Precedes (schedule ++ more) i j := by
  obtain ⟨earlier, later, rfl, begins, returned⟩ := precedes
  exact ⟨earlier, later ++ more, List.append_assoc _ _ _, begins, returned⟩

/-- Of two calls that do not overlap, the second one acts in the world that the first one leaves. -/
theorem Precedes.run {schedule : List Nat} (precedes : traffic.Precedes schedule i j)
    {first second : ClientCall} {script next : Script Answer} (here : traffic.calls[i]? = some first)
    (running : first.progress = .running script) (there : traffic.calls[j]? = some second)
    (waiting : second.progress = .running next)
    (two : ∀ k other, traffic.calls[k]? = some other → k = i ∨ k = j)
    (done : (traffic.run schedule).result? j ≠ none) :
    (traffic.run schedule).result? i = some (script.whole.perform traffic.world).1 ∧
      (traffic.run schedule).result? j =
        some (next.whole.perform (script.whole.perform traffic.world).2).1 ∧
      (traffic.run schedule).world = (next.whole.perform (script.whole.perform traffic.world).2).2 := by
  obtain ⟨earlier, later, rfl, begins, returned⟩ := precedes
  have apart : i ≠ j := by
    rintro rfl
    apply returned
    simp [result?, getElem?_run_of_notMem begins, here, running, Progress.result?]
  have alone := run_alone here running (fun k turn foreign other present =>
    (two k other present).elim (absurd · foreign) fun own => absurd (own ▸ turn) begins) returned
  have ended : (traffic.run earlier).result? i = some (script.whole.perform traffic.world).1 := by
    rw [alone, result?_set here, if_pos rfl]
    rfl
  have still : (traffic.run earlier).calls[j]? = some second :=
    (getElem?_run_of_notMem begins).trans there
  have idle : ∀ k ∈ later, k ≠ j → ∀ other, (traffic.run earlier).calls[k]? = some other →
      ∃ result, other.progress = .returned result := by
    intro k _ foreign other present
    rw [alone] at present
    obtain ⟨rfl, rfl⟩ | ⟨strange, present⟩ := eq_or_getElem?_of_set present
    · exact ⟨_, rfl⟩
    · exact absurd (two k other present) (not_or.mpr ⟨Ne.symm strange, foreign⟩)
  rw [run_append] at done ⊢
  have after := run_alone still waiting idle done
  refine ⟨result?_run ended later, ?_, ?_⟩
  · rw [after, result?_set still, if_pos rfl, alone]
    rfl
  · rw [after, alone]

theorem run_replicate {script : Script Answer} (here : traffic.calls[i]? = some call)
    (running : call.progress = .running script) :
    ∃ turns, traffic.run (List.replicate turns i) =
      ⟨(script.whole.perform traffic.world).2,
        traffic.calls.set i
          { call with progress := .returned (script.whole.perform traffic.world).1 }⟩ := by
  induction script generalizing traffic call with
  | last act =>
      refine ⟨1, ?_⟩
      change traffic.step i = _
      rw [step_of_some here, ClientCall.advance_last running]
      rfl
  | part first next ih =>
      have stepped := step_of_some here
      unfold Script.whole
      rcases done : first.perform traffic.world with ⟨error | segment, after⟩
      · refine ⟨1, ?_⟩
        change traffic.step i = _
        rw [stepped, ClientCall.advance_part_error running done, perform_bind_error done]
      · have further := getElem?_step_self here
        rw [ClientCall.advance_part_ok running done] at stepped further
        obtain ⟨turns, ran⟩ := ih segment further rfl
        refine ⟨turns + 1, ?_⟩
        change (traffic.step i).run (List.replicate turns i) = _
        rw [ran, stepped, perform_bind_ok done, List.set_set]

/-- A call that gets one turn after the other does what the operation does. -/
theorem run_uninterrupted (engine : Engine) {asked : List (OrganizationId × Operation)} {world : World}
    {organization : OrganizationId} {operation : Operation}
    (here : asked[i]? = some (organization, operation)) :
    ∃ turns,
      let after := (start engine asked world).run (List.replicate turns i)
      let whole := (engine.serve organization operation).perform world
      after.world = whole.2 ∧ after.result? i = some whole.1 := by
  have called := getElem?_start engine world here
  obtain ⟨turns, ran⟩ := run_replicate called rfl
  refine ⟨turns, ?_, ?_⟩
  · rw [ran, engine.whole_script]
    rfl
  · rw [ran, engine.whole_script]
    rw [result?_set called, if_pos rfl]
    rfl

end Traffic

end ContactSegments
