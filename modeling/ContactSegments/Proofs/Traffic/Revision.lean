import ContactSegments.Proofs.Traffic.LastPart

/-! # Updates of one segment

An update puts back the whole segment that it looked up, with its change made to it. What others have
stored in the meantime is lost: every update that succeeds stores its change of what the calls before it
have left, and of all updates that overlap only the one that stores last is seen in the end.
-/

namespace ContactSegments

open ContactSegments.Action

/-- A change of a segment, and the time that it is dated with. -/
structure Edit where
  change : SegmentChange
  now : Instant
deriving DecidableEq

/-- No part is changed by both. -/
def SegmentChange.Disjoint (change other : SegmentChange) : Prop :=
  (change.name = none ∨ other.name = none) ∧ (change.criteria = none ∨ other.criteria = none) ∧
    (change.members = none ∨ other.members = none)

namespace Edit

def operation (original : Segment) (edit : Edit) : Operation :=
  .update original.id edit.change edit.now

/-- An edit as its segment's owner asks for it. -/
def asked (original : Segment) (edit : Edit) : OrganizationId × Operation :=
  (original.organization, edit.operation original)

/-- Nothing is done yet of the edit. -/
def call (engine : Engine) (original : Segment) (edit : Edit) : ClientCall :=
  ⟨original.organization, edit.operation original,
    .running (engine.script original.organization (edit.operation original))⟩

end Edit

namespace Engine

variable (engine : Engine) (original : Segment)

def edit (edit : Edit) : Action Segment :=
  engine.update original.organization original.id edit.change edit.now

/-- One edit after the other. -/
def editTwice (first second : Edit) : Action Segment := do
  let _ ← engine.edit original first
  engine.edit original second

end Engine

/-- What is there at last. -/
def latest (original : Segment) : List (Nat × Segment) → Segment
  | [] => original
  | (_, segment) :: _ => segment

/-- What a call may have looked up: the latest of what had been stored, all of it by calls before. -/
def Found (original : Segment) (before : Nat → Nat → Prop) (stored : List (Nat × Segment)) (i : Nat)
    (base : Segment) : Prop :=
  ∃ seen, seen <:+ stored ∧ (∀ entry ∈ seen, before entry.1 i) ∧ base = latest original seen

/-- Which calls have stored what, the latest first. Everything stored is the change of what its call may
    have looked up, and no call stores twice. -/
inductive Stored (engine : Engine) (original : Segment) (edits : List Edit)
    (before : Nat → Nat → Prop) : List (Nat × Segment) → Prop
  | nothing : Stored engine original edits before []
  | later {stored : List (Nat × Segment)} {i : Nat} {edit : Edit} {base revised : Segment}
      (earlier : Stored engine original edits before stored) (once : i ∉ stored.map (·.1))
      (mine : edits[i]? = some edit) (found : Found original before stored i base)
      (made : engine.revise base edit.change edit.now = .ok revised) :
      Stored engine original edits before ((i, revised) :: stored)

section

variable {engine : Engine} {original : Segment} {edits : List Edit} {before after : Nat → Nat → Prop}
  {stored more : List (Nat × Segment)}

theorem Found.mono {i : Nat} {base : Segment} (found : Found original before stored i base)
    (grown : stored <:+ more) (wider : ∀ k, before k i → after k i) :
    Found original after more i base := by
  obtain ⟨seen, suffix, earlier, same⟩ := found
  exact ⟨seen, suffix.trans grown, fun entry member => wider _ (earlier entry member), same⟩

namespace Stored

theorem mono (chain : Stored engine original edits before stored)
    (wider : ∀ k i, before k i → after k i) : Stored engine original edits after stored := by
  induction chain with
  | nothing => exact .nothing
  | later _ once mine found made ih =>
      exact .later ih once mine (found.mono (List.suffix_refl _) fun k => wider k _) made

theorem edit_of_mem (chain : Stored engine original edits before stored) {i : Nat} {segment : Segment}
    (kept : (i, segment) ∈ stored) : ∃ edit, edits[i]? = some edit := by
  induction chain with
  | nothing => cases kept
  | later _ _ mine _ _ ih =>
      rcases List.mem_cons.mp kept with same | kept
      · cases same
        exact ⟨_, mine⟩
      · exact ih kept

theorem owner (chain : Stored engine original edits before stored) :
    ∀ seen, seen <:+ stored → (latest original seen).id = original.id ∧
      (latest original seen).organization = original.organization := by
  induction chain with
  | nothing =>
      intro seen suffix
      rw [List.suffix_nil.mp suffix]
      exact ⟨rfl, rfl⟩
  | later _ _ _ found made ih =>
      intro seen suffix
      rcases List.suffix_cons_iff.mp suffix with rfl | suffix
      · obtain ⟨known, earlier, -, rfl⟩ := found
        obtain ⟨named, owned⟩ := ih known earlier
        obtain ⟨same, alike⟩ := Engine.owner_of_revise made
        exact ⟨same.trans named, alike.trans owned⟩
      · exact ih seen suffix

theorem owner_of_found (chain : Stored engine original edits before stored) {i : Nat} {base : Segment}
    (found : Found original before stored i base) :
    base.id = original.id ∧ base.organization = original.organization := by
  obtain ⟨seen, suffix, -, rfl⟩ := found
  exact chain.owner seen suffix

/-- A call that none of the others comes before has changed the original. -/
theorem alone (chain : Stored engine original edits before stored) {i : Nat} {edit : Edit}
    (mine : edits[i]? = some edit) {revised : Segment} (kept : (i, revised) ∈ stored)
    (first : ∀ k segment, (k, segment) ∈ stored → k ≠ i → ¬ before k i) :
    engine.revise original edit.change edit.now = .ok revised := by
  induction chain with
  | nothing => cases kept
  | @later stored j _ base segment _ once asked found made ih =>
      rcases List.mem_cons.mp kept with same | kept
      · cases same
        cases mine.symm.trans asked
        obtain ⟨seen, suffix, earlier, rfl⟩ := found
        cases seen with
        | nil => exact made
        | cons entry seen =>
            have stood : entry ∈ stored := suffix.subset List.mem_cons_self
            have other : entry.1 ≠ i := by
              rintro rfl
              exact once (List.mem_map_of_mem stood)
            exact absurd (earlier entry List.mem_cons_self)
              (first entry.1 entry.2 (List.mem_cons_of_mem _ stood) other)
      · exact ih kept fun k segment member => first k segment (List.mem_cons_of_mem _ member)

end Stored

/-- How far an update may have got. Only one that has not begun is still to look its segment up. -/
inductive Edit.Stage (engine : Engine) (original : Segment) (waiting : Prop)
    (found : Segment → Prop) (edit : Edit) : Progress → Prop
  | asked (begins : waiting) :
      Stage engine original waiting found edit
        (.running (engine.script original.organization (edit.operation original)))
  | found {base : Segment} (read : found base) :
      Stage engine original waiting found edit
        (.running (engine.revising original.id edit.change edit.now base))
  | made {base revised : Segment} (read : found base)
      (made : engine.revise base edit.change edit.now = .ok revised) :
      Stage engine original waiting found edit (.running (Engine.storing original.id revised))
  | returned (result : Except SegmentError Answer) :
      Stage engine original waiting found edit (.returned result)

/-- What an update can do in its turn: nothing to the stores and nothing that succeeds, or store its
    change. -/
inductive Edit.Turn (engine : Engine) (original : Segment) (found : Segment → Prop) (edit : Edit)
    (progress : Progress) (world : World) : Progress → World → Prop
  | reads {next : Progress} {after : World} (stage : edit.Stage engine original False found next)
      (same : world.SameStores after)
      (alike : ∀ answer, next.result? = some (.ok answer) ↔ progress.result? = some (.ok answer)) :
      Turn engine original found edit progress world next after
  | stores {base revised : Segment} (unfinished : progress.result? = none) (read : found base)
      (made : engine.revise base edit.change edit.now = .ok revised) :
      Turn engine original found edit progress world (.returned (.ok (.segment revised)))
        { world with segments := world.segments.insert revised }

namespace Edit

variable {waiting still : Prop} {found known : Segment → Prop} {edit : Edit} {progress : Progress}
  {world : World}

theorem Stage.mono (stage : edit.Stage engine original waiting found progress)
    (keeps : waiting → still) (grown : ∀ base, found base → known base) :
    edit.Stage engine original still known progress := by
  cases stage with
  | asked begins => exact .asked (keeps begins)
  | found read => exact .found (grown _ read)
  | made read made => exact .made (grown _ read) made
  | returned result => exact .returned result

theorem Stage.turn (stage : edit.Stage engine original waiting found progress)
    (order : world.InOrder) {newest : Segment}
    (stands : world.segments.find? original.organization original.id = some newest)
    (looks : waiting → known newest) (grown : ∀ base, found base → known base)
    (owner : ∀ base, known base →
      base.id = original.id ∧ base.organization = original.organization) :
    edit.Turn engine original known progress world (progress.advance world).1
      (progress.advance world).2 := by
  cases stage with
  | asked begins =>
      have looked := Engine.perform_get_held (order.answers .get) stands
      simp only [Progress.advance, Edit.operation, Engine.script, looked]
      exact .reads (.found (looks begins)) (.refl world) fun _ => Iff.rfl
  | @found base read =>
      simp only [Progress.advance, Engine.revising]
      cases revised : engine.revise base edit.change edit.now with
      | ok segment =>
          rw [perform_admitted]
          exact .reads (.made (grown base read) revised) (.refl world) fun _ => Iff.rfl
      | error error =>
          have reads := reads_admitted (.error error : Except ValidationError Segment) world
          rw [perform_admitted] at reads ⊢
          exact .reads (.returned _) reads fun answer => by simp [Progress.result?]
  | @made base revised read made =>
      obtain ⟨named, owned⟩ := owner base (grown base read)
      obtain ⟨same, alike⟩ := Engine.owner_of_revise made
      rw [← same.trans named, ← alike.trans owned] at stands
      have replaced := perform_replaceSegment_held (order.working .replace) stands
      simp only [Progress.advance, Engine.storing, perform_bind_ok replaced]
      exact .stores rfl (grown base read) made
  | returned result => exact .reads (.returned result) (.refl world) fun _ => Iff.rfl

end Edit

namespace Traffic

variable {began : Traffic} {world : World} {schedule : List Nat}

/-- The turn of another call leaves an update where it is. -/
theorem stage_append {i j : Nat} {edit : Edit} {progress : Progress}
    (stage : edit.Stage engine original (j ∉ schedule)
      (Found original (began.Precedes schedule) stored j) progress) (apart : i ≠ j)
    (grown : stored <:+ more) :
    edit.Stage engine original (j ∉ schedule ++ [i])
      (Found original (began.Precedes (schedule ++ [i])) more j) progress := by
  refine stage.mono (fun waits => ?_) fun base found => ?_
  · simp [waits, Ne.symm apart]
  · exact found.mono grown fun _ precedes => precedes.append [i]

/-- Updates of one segment have had these turns, and this is what they have stored so far. -/
structure Logged (engine : Engine) (original : Segment) (edits : List Edit) (began : Traffic)
    (schedule : List Nat) (stored : List (Nat × Segment)) : Prop where
  order : (began.run schedule).world.InOrder
  chain : Stored engine original edits (began.Precedes schedule) stored
  stands : (began.run schedule).world.segments.find? original.organization original.id =
    some (latest original stored)
  stages : ∀ (i : Nat) (call : ClientCall), (began.run schedule).calls[i]? = some call →
    ∃ edit : Edit, edits[i]? = some edit ∧ edit.Stage engine original (i ∉ schedule)
      (Found original (began.Precedes schedule) stored i) call.progress
  results : ∀ i segment,
    (i, segment) ∈ stored ↔ (began.run schedule).result? i = some (.ok (.segment segment))

/-- Edits of one segment that are asked for at the same time. -/
def ofEdits (engine : Engine) (original : Segment) (edits : List Edit) (world : World) : Traffic :=
  start engine (edits.map (Edit.asked original)) world

theorem logged_ofEdits (engine : Engine) (edits : List Edit) (order : world.InOrder)
    (held : world.segments.find? original.organization original.id = some original) :
    Logged engine original edits (ofEdits engine original edits world) [] [] where
  order := order
  chain := .nothing
  stands := held
  stages := by
    intro i call here
    simp only [run, List.foldl_nil, ofEdits, start, List.getElem?_map, Option.map_map,
      Option.map_eq_some_iff] at here
    obtain ⟨edit, mine, rfl⟩ := here
    exact ⟨edit, mine, .asked List.not_mem_nil⟩
  results := by
    intro i segment
    cases asked : edits[i]? <;>
      simp [run, ofEdits, start, result?, Progress.result?, asked]

namespace Logged

variable {i : Nat} {call : ClientCall} {edit : Edit}

theorem reads (logged : Logged engine original edits began schedule stored)
    (here : (began.run schedule).calls[i]? = some call) (mine : edits[i]? = some edit)
    {next : Progress} (stage : edit.Stage engine original False
      (Found original (began.Precedes (schedule ++ [i])) stored i) next)
    (same : (began.run schedule).world.SameStores world)
    (alike : ∀ answer, next.result? = some (.ok answer) ↔ call.progress.result? = some (.ok answer))
    (ran : began.run (schedule ++ [i]) =
      ⟨world, (began.run schedule).calls.set i { call with progress := next }⟩) :
    Logged engine original edits began (schedule ++ [i]) stored := by
  refine ⟨?_, logged.chain.mono fun _ _ precedes => precedes.append [i], ?_, ?_, ?_⟩ <;> rw [ran]
  · exact logged.order.of_sameStores same
  · exact same.segments ▸ logged.stands
  · intro j other there
    obtain ⟨rfl, rfl⟩ | ⟨apart, there⟩ := eq_or_getElem?_of_set there
    · exact ⟨edit, mine, stage.mono False.elim fun _ => id⟩
    · obtain ⟨theirs, asked, stage⟩ := logged.stages j other there
      exact ⟨theirs, asked, stage_append stage apart (List.suffix_refl stored)⟩
  · intro j segment
    rw [result?_set here, logged.results]
    split
    · rename_i own
      subst own
      rw [alike, result?, here]
      rfl
    · rfl

theorem stores (logged : Logged engine original edits began schedule stored)
    (here : (began.run schedule).calls[i]? = some call) (mine : edits[i]? = some edit)
    (unfinished : call.progress.result? = none) {base revised : Segment}
    (found : Found original (began.Precedes (schedule ++ [i])) stored i base)
    (made : engine.revise base edit.change edit.now = .ok revised)
    (ran : began.run (schedule ++ [i]) =
      ⟨{ (began.run schedule).world with
          segments := (began.run schedule).world.segments.insert revised },
        (began.run schedule).calls.set i
          { call with progress := .returned (.ok (.segment revised)) }⟩) :
    Logged engine original edits began (schedule ++ [i]) ((i, revised) :: stored) := by
  have pending : ∀ result, (began.run schedule).result? i ≠ some result := by
    simp [result?, here, unfinished]
  have once : i ∉ stored.map (·.1) := by
    intro twice
    obtain ⟨⟨_, segment⟩, before, rfl⟩ := List.mem_map.mp twice
    exact pending _ ((logged.results _ segment).mp before)
  have wider := logged.chain.mono fun _ _ precedes => precedes.append [i]
  have chain := wider.later once mine found made
  obtain ⟨named, owned⟩ : revised.id = original.id ∧ revised.organization = original.organization :=
    chain.owner _ (List.suffix_refl _)
  refine ⟨?_, chain, ?_, ?_, ?_⟩ <;> rw [ran]
  · exact logged.order.withSegments (logged.order.filed.insert revised)
  · rw [SegmentTable.find?_insert, if_pos named, if_pos owned]
    rfl
  · intro j other there
    obtain ⟨rfl, rfl⟩ | ⟨apart, there⟩ := eq_or_getElem?_of_set there
    · exact ⟨edit, mine, .returned _⟩
    · obtain ⟨theirs, asked, stage⟩ := logged.stages j other there
      exact ⟨theirs, asked, stage_append stage apart (List.suffix_cons _ stored)⟩
  · intro j segment
    rw [result?_set here, List.mem_cons, logged.results]
    split
    · rename_i own
      subst own
      simp [pending, Progress.result?, eq_comm]
    · rename_i other
      simp [Ne.symm other]

theorem step (logged : Logged engine original edits began schedule stored) (i : Nat) :
    ∃ more, Logged engine original edits began (schedule ++ [i]) more := by
  have ran : began.run (schedule ++ [i]) = (began.run schedule).step i := run_append schedule [i]
  have wider : Stored engine original edits (began.Precedes (schedule ++ [i])) stored :=
    logged.chain.mono fun _ _ precedes => precedes.append [i]
  cases here : (began.run schedule).calls[i]? with
  | none =>
      rw [step_of_none here] at ran
      refine ⟨stored, ?_, wider, ?_, ?_, ?_⟩ <;> rw [ran]
      · exact logged.order
      · exact logged.stands
      · intro j other there
        have apart : i ≠ j := fun same => nomatch (same ▸ here).symm.trans there
        obtain ⟨theirs, asked, stage⟩ := logged.stages j other there
        exact ⟨theirs, asked, stage_append stage apart (List.suffix_refl stored)⟩
      · exact logged.results
  | some call =>
      obtain ⟨edit, mine, stage⟩ := logged.stages i call here
      -- whatever is stored when a call begins was stored by a call before it
      have looks : i ∉ schedule →
          Found original (began.Precedes (schedule ++ [i])) stored i (latest original stored) := by
        refine fun begins => ⟨stored, List.suffix_refl stored, fun entry member => ?_, rfl⟩
        have returned := (logged.results entry.1 entry.2).mp member
        exact ⟨schedule, [i], rfl, begins, by simp [returned]⟩
      have turn := stage.turn logged.order logged.stands looks
        (fun base found => found.mono (List.suffix_refl stored) fun _ precedes => precedes.append [i])
        fun base found => wider.owner_of_found found
      rw [step_of_some here, ClientCall.advance] at ran
      generalize call.progress.advance (began.run schedule).world = advanced at turn ran
      obtain ⟨next, after⟩ := advanced
      cases turn with
      | reads stage same alike => exact ⟨stored, logged.reads here mine stage same alike ran⟩
      | stores unfinished found made => exact ⟨_, logged.stores here mine unfinished found made ran⟩

/-- However many updates there are and whenever they get their turns, what succeeds has been stored, one
    segment after the other, and the last one is there. -/
theorem run (logged : Logged engine original edits began schedule stored) (turns : List Nat) :
    ∃ more, Logged engine original edits began (schedule ++ turns) more := by
  induction turns generalizing schedule stored with
  | nil => exact ⟨stored, (List.append_nil schedule).symm ▸ logged⟩
  | cons i turns ih =>
      obtain ⟨more, stepped⟩ := logged.step i
      rw [List.append_cons]
      exact ih stepped

end Logged

end Traffic

namespace Engine

variable {world : World}

theorem perform_edit (order : world.InOrder) {segment revised : Segment} {edit : Edit}
    (stands : world.segments.find? original.organization original.id = some segment)
    (made : engine.revise segment edit.change edit.now = .ok revised) :
    (engine.edit original edit).perform world =
      (.ok revised, { world with segments := world.segments.insert revised }) := by
  unfold Engine.edit
  rw [engine.perform_update order.working order.filed, stands]
  dsimp only
  rw [made]

/-- An update that has succeeded is one edit. -/
theorem perform_edit_of_serve {edit : Edit} {revised : Segment}
    (done : ((engine.serve original.organization (edit.operation original)).perform world).1 =
      .ok (.segment revised)) :
    (engine.edit original edit).perform world =
      (.ok revised,
        ((engine.serve original.organization (edit.operation original)).perform world).2) := by
  unfold Engine.edit
  unfold Edit.operation serve at done ⊢
  rw [perform_bind] at done ⊢
  rcases performed : (engine.update original.organization original.id edit.change edit.now).perform
    world with ⟨error | segment, after⟩ <;> rw [performed] at done <;> cases done
  rfl

end Engine

namespace Traffic

variable {traffic : Traffic} {world : World} {schedule : List Nat}

/-- Of two updates that do not overlap, the second one sees what the first one has stored. -/
theorem Precedes.editTwice {i j : Nat} (precedes : traffic.Precedes schedule i j) {first second : Edit}
    (here : traffic.calls[i]? = some (first.call engine original))
    (there : traffic.calls[j]? = some (second.call engine original))
    (two : ∀ k other, traffic.calls[k]? = some other → k = i ∨ k = j) {x y : Segment}
    (done : (traffic.run schedule).result? i = some (.ok (.segment x)))
    (done' : (traffic.run schedule).result? j = some (.ok (.segment y))) :
    (engine.editTwice original first second).perform traffic.world =
      (.ok y, (traffic.run schedule).world) := by
  obtain ⟨one, other, left⟩ := precedes.run here rfl there rfl two (by simp [done'])
  rw [engine.whole_script, engine.whole_script] at other left
  rw [engine.whole_script, done] at one
  rw [done'] at other
  unfold Engine.editTwice
  rw [perform_bind_ok (Engine.perform_edit_of_serve (Option.some.inj one).symm),
    Engine.perform_edit_of_serve (Option.some.inj other).symm, left]

theorem zero_or_one_of_getElem? {a b c : α} {k : Nat} (present : [a, b][k]? = some c) :
    k = 0 ∨ k = 1 := by
  match k, present with
  | 0, _ => exact .inl rfl
  | 1, _ => exact .inr rfl

/-- Two updates that both succeed are made one after the other if their calls do not overlap. If they do,
    each changes the original, and one of the two changes is all that is left. -/
theorem left_of_two_updates (reachable : world.segments.Reachable)
    (working : ∀ call, world.tableOutage call = none)
    (held : world.segments.find? original.organization original.id = some original)
    {first second : Edit} {x y : Segment}
    (done : ((ofEdits engine original [first, second] world).run schedule).result? 0 =
      some (.ok (.segment x)))
    (done' : ((ofEdits engine original [first, second] world).run schedule).result? 1 =
      some (.ok (.segment y))) :
    let traffic := ofEdits engine original [first, second] world
    let after := (traffic.run schedule).world
    (traffic.Precedes schedule 0 1 →
      (engine.editTwice original first second).perform world = (.ok y, after)) ∧
    (traffic.Precedes schedule 1 0 →
      (engine.editTwice original second first).perform world = (.ok x, after)) ∧
    (¬ traffic.Precedes schedule 0 1 → ¬ traffic.Precedes schedule 1 0 →
      ((engine.edit original first).perform world).1 = .ok x ∧
      ((engine.edit original second).perform world).1 = .ok y ∧
      (after.segments.find? original.organization original.id = some x ∨
        after.segments.find? original.organization original.id = some y)) := by
  intro traffic after
  have order : world.InOrder := ⟨working, reachable.filed⟩
  have two : ∀ k other, traffic.calls[k]? = some other → k = 0 ∨ k = 1 :=
    fun _ _ present => zero_or_one_of_getElem? present
  refine ⟨fun precedes => precedes.editTwice rfl rfl two done done', fun precedes =>
    precedes.editTwice rfl rfl (fun k other present => (two k other present).symm) done' done, ?_⟩
  intro apart apart'
  obtain ⟨stored, logged⟩ := (logged_ofEdits engine [first, second] order held).run schedule
  have number : ∀ {k segment}, (k, segment) ∈ stored → k = 0 ∨ k = 1 := by
    intro k segment member
    obtain ⟨edit, mine⟩ := logged.chain.edit_of_mem member
    exact zero_or_one_of_getElem? mine
  have zero := (logged.results 0 x).mpr done
  have one := (logged.results 1 y).mpr done'
  have made := logged.chain.alone rfl zero fun k _ member other =>
    (number member).elim (absurd · other) fun same => same ▸ apart'
  have made' := logged.chain.alone rfl one fun k _ member other =>
    (number member).elim (fun same => same ▸ apart) (absurd · other)
  refine ⟨by rw [engine.perform_edit order held made], by rw [engine.perform_edit order held made'], ?_⟩
  have stands := logged.stands
  cases stored with
  | nil => cases zero
  | cons entry stored =>
      obtain ⟨k, segment⟩ := entry
      have returned := (logged.results k segment).mp List.mem_cons_self
      rcases number List.mem_cons_self with rfl | rfl
      · cases done.symm.trans returned
        exact .inl stands
      · cases done'.symm.trans returned
        exact .inr stands

end Traffic

end

namespace LostUpdate

open SharedId

def engine : Engine := ⟨.standard, .standard⟩

def world : World := { World.empty with segments := table }

def newcomer : ContactId := ⟨0x33, by decide⟩

def rename : Edit := ⟨⟨some "Hot leads", none, none⟩, .midnight ⟨2024, 5, 1, by decide⟩⟩

def join : Edit := ⟨⟨none, none, some [newcomer]⟩, .midnight ⟨2024, 5, 2, by decide⟩⟩

def renamed : Segment := { leads with name := "Hot leads", updatedAt := rename.now }

def joined : Segment := { leads with members := [newcomer], updatedAt := join.now }

def both : Segment := { joined with name := "Hot leads" }

def traffic : Traffic := .ofEdits engine leads [rename, join] world

/-- One after the other, the two updates leave both changes. -/
theorem both_kept :
    (traffic.run [0, 0, 0, 1, 1, 1]).result? 0 = some (.ok (.segment renamed)) ∧
      (traffic.run [0, 0, 0, 1, 1, 1]).result? 1 = some (.ok (.segment both)) ∧
      (engine.editTwice leads rename join).perform world =
        (.ok both, (traffic.run [0, 0, 0, 1, 1, 1]).world) := by
  have reachable : world.segments.Reachable := .insert .empty leads
  have held : world.segments.find? leads.organization leads.id = some leads := rfl
  have first : (traffic.run [0, 0, 0, 1, 1, 1]).result? 0 = some (.ok (.segment renamed)) := rfl
  have second : (traffic.run [0, 0, 0, 1, 1, 1]).result? 1 = some (.ok (.segment both)) := rfl
  obtain ⟨apart, -⟩ := Traffic.left_of_two_updates reachable (fun _ => rfl) held first second
  exact ⟨first, second, apart ⟨[0, 0, 0], [1, 1, 1], rfl, by decide, nofun⟩⟩

/-- When the renaming has looked the segment up before the other update and stores it afterwards, both
    succeed and the new members are lost, although the two change different parts. -/
theorem members_lost :
    rename.change.Disjoint join.change ∧
      (traffic.run [0, 1, 1, 1, 0, 0]).result? 0 = some (.ok (.segment renamed)) ∧
      (traffic.run [0, 1, 1, 1, 0, 0]).result? 1 = some (.ok (.segment joined)) ∧
      (traffic.run [0, 1, 1, 1, 0, 0]).world.segments.find? north leads.id = some renamed ∧
      ((engine.editTwice leads rename join).perform world).1 = .ok both ∧
      ((engine.editTwice leads join rename).perform world).1 =
        .ok { both with updatedAt := rename.now } ∧
      renamed.members ≠ both.members := by
  refine ⟨?_, rfl, rfl, rfl, rfl, rfl, by decide⟩
  exact ⟨.inr rfl, .inl rfl, .inl rfl⟩

end LostUpdate

end ContactSegments
