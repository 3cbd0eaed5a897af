import ContactSegments.Proofs.Membership.Stored
import ContactSegments.Proofs.Service.Reading
import ContactSegments.Proofs.Traffic.Script

/-! # Commands and the courses that they take

Whatever an engine can be asked for is a command. There are not many ways in which a command can go,
whether or not the stores are in order: each of them is a constructor of `Course`, which says what is
given and what is left. What commands do and do not do follows from that alone.
-/

namespace ContactSegments

open ContactSegments.Action

/-- What an engine can be asked for. -/
inductive Command
  /-- The fields that conditions can name. -/
  | fields
  /-- What conditions select, as a predicate. -/
  | predicate (conditions : List Condition)
  /-- How many contacts conditions select. -/
  | previewCount (conditions : List Condition)
  /-- A page of the contacts that conditions select. -/
  | previewMembers (conditions : List Condition) (page : Page)
  /-- Something about segments. -/
  | segments (operation : Operation)

inductive Reply
  | fields (fields : List FieldDescription)
  | predicate (predicate : Predicate)
  | total (total : Nat)
  | page (page : MemberPage)
  | segments (answer : Answer)

namespace Command

/-- Conditions that come with the command are checked. -/
def checks : Command → Bool
  | .predicate _ | .previewCount _ | .previewMembers _ _ => true
  | .segments (.create _ _) | .segments (.update _ _ _) => true
  | .fields | .segments _ => false

/-- The segment that the command is about; one that it creates is not there before. -/
def segment? : Command → Option SegmentId
  | .segments operation => operation.segment?
  | .fields | .predicate _ | .previewCount _ | .previewMembers _ _ => none

/-- The id under which the command writes. -/
def writes? : Command → Option SegmentId
  | .segments (.create _ stamp) => some stamp.id
  | .segments (.update id _ _) | .segments (.delete id) => some id
  | .fields | .predicate _ | .previewCount _ | .previewMembers _ _ | .segments _ => none

def isPreviewCount : Command → Bool
  | .previewCount _ => true
  | .fields | .predicate _ | .previewMembers _ _ | .segments _ => false

end Command

/-- A command as one action in the name of an organization. -/
def Engine.carryOut (engine : Engine) (organization : OrganizationId) : Command → Action Reply
  | .fields => return .fields engine.catalog.describe
  | .predicate conditions => return .predicate (← engine.toPredicate organization conditions)
  | .previewCount conditions => return .total (← engine.previewCount organization conditions)
  | .previewMembers conditions page =>
    return .page (← engine.previewMembers organization conditions page)
  | .segments operation => return .segments (← engine.serve organization operation)

/-- What counts the queries for this much. -/
def Window.counter : Window → Counter
  | .countOnly => .countQueries
  | .page _ => .pageQueries

namespace World

/-- The world after a query that was answered. -/
def queried (world : World) (window : Window) : World :=
  (asking window.counter world).counting .timedQueries

/-- The world after a query that failed. -/
def queryLost (world : World) (window : Window) : World :=
  ((asking window.counter world).counting .evaluationErrors).counting .timedQueries

end World

/-- What a command gives and what it leaves. -/
inductive Course (engine : Engine) (owner : OrganizationId) (world : World) :
    Command → Except SegmentError Reply → World → Prop
  /-- The answer is known without a query. -/
  | told {command : Command} {reply : Reply} (reads : command.writes? = none)
      (plain : command.isPreviewCount = false) : Course engine owner world command (.ok reply) world
  /-- Conditions that came with the command are not legal. -/
  | rejected {command : Command} {error : ValidationError} (checks : command.checks = true)
      (cause : error.cause.isOfConditions = true) :
      Course engine owner world command (.error (.validation error))
        (world.counting .conditionErrors)
  /-- The name or the page that is asked for is not legal. -/
  | refused {command : Command} {error : ValidationError}
      (cause : error.cause.isOfConditions = false) :
      Course engine owner world command (.error (.validation error)) world
  | missing {command : Command} {id : SegmentId} (about : command.segment? = some id) :
      Course engine owner world command (.error (.notFound id)) world
  /-- A call of the table fails. -/
  | unserved {command : Command} {call : TableCall} {message : String}
      (outage : world.tableOutage call = some (.failing message)) :
      Course engine owner world command (.error (.evaluation (.storage message))) world
  /-- The criteria of the stored segment are no longer legal. -/
  | stale {command : Command} {error : ValidationError} :
      Course engine owner world command (.error (.evaluation (.staleCriteria error)))
        (world.counting .evaluationErrors)
  /-- A query is answered. -/
  | found {command : Command} {reply : Reply} (window : Window) (reads : command.writes? = none)
      (plain : command.isPreviewCount = false) (working : world.contactOutage = none) :
      Course engine owner world command (.ok reply) (world.queried window)
  | previewed {conditions : List Condition} {total : Nat} (working : world.contactOutage = none) :
      Course engine owner world (.previewCount conditions) (.ok (.total total))
        ((world.queried .countOnly).counting .previews)
  /-- A query fails. -/
  | lost {command : Command} {message : String} (window : Window)
      (outage : world.contactOutage = some message) :
      Course engine owner world command (.error (.evaluation (.storage message)))
        (world.queryLost window)
  | created {new : NewSegment} {stamp : Stamp} {segment : Segment}
      (made : engine.draft owner new stamp = .ok segment) :
      Course engine owner world (.segments (.create new stamp)) (.ok (.segments (.segment segment)))
        { world with segments := world.segments.insert segment }
  | updated {id : SegmentId} {change : SegmentChange} {now : Instant} {segment revised : Segment}
      (stands : world.segments.find? owner id = some segment)
      (made : engine.revise segment change now = .ok revised) :
      Course engine owner world (.segments (.update id change now))
        (.ok (.segments (.segment revised)))
        { world with segments := world.segments.insert revised }
  | deleted {id : SegmentId} {segment : Segment}
      (stands : world.segments.find? owner id = some segment) :
      Course engine owner world (.segments (.delete id)) (.ok (.segments .deleted))
        { world with segments := ⟨world.segments.records.erase id⟩ }

theorem rejecting_of_conditions {error : ValidationError}
    (cause : error.cause.isOfConditions = true) (world : World) :
    rejecting error world = world.counting .conditionErrors := by
  unfold rejecting
  cases given : error.cause with
  | invalidName fault =>
      rw [given] at cause
      cases cause
  | _ => rfl

theorem rejecting_of_name {error : ValidationError} {fault : NameFault}
    (cause : error.cause = .invalidName fault) (world : World) : rejecting error world = world := by
  unfold rejecting
  rw [cause]

/-- What a query comes to, after the page that is asked for was looked at. -/
inductive Inquiry {α : Type} (world : World) (window : Window) :
    Except SegmentError α → World → Prop
  | refused {error : ValidationError} (cause : error.cause.isOfConditions = false) :
      Inquiry world window (.error (.validation error)) world
  | found (a : α) (working : world.contactOutage = none) :
      Inquiry world window (.ok a) (world.queried window)
  | lost {message : String} (outage : world.contactOutage = some message) :
      Inquiry world window (.error (.evaluation (.storage message))) (world.queryLost window)

namespace Inquiry

variable {α β : Type} {world : World} {window : Window}

theorem map {result : Except SegmentError α} {after : World}
    (inquiry : Inquiry world window result after) (f : α → β) :
    Inquiry world window (result.map f) after := by
  cases inquiry with
  | refused cause => exact .refused cause
  | found a working => exact .found (f a) working
  | lost outage => exact .lost outage

theorem of_map {act : Action α}
    (inquiry : Inquiry world window (act.perform world).1 (act.perform world).2) (f : α → β) :
    let performed := (do return f (← act) : Action β).perform world
    Inquiry world window performed.1 performed.2 := by
  rw [perform_return]
  exact inquiry.map f

theorem measured (predicate : Predicate) (window : Window) (world : World) :
    let performed := (Action.measured window.counter predicate window).perform world
    Inquiry world window performed.1 performed.2 := by
  rw [perform_measured]
  cases outage : world.contactOutage with
  | none => exact .found _ outage
  | some message => exact .lost outage

theorem countMatches (predicate : Predicate) (world : World) :
    let performed := (Action.countMatches predicate).perform world
    Inquiry world .countOnly performed.1 performed.2 :=
  (measured predicate .countOnly world).of_map _

theorem pageMatches (engine : Engine) (predicate : Predicate) (page : Page) (world : World) :
    let performed := (engine.pageMatches predicate page).perform world
    Inquiry world (.page page) performed.1 performed.2 := by
  unfold Engine.pageMatches Page.check
  split
  · rename_i cause refused
    split at refused
    · cases refused
      exact .refused rfl
    · split at refused <;> cases refused
      exact .refused rfl
  · exact (measured predicate (.page page) world).of_map _

end Inquiry

namespace Engine

variable (engine : Engine) (organization : OrganizationId) (world : World)

variable {organization world} in
theorem perform_get_failing {message : String}
    (outage : world.tableOutage .get = some (.failing message)) (id : SegmentId) :
    (get organization id).perform world = (.error (.evaluation (.storage message)), world) := by
  unfold get findSegment
  rw [perform_bind, perform_readTable, outage]

theorem get_cases (id : SegmentId) :
    (∃ segment, world.segments.find? organization id = some segment ∧
      (get organization id).perform world = (.ok segment, world)) ∨
    (get organization id).perform world = (.error (.notFound id), world) ∨
    ∃ message, world.tableOutage .get = some (.failing message) ∧
      (get organization id).perform world = (.error (.evaluation (.storage message)), world) := by
  by_cases answers : world.Answers .get
  · cases stands : world.segments.find? organization id with
    | some segment => exact .inl ⟨segment, rfl, perform_get_held answers stands⟩
    | none => exact .inr (.inl (perform_get_unseen answers stands))
  · obtain ⟨message, failing⟩ := not_forall_not.mp answers
    exact .inr (.inr ⟨message, failing, perform_get_failing failing id⟩)

theorem toPredicate_cases (conditions : List Condition) :
    (∃ predicate, (engine.toPredicate organization conditions).perform world =
      (.ok predicate, world)) ∨
    ∃ error, error.cause.isOfConditions = true ∧
      (engine.toPredicate organization conditions).perform world =
        (.error (.validation error), world.counting .conditionErrors) := by
  cases checked : engine.check conditions with
  | ok group =>
      obtain ⟨predicate, -, performed⟩ := engine.perform_toPredicate_of_ok checked organization
      exact .inl ⟨predicate, performed world⟩
  | error error =>
      have cause := Condition.isOfConditions_of_checkAll checked
      refine .inr ⟨error, cause, ?_⟩
      rw [engine.perform_toPredicate_of_error checked, rejecting_of_conditions cause]

theorem storedPredicate_cases (segment : Segment) :
    (∃ predicate, (engine.storedPredicate segment).perform world = (.ok predicate, world)) ∨
    ∃ error, (engine.storedPredicate segment).perform world =
      (.error (.evaluation (.staleCriteria error)), world.counting .evaluationErrors) := by
  cases kind : segment.kind with
  | static =>
      unfold storedPredicate
      rw [kind]
      exact .inl ⟨_, rfl⟩
  | dynamic =>
      rcases engine.toPredicate_cases segment.organization world segment.criteria.conditions with
        ⟨predicate, given⟩ | ⟨error, -, given⟩
      · have compiled := engine.perform_storedPredicate_of_ok kind (congrArg Prod.fst given)
        exact .inl ⟨predicate, compiled.2⟩
      · obtain ⟨rejection, -, stale⟩ :=
          engine.perform_storedPredicate_of_error kind (congrArg Prod.fst given)
        exact .inr ⟨rejection, stale⟩

end Engine

namespace Course

variable {engine : Engine} {owner : OrganizationId} {world after : World} {command : Command}

/-- What is not there is what the command is about. -/
theorem segment?_of_notFound {id : SegmentId}
    (course : Course engine owner world command (.error (.notFound id)) after) :
    command.segment? = some id := by
  cases course with
  | missing about => exact about

theorem of_inquiry {α : Type} {window : Window} {result : Except SegmentError α}
    (inquiry : Inquiry world window result after) (reads : command.writes? = none)
    (plain : command.isPreviewCount = false) (f : α → Reply) :
    Course engine owner world command (result.map f) after := by
  cases inquiry with
  | refused cause => exact .refused cause
  | found a working => exact .found window reads plain working
  | lost outage => exact .lost window outage

/-- Of several faults that of a name comes first, and it is not counted. -/
theorem of_fault {kind : SegmentKind} {name : Option String} {criteria : Option Criteria}
    {error : ValidationError} (checks : command.checks = true)
    (fault : engine.fault? kind name criteria = some error) :
    Course engine owner world command (.error (.validation error)) (rejecting error world) := by
  unfold Engine.fault? at fault
  rcases Option.or_eq_some_iff.mp fault with named | ⟨-, faulty⟩
  · obtain ⟨nameFault, -, rfl⟩ := Option.map_eq_some_iff.mp named
    rw [rejecting_of_name rfl]
    exact .refused rfl
  · obtain ⟨given, -, illegal⟩ := Option.bind_eq_some_iff.mp faulty
    unfold Engine.criteriaFault? at illegal
    split at illegal
    · rename_i checked
      cases illegal
      have cause := Condition.isOfConditions_of_checkAll checked
      rw [rejecting_of_conditions cause]
      exact .rejected checks cause
    · cases illegal
    · cases illegal

/-- What is done with the segment that a command is about, once it is looked up. -/
theorem of_get_bind {α : Type} {id : SegmentId} (about : command.segment? = some id)
    {next : Segment → Action α} {f : α → Reply}
    (rest : ∀ segment, world.segments.find? owner id = some segment →
      Course engine owner world command (((next segment).perform world).1.map f)
        ((next segment).perform world).2) :
    let performed := (Engine.get owner id >>= next).perform world
    Course engine owner world command (performed.1.map f) performed.2 := by
  rcases Engine.get_cases owner world id with
    ⟨segment, stands, given⟩ | absent | ⟨message, outage, failed⟩
  · rw [perform_bind_ok given]
    exact rest segment stands
  · rw [perform_bind_error absent]
    exact .missing about
  · rw [perform_bind_error failed]
    exact .unserved outage

theorem evaluateFound (evaluation : Evaluation) (segment : Segment)
    (reads : command.writes? = none) (plain : command.isPreviewCount = false) :
    let performed := (engine.evaluateFound evaluation segment).perform world
    Course engine owner world command (performed.1.map .segments) performed.2 := by
  unfold Engine.evaluateFound
  rcases engine.storedPredicate_cases world segment with ⟨predicate, given⟩ | ⟨error, stale⟩
  · rw [perform_bind_ok given]
    cases evaluation with
    | count => exact of_inquiry ((Inquiry.countMatches predicate world).of_map _) reads plain _
    | members page =>
        exact of_inquiry ((Inquiry.pageMatches engine predicate page world).of_map _) reads plain _
  · rw [perform_bind_error stale]
    exact .stale

/-- Conditions that are rejected end a command that checks them. -/
theorem of_toPredicate_bind {α : Type} (conditions : List Condition)
    (checks : command.checks = true) {next : Predicate → Action α} {f : α → Reply}
    (rest : ∀ predicate, Course engine owner world command
      (((next predicate).perform world).1.map f) ((next predicate).perform world).2) :
    let performed := (engine.toPredicate owner conditions >>= next).perform world
    Course engine owner world command (performed.1.map f) performed.2 := by
  rcases engine.toPredicate_cases owner world conditions with
    ⟨predicate, given⟩ | ⟨error, cause, rejected⟩
  · rw [perform_bind_ok given]
    exact rest predicate
  · rw [perform_bind_error rejected]
    exact .rejected checks cause

theorem previewCount (conditions : List Condition) :
    let performed := (engine.previewCount owner conditions).perform world
    Course engine owner world (.previewCount conditions) (performed.1.map .total) performed.2 := by
  refine of_toPredicate_bind conditions rfl fun predicate => ?_
  have inquiry := Inquiry.countMatches predicate world
  rcases done : (countMatches predicate).perform world with ⟨result, left⟩
  rw [done] at inquiry
  cases result with
  | error error =>
      rw [perform_bind_error done]
      cases inquiry with
      | refused cause => exact .refused cause
      | lost outage => exact .lost .countOnly outage
  | ok total =>
      rw [perform_bind_ok done]
      cases inquiry with
      | found total working => exact .previewed working

theorem previewMembers (conditions : List Condition) (page : Page) :
    let performed := (engine.previewMembers owner conditions page).perform world
    Course engine owner world (.previewMembers conditions page) (performed.1.map .page)
      performed.2 :=
  of_toPredicate_bind conditions rfl fun predicate =>
    of_inquiry (Inquiry.pageMatches engine predicate page world) rfl rfl .page

theorem predicate (conditions : List Condition) :
    let performed := (engine.toPredicate owner conditions).perform world
    Course engine owner world (.predicate conditions) (performed.1.map .predicate) performed.2 := by
  rcases engine.toPredicate_cases owner world conditions with
    ⟨predicate, given⟩ | ⟨error, cause, rejected⟩
  · rw [given]
    exact .told rfl rfl
  · rw [rejected]
    exact .rejected rfl cause

theorem create (new : NewSegment) (stamp : Stamp) :
    let performed := (engine.create owner new stamp).perform world
    Course engine owner world (.segments (.create new stamp))
      (performed.1.map fun segment => .segments (.segment segment)) performed.2 := by
  rw [Engine.perform_create]
  cases made : engine.draft owner new stamp with
  | error error =>
      rw [Engine.draft_eq] at made
      split at made
      · rename_i fault
        cases made
        exact of_fault rfl fault
      · cases made
  | ok segment =>
      dsimp only
      split
      · rename_i outage
        exact .unserved outage
      · exact .created made

theorem update (id : SegmentId) (change : SegmentChange) (now : Instant) :
    let performed := (engine.update owner id change now).perform world
    Course engine owner world (.segments (.update id change now))
      (performed.1.map fun segment => .segments (.segment segment)) performed.2 := by
  refine of_get_bind rfl fun segment stands => ?_
  rw [perform_bind, perform_admitted]
  cases made : engine.revise segment change now with
  | error error =>
      rw [Engine.revise_eq] at made
      split at made
      · rename_i fault
        cases made
        exact of_fault rfl fault
      · cases made
  | ok revised =>
      dsimp only
      rw [perform_bind, replaceSegment, perform_writeTable]
      rcases outage : world.tableOutage .replace with _ | (message | _)
      · dsimp only
        unfold SegmentTable.replace
        cases world.segments.find? revised.organization revised.id with
        | some held => exact .updated stands made
        | none => exact .missing rfl
      · exact .unserved outage
      · exact .missing rfl

theorem delete (id : SegmentId) :
    let performed := (Engine.delete owner id).perform world
    Course engine owner world (.segments (.delete id))
      (performed.1.map fun _ => .segments .deleted) performed.2 := by
  unfold Engine.delete
  rw [perform_bind, removeSegment, perform_writeTable]
  rcases outage : world.tableOutage .remove with _ | (message | _)
  · dsimp only
    unfold SegmentTable.remove
    cases stands : world.segments.find? owner id with
    | some held => exact .deleted stands
    | none => exact .missing rfl
  · exact .unserved outage
  · exact .missing rfl

theorem get (id : SegmentId) :
    let performed := (Engine.get owner id).perform world
    Course engine owner world (.segments (.get id))
      (performed.1.map fun segment => .segments (.segment segment)) performed.2 := by
  rcases Engine.get_cases owner world id with ⟨segment, -, given⟩ | absent | ⟨message, outage, failed⟩
  · rw [given]
    exact .told rfl rfl
  · rw [absent]
    exact .missing rfl
  · rw [failed]
    exact .unserved outage

theorem list :
    let performed := (Engine.list owner).perform world
    Course engine owner world (.segments .list)
      (performed.1.map fun segments => .segments (.segments segments)) performed.2 := by
  unfold Engine.list listSegments
  rw [perform_readTable]
  rcases outage : world.tableOutage .list with _ | (message | _)
  · exact .told rfl rfl
  · exact .unserved outage
  · exact .told rfl rfl

/-- What an action gives is shown as a reply. -/
theorem shown {α β : Type} {act : Action α} {f : α → β} {g : β → Reply}
    (course : Course engine owner world command ((act.perform world).1.map fun a => g (f a))
      (act.perform world).2) :
    let performed := (do return f (← act) : Action β).perform world
    Course engine owner world command (performed.1.map g) performed.2 := by
  rw [perform_return]
  cases given : (act.perform world).1 <;> rw [given] at course <;> exact course

theorem segments (operation : Operation) :
    let performed := (engine.serve owner operation).perform world
    Course engine owner world (.segments operation) (performed.1.map .segments) performed.2 := by
  have evaluations : ∀ id evaluation, operation.evaluation? = some (id, evaluation) →
      Command.writes? (.segments operation) = none →
      let performed := (engine.serve owner operation).perform world
      Course engine owner world (.segments operation) (performed.1.map .segments) performed.2 := by
    intro id evaluation evaluates reads
    have about : Command.segment? (.segments operation) = some id :=
      Operation.segment?_of_evaluation? evaluates
    rw [engine.serve_of_evaluation? owner evaluates]
    exact of_get_bind about fun segment _ => evaluateFound evaluation segment reads rfl
  cases operation with
  | create new stamp => exact shown (create new stamp)
  | get id => exact shown (get id)
  | list => exact shown list
  | update id change now => exact shown (update id change now)
  | delete id => exact shown (delete id)
  | count | members | evaluate => exact evaluations _ _ rfl rfl

end Course

/-- Every command takes one of the courses. -/
theorem Engine.course_carryOut (engine : Engine) (owner : OrganizationId) (command : Command)
    (world : World) :
    let performed := (engine.carryOut owner command).perform world
    Course engine owner world command performed.1 performed.2 := by
  cases command with
  | fields => exact .told rfl rfl
  | predicate conditions =>
      simp only [carryOut, perform_return]
      exact .predicate conditions
  | previewCount conditions =>
      simp only [carryOut, perform_return]
      exact .previewCount conditions
  | previewMembers conditions page =>
      simp only [carryOut, perform_return]
      exact .previewMembers conditions page
  | segments operation =>
      simp only [carryOut, perform_return]
      exact .segments operation

end ContactSegments
