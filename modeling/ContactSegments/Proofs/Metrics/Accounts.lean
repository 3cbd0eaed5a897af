import ContactSegments.Proofs.Http.Boundary

/-! # What the metrics account for

Commands come alone or with requests, and in between the stores may change and fall out of order as
they like. Of each command and each request, what came of it decides which counters grow, and none of
them grows by more than one.
-/

namespace ContactSegments

open ContactSegments.Action

/-- What came of an event, as one can tell from outside. -/
structure Outcome where
  /-- The command that was carried out, and what it gave. -/
  carried : Option (Command × Except SegmentError Reply)
  response : Option Http.Response
  /-- How many queries were put to the contacts. -/
  queries : Nat
  /-- These queries failed. -/
  lost : Bool

namespace Outcome

/-- A command was rejected for the conditions that came with it. -/
@[simp] def rejects : Command × Except SegmentError Reply → Bool
  | (command, .error (.validation error)) => command.checks && error.cause.isOfConditions
  | _ => false

/-- The criteria of a stored segment were found to be no longer legal. -/
@[simp] def stale : Command × Except SegmentError Reply → Bool
  | (_, .error (.evaluation (.staleCriteria _))) => true
  | _ => false

@[simp] def fails : Command × Except SegmentError Reply → Bool
  | (_, .error _) => true
  | (_, .ok _) => false

@[simp] def previews : Command × Except SegmentError Reply → Bool
  | (command, .ok _) => command.isPreviewCount
  | (_, .error _) => false

@[simp] def invalid : Command × Except SegmentError Reply → Bool
  | (_, .error (.validation _)) => true
  | _ => false

@[simp] def unevaluated : Command × Except SegmentError Reply → Bool
  | (_, .error (.evaluation _)) => true
  | _ => false

/-- The outcome is of the kind that this counts. Queries are counted apart. -/
def counts (outcome : Outcome) : Counter → Bool
  | .conditionErrors => outcome.carried.any rejects
  | .evaluationErrors =>
    outcome.carried.any fun given => stale given || fails given && 0 < outcome.queries && outcome.lost
  | .previews => outcome.carried.any previews
  | .unauthorized => outcome.response.any (·.status == 401)
  | .invalidRequests => outcome.response.any (·.status == 400) && outcome.carried.any invalid
  | .failedRequests => outcome.response.any (·.status == 500) && outcome.carried.any unevaluated
  | .countQueries | .pageQueries | .timedQueries => false

/-- All queries that were put to the contacts. -/
def queriesOf : List Outcome → Nat
  | [] => 0
  | outcome :: outcomes => outcome.queries + queriesOf outcomes

end Outcome

/-- This counts queries, whether or not they were answered. -/
def Counter.isOfQueries : Counter → Bool
  | .countQueries | .pageQueries | .timedQueries => true
  | .previews | .evaluationErrors | .conditionErrors | .unauthorized | .invalidRequests
  | .failedRequests => false

/-- Between these worlds there was this outcome, and the metrics tell of it. -/
structure Books (world after : World) (outcome : Outcome) : Prop where
  once : outcome.queries ≤ 1
  queries : after.queries = world.queries + outcome.queries
  evaluations : after.metrics .countQueries + after.metrics .pageQueries =
    world.metrics .countQueries + world.metrics .pageQueries + outcome.queries
  timed : after.metrics .timedQueries = world.metrics .timedQueries + outcome.queries
  others : ∀ counter, counter.isOfQueries = false →
    after.metrics counter = world.metrics counter + (outcome.counts counter).toNat

@[simp] theorem metrics_counting (world : World) (counted counter : Counter) :
    (world.counting counted).metrics counter =
      world.metrics counter + (decide (counter = counted)).toNat := by
  simp only [World.counting, Metrics.increment]
  split <;> simp [*]

@[simp] theorem queries_counting (world : World) (counted : Counter) :
    (world.counting counted).queries = world.queries := rfl

@[simp] theorem metrics_asking (world : World) (counted : Counter) :
    (asking counted world).metrics = (world.counting counted).metrics := rfl

@[simp] theorem queries_asking (world : World) (counted : Counter) :
    (asking counted world).queries = world.queries + 1 := rfl

namespace Books

variable {world after : World} {outcome : Outcome}

/-- No query was put to the contacts. -/
theorem unqueried (none : outcome.queries = 0) (same : after.queries = world.queries)
    (grown : ∀ counter, after.metrics counter =
      world.metrics counter + (outcome.counts counter).toNat) : Books world after outcome where
  once := by omega
  queries := by omega
  evaluations := by
    rw [grown, grown, none]
    rfl
  timed := by
    rw [grown, none]
    rfl
  others counter _ := grown counter

/-- One query was put to the contacts. -/
theorem queried (window : Window) (one : outcome.queries = 1) (next : after.queries = world.queries + 1)
    (grown : ∀ counter, after.metrics counter =
      world.metrics counter + (decide (counter = window.counter)).toNat +
        (decide (counter = .timedQueries)).toNat + (outcome.counts counter).toNat) :
    Books world after outcome where
  once := by omega
  queries := by omega
  evaluations := by
    rw [grown, grown, one]
    cases window <;> simp [Window.counter, Outcome.counts] <;> omega
  timed := by
    rw [grown, one]
    cases window <;> simp [Window.counter, Outcome.counts]
  others counter other := by
    rw [grown]
    cases window <;> cases counter <;> simp_all [Window.counter, Counter.isOfQueries]

/-- What is counted later is counted for a part of the outcome that was not seen before. -/
theorem later (books : Books world after outcome) {left : World} {shown : Outcome}
    (alike : shown.queries = outcome.queries) (same : left.queries = after.queries)
    (grown : ∀ counter, left.metrics counter + (outcome.counts counter).toNat =
      after.metrics counter + (shown.counts counter).toNat) : Books world left shown where
  once := alike ▸ books.once
  queries := by rw [same, alike, books.queries]
  evaluations := by
    have counted : left.metrics .countQueries = after.metrics .countQueries := grown .countQueries
    have paged : left.metrics .pageQueries = after.metrics .pageQueries := grown .pageQueries
    rw [counted, paged, alike, books.evaluations]
  timed := by
    have timed : left.metrics .timedQueries = after.metrics .timedQueries := grown .timedQueries
    rw [timed, alike, books.timed]
  others counter other := by
    have before := books.others counter other
    have since := grown counter
    omega

end Books

/-- The metrics tell of a command as its course has it. -/
theorem Course.books {engine : Engine} {owner : OrganizationId} {world after : World}
    {command : Command} {result : Except SegmentError Reply}
    (course : Course engine owner world command result after) :
    Books world after
      ⟨some (command, result), none, after.queries - world.queries, world.contactOutage.isSome⟩ := by
  cases course with
  | told reads plain =>
      exact .unqueried (by simp) rfl fun counter => by cases counter <;> simp [Outcome.counts, plain]
  | refused cause =>
      exact .unqueried (by simp) rfl fun counter => by cases counter <;> simp [Outcome.counts, cause]
  | missing | unserved =>
      exact .unqueried (by simp) rfl fun counter => by cases counter <;> simp [Outcome.counts]
  | created | updated | deleted =>
      exact .unqueried (by simp) rfl fun counter => by
        cases counter <;> simp [Outcome.counts, Command.isPreviewCount]
  | rejected checks cause =>
      exact .unqueried (by simp) rfl fun counter => by
        cases counter <;> simp [Outcome.counts, checks, cause]
  | stale =>
      exact .unqueried (by simp) rfl fun counter => by cases counter <;> simp [Outcome.counts]
  | found window reads plain working =>
      refine .queried window (by simp [World.queried]) rfl fun counter => ?_
      cases counter <;> simp [Outcome.counts, World.queried, plain]
  | previewed working =>
      refine .queried .countOnly (by simp [World.queried]) rfl fun counter => ?_
      cases counter <;> simp [Outcome.counts, World.queried, Command.isPreviewCount, Window.counter]
  | lost window outage =>
      refine .queried window (by simp [World.queryLost]) rfl fun counter => ?_
      cases counter <;> simp [Outcome.counts, World.queryLost, outage]

namespace Http.Service

variable (service : Service)

/-- The organization and the call of a request at an endpoint, if it gets as far as that. -/
def askedAt? (endpoint : Endpoint) (request : Request) : Option (OrganizationId × Call) := do
  let owner ← service.tenant? request
  let call ← (endpoint.read request).toOption
  return (owner, call)

def askedBy? (method : Method) (request : Request) : Option (OrganizationId × Call) := do
  let resource ← Resource.ofPath? request.path
  match resource.target? method with
  | some (.endpoint endpoint) => service.askedAt? endpoint request
  | some .health | some .live | none => none

/-- The organization and the call of a request. To ask for the head is to ask for the whole. -/
def asked? (request : Request) : Option (OrganizationId × Call) :=
  service.askedBy? (if request.method = .head then .get else request.method) request

/-- A request is answered as a call, or its key is not known, or nothing is done. -/
inductive Exchanged (service : Service) (stamp : Stamp) (world : World) :
    Option (OrganizationId × Call) → Response → World → Prop
  | called {owner : OrganizationId} {call : Call} {shown : Response}
      (status : shown.status = (service.call owner stamp call world).1.status) :
      Exchanged service stamp world (some (owner, call)) shown
        (service.call owner stamp call world).2
  | unknown {shown : Response} (status : shown.status = 401) :
      Exchanged service stamp world none shown (world.counting .unauthorized)
  | idle {shown : Response} (status : shown.status ≠ 401) :
      Exchanged service stamp world none shown world

variable {service} {stamp : Stamp} {world : World}

theorem Exchanged.headOnly {asked : Option (OrganizationId × Call)} {shown : Response}
    {after : World} (exchanged : Exchanged service stamp world asked shown after) :
    Exchanged service stamp world asked shown.headOnly after := by
  cases exchanged with
  | called status => exact .called status
  | unknown status => exact .unknown status
  | idle status => exact .idle status

variable (service stamp world)

theorem exchanged_answer (endpoint : Endpoint) (request : Request) :
    let answered := service.answer endpoint request stamp world
    Exchanged service stamp world (service.askedAt? endpoint request) answered.1 answered.2 := by
  dsimp only
  unfold answer askedAt?
  cases service.tenant? request with
  | none => exact .unknown rfl
  | some owner =>
      cases endpoint.read request with
      | ok call => exact .called rfl
      | error refusal => exact .idle (by cases refusal <;> exact nofun)

theorem exchanged_dispatch (method : Method) (request : Request) :
    let dispatched := service.dispatch method request stamp world
    Exchanged service stamp world (service.askedBy? method request) dispatched.1 dispatched.2 := by
  dsimp only
  unfold dispatch askedBy?
  cases Resource.ofPath? request.path with
  | none => exact .idle nofun
  | some resource =>
      simp only [Option.bind_eq_bind, Option.bind_some]
      rcases resource.target? method with _ | (_ | _ | endpoint)
      · exact .idle nofun
      · exact .idle nofun
      · exact .idle nofun
      · exact service.exchanged_answer stamp world endpoint request

theorem askedBy?_options (request : Request) : service.askedBy? .options request = none := by
  unfold askedBy?
  cases Resource.ofPath? request.path with
  | none => rfl
  | some resource => cases resource <;> rfl

theorem exchanged_exchange (request : Request) :
    let exchanged := service.exchange request stamp world
    Exchanged service stamp world (service.asked? request) exchanged.1 exchanged.2 := by
  dsimp only
  rw [exchange_eq, asked?]
  cases method : request.method with
  | options =>
      rw [if_neg nofun, askedBy?_options]
      exact .idle nofun
  | head => exact (service.exchanged_dispatch stamp world .get request).headOnly
  | get | post | put | delete | other => exact service.exchanged_dispatch stamp world _ request

/-- What the engine was asked for by a request, and what it gave. -/
def carried (asked : Option (OrganizationId × Call)) :
    Option (Command × Except SegmentError Reply) :=
  asked.map fun (owner, call) =>
    let command := call.command service.engine stamp
    (command, ((service.engine.carryOut owner command).perform world).1)

end Http.Service

/-- The response to a command adds what it says to the books, and no more. -/
theorem Books.answered {world after left : World} {call : Http.Call} {command : Command}
    {result : Except SegmentError Reply} {response shown : Http.Response} {queries : Nat} {lost : Bool}
    (books : Books world after ⟨some (command, result), none, queries, lost⟩)
    (answered : Http.Answered call command result after response left)
    (status : shown.status = response.status) :
    left.queries = after.queries ∧
      Books world left ⟨some (command, result), some shown, queries, lost⟩ := by
  have plain := answered.status_ne_unauthorized
  rw [← status] at plain
  cases answered with
  | given =>
      refine ⟨rfl, books.later rfl rfl fun counter => ?_⟩
      cases counter <;> simp [Outcome.counts, plain]
  | missing =>
      refine ⟨rfl, books.later rfl rfl fun counter => ?_⟩
      cases counter <;> simp [Outcome.counts, plain]
  | invalid =>
      refine ⟨rfl, books.later rfl rfl fun counter => ?_⟩
      change shown.status = 400 at status
      cases counter <;> simp [Outcome.counts, status]
  | failed =>
      refine ⟨rfl, books.later rfl rfl fun counter => ?_⟩
      change shown.status = 500 at status
      cases counter <;> simp [Outcome.counts, status]

/-- The metrics tell of a request as it was answered. -/
theorem Http.Service.Exchanged.books {service : Http.Service} {stamp : Stamp} {world after : World}
    {asked : Option (OrganizationId × Http.Call)} {shown : Http.Response}
    (exchanged : service.Exchanged stamp world asked shown after) :
    Books world after ⟨service.carried stamp world asked, some shown, after.queries - world.queries,
      world.contactOutage.isSome⟩ := by
  cases exchanged with
  | @called owner call _ status =>
      have course := service.engine.course_carryOut owner (call.command service.engine stamp) world
      obtain ⟨same, booked⟩ :=
        course.books.answered (service.answered_call owner stamp call world) status
      rw [← same] at booked
      exact booked
  | unknown status =>
      exact .unqueried (by simp) rfl fun counter => by
        cases counter <;> simp [Outcome.counts, status, Http.Service.carried]
  | idle status =>
      exact .unqueried (by simp) rfl fun counter => by
        cases counter <;> simp [Outcome.counts, status, Http.Service.carried]

/-- Something that happens in a world. -/
inductive Occurrence
  | command (engine : Engine) (owner : OrganizationId) (command : Command)
  | request (service : Http.Service) (request : Http.Request) (stamp : Stamp)
  /-- The stores come to hold something else, or other calls of them are out of order. -/
  | shift (contacts : ContactBook) (segments : SegmentTable) (contactOutage : Option String)
      (tableOutage : TableCall → Option Outage)

namespace Occurrence

/-- What comes of it, and the world afterwards. -/
def happen (world : World) : Occurrence → Outcome × World
  | .command engine owner asked =>
    let performed := (engine.carryOut owner asked).perform world
    (⟨some (asked, performed.1), none, performed.2.queries - world.queries,
      world.contactOutage.isSome⟩, performed.2)
  | .request service asked stamp =>
    let exchanged := service.exchange asked stamp world
    (⟨service.carried stamp world (service.asked? asked), some exchanged.1,
      exchanged.2.queries - world.queries, world.contactOutage.isSome⟩, exchanged.2)
  | .shift contacts segments contactOutage tableOutage =>
    (⟨none, none, 0, false⟩, { world with contacts, segments, contactOutage, tableOutage })

theorem books_happen (occurrence : Occurrence) (world : World) :
    Books world (occurrence.happen world).2 (occurrence.happen world).1 := by
  cases occurrence with
  | command engine owner asked => exact (engine.course_carryOut owner asked world).books
  | request service asked stamp => exact (service.exchanged_exchange stamp world asked).books
  | shift contacts segments contactOutage tableOutage =>
      exact .unqueried rfl rfl fun counter => by cases counter <;> simp [happen, Outcome.counts]

/-- What comes of occurrences one after the other, and the world after the last. -/
def happenAll : List Occurrence → World → List Outcome × World
  | [], world => ([], world)
  | occurrence :: occurrences, world =>
    let happened := occurrence.happen world
    let rest := happenAll occurrences happened.2
    (happened.1 :: rest.1, rest.2)

/-- Whatever happens, queries are counted, timed and put to the contacts in step and no command or
    request puts more than one, and every other counter grows by the number of outcomes that it is
    for. -/
theorem metrics_happenAll (occurrences : List Occurrence) (world : World) :
    let outcomes := (happenAll occurrences world).1
    let after := (happenAll occurrences world).2
    let queries := Outcome.queriesOf outcomes
    (∀ outcome ∈ outcomes, outcome.queries ≤ 1) ∧
    after.queries = world.queries + queries ∧
    after.metrics .timedQueries = world.metrics .timedQueries + queries ∧
    after.metrics .countQueries + after.metrics .pageQueries =
      world.metrics .countQueries + world.metrics .pageQueries + queries ∧
    ∀ counter, counter.isOfQueries = false →
      after.metrics counter = world.metrics counter + outcomes.countP (·.counts counter) := by
  induction occurrences generalizing world with
  | nil => simp [happenAll, Outcome.queriesOf]
  | cons occurrence occurrences ih =>
      have books := occurrence.books_happen world
      obtain ⟨once, queries, timed, evaluations, others⟩ := ih (occurrence.happen world).2
      simp only [happenAll, Outcome.queriesOf, List.countP_cons]
      refine ⟨List.forall_mem_cons.mpr ⟨books.once, once⟩, ?_, ?_, ?_, fun counter other => ?_⟩
      · rw [queries, books.queries, Nat.add_assoc]
      · rw [timed, books.timed, Nat.add_assoc]
      · rw [evaluations, books.evaluations, Nat.add_assoc]
      · rw [others counter other, books.others counter other, Nat.add_assoc]
        cases (occurrence.happen world).1.counts counter <;> simp [Nat.add_comm]

end Occurrence

end ContactSegments
