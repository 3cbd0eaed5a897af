import ContactSegments.Proofs.Command.Course
import ContactSegments.Proofs.Json.Token
import ContactSegments.Proofs.Json.Unknown
import ContactSegments.Proofs.Tenant.Run

/-! # Requests as commands

A request at an endpoint is a command of the engine in the name of the organization that owns its key.
What is answered is what the command gives, except that all failures of evaluations look alike. Nothing
else in a request counts: not the members of its body that no record knows, unless they make the body
too long. Then it is refused without being looked at.
-/

namespace ContactSegments

open ContactSegments.Action

/-- What a reply looks like in a response. -/
def Reply.content : Reply → Http.Content
  | .fields described => .json (.array (described.map FieldDescription.toJson))
  | .predicate _ => .empty
  | .total n => .json (Http.countBody n)
  | .page found => .json found.toJson
  | .segments (.segment segment) => .json segment.toJson
  | .segments (.segments listed) => .json (.array (listed.map Segment.toJson))
  | .segments .deleted => .empty
  | .segments (.evaluated (.count n)) => .json (Http.countBody n)
  | .segments (.evaluated (.members found)) => .json found.toJson

namespace Http

namespace Call

/-- What a call asks of the engine. Members are asked for by the standard page if no limit is given. -/
def command (engine : Engine) (stamp : Stamp) : Call → Command
  | .list => .segments .list
  | .create new => .segments (.create new stamp)
  | .preview conditions => .previewCount conditions
  | .validate conditions => .predicate conditions
  | .fields => .fields
  | .get id => .segments (.get id)
  | .update id change => .segments (.update id change stamp.now)
  | .delete id => .segments (.delete id)
  | .count id => .segments (.count id)
  | .members id offset (some limit) => .segments (.members id ⟨offset, limit⟩)
  | .members id offset none => .segments (.members id (engine.defaultPage offset))

/-- The status of the response when the command succeeds. -/
def successStatus : Call → Nat
  | .create _ => 201
  | .validate _ | .delete _ => 204
  | .list | .preview _ | .fields | .get _ | .update _ _ | .count _ | .members _ _ _ => 200

def success (call : Call) (reply : Reply) : Response := ⟨call.successStatus, reply.content⟩

end Call

/-- The response to every evaluation that failed. -/
def failureResponse : Response :=
  .json 500 (errorBody "evaluation_failed" "Segment could not be evaluated" none)

/-- How the outcome of a command shows: the response, and the world in which it is given. -/
inductive Answered (call : Call) (command : Command) :
    Except SegmentError Reply → World → Response → World → Prop
  | given {reply : Reply} {after : World} :
      Answered call command (.ok reply) after (call.success reply) after
  | invalid {error : ValidationError} {after : World} :
      Answered call command (.error (.validation error)) after
        (.json 400 (errorBody "invalid_criteria" error.cause.message error.conditionId))
        (after.counting .invalidRequests)
  /-- The id is that of the request. -/
  | missing {id : SegmentId} {after : World} (about : command.segment? = some id) :
      Answered call command (.error (.notFound id)) after
        (.json 404 (errorBody "segment_not_found" s!"Segment not found: {id.text}" none)) after
  /-- What went wrong is not told. -/
  | failed {error : EvaluationError} {after : World} :
      Answered call command (.error (.evaluation error)) after failureResponse
        (after.counting .failedRequests)

theorem Answered.status_mem {call : Call} {command : Command} {result : Except SegmentError Reply}
    {after left : World} {response : Response}
    (answered : Answered call command result after response left) :
    response.status ∈ [200, 201, 204, 400, 404, 500] := by
  cases answered with
  | given => cases call <;> simp [Call.success, Call.successStatus]
  | invalid | missing | failed => simp [Response.json, failureResponse]

theorem Answered.status_ne_unauthorized {call : Call} {command : Command}
    {result : Except SegmentError Reply} {after left : World} {response : Response}
    (answered : Answered call command result after response left) : response.status ≠ 401 := by
  intro refused
  have known := answered.status_mem
  rw [refused] at known
  exact absurd known (by decide)

namespace Service

variable (service : Service)

theorem run_eq (organization : OrganizationId) (stamp : Stamp) (call : Call) :
    service.run organization stamp call = do
      return call.success
        (← service.engine.carryOut organization (call.command service.engine stamp)) := by
  cases call with
  | members id offset limit =>
      cases limit <;>
        simp [run, Call.command, Engine.carryOut, Engine.serve, Call.success, Call.successStatus,
          Reply.content, Response.json]
  | _ =>
      simp [run, Call.command, Engine.carryOut, Engine.serve, Call.success, Call.successStatus,
        Reply.content, Response.json, Response.bare]

/-- A call is answered with what its command gives. -/
theorem answered_call (owner : OrganizationId) (stamp : Stamp) (call : Call) (world : World) :
    let command := call.command service.engine stamp
    let performed := (service.engine.carryOut owner command).perform world
    let answered := service.call owner stamp call world
    Answered call command performed.1 performed.2 answered.1 answered.2 := by
  have course := service.engine.course_carryOut owner (call.command service.engine stamp) world
  dsimp only at course ⊢
  rw [call_eq, run_eq, perform_return]
  generalize (service.engine.carryOut owner (call.command service.engine stamp)).perform world =
    performed at course ⊢
  obtain ⟨error | reply, after⟩ := performed
  · rcases error with error | id | error
    · exact .invalid
    · exact .missing course.segment?_of_notFound
    · exact .failed
  · exact .given

end Service

namespace Service

variable {service : Service} {request : Request}

theorem tenant?_eq_some_iff {owner : OrganizationId} :
    service.tenant? request = some owner ↔
      ∃ key, request.key = some key ∧ isHeaderText key = true ∧
        service.keys.resolve? key = some owner := by
  unfold tenant?
  cases request.key with
  | none => exact ⟨nofun, nofun⟩
  | some key =>
      simp only [Option.bind_eq_bind, Option.bind_some, Option.some.injEq, exists_eq_left']
      split
      · rename_i plain
        exact ⟨fun known => ⟨plain, known⟩, fun known => known.2⟩
      · rename_i garbled
        exact ⟨nofun, fun known => absurd known.1 garbled⟩

theorem tenant?_eq_none
    (unknown : ∀ key, request.key = some key → isHeaderText key = true →
      service.keys.resolve? key = none) :
    service.tenant? request = none := by
  cases found : service.tenant? request with
  | none => rfl
  | some owner =>
      obtain ⟨key, given, plain, known⟩ := tenant?_eq_some_iff.mp found
      rw [unknown key given plain] at known
      cases known

end Service

/-- The endpoint reads a body of this length, or it reads none. -/
def Endpoint.Admits (endpoint : Endpoint) (body : String) : Prop :=
  match endpoint with
  | .create | .update _ | .preview | .validate => body.utf8ByteSize ≤ mostBodyBytes
  | .list | .fields | .get _ | .delete _ | .count _ | .members _ => True

namespace Request

/-- The parts of the request make the call at the endpoint, however long the body is. -/
inductive Asks (request : Request) : Endpoint → Call → Prop
  | list : Asks request .list .list
  | fields : Asks request .fields .fields
  | create {new : NewSegment} (json : request.declaresJson = true)
      (said : NewSegment.reader (Draft.leading request.body) = .ok new) :
      Asks request .create (.create new)
  | preview {criteria : Criteria} (json : request.declaresJson = true)
      (said : Criteria.reader (Draft.leading request.body) = .ok criteria) :
      Asks request .preview (.preview criteria.conditions)
  | validate {criteria : Criteria} (json : request.declaresJson = true)
      (said : Criteria.reader (Draft.leading request.body) = .ok criteria) :
      Asks request .validate (.validate criteria.conditions)
  | get {part : List Char} {id : SegmentId} (named : readId part = .ok id) :
      Asks request (.get part) (.get id)
  | update {part : List Char} {id : SegmentId} {change : SegmentChange}
      (named : readId part = .ok id) (json : request.declaresJson = true)
      (said : SegmentChange.reader (Draft.leading request.body) = .ok change) :
      Asks request (.update part) (.update id change)
  | delete {part : List Char} {id : SegmentId} (named : readId part = .ok id) :
      Asks request (.delete part) (.delete id)
  | count {part : List Char} {id : SegmentId} (named : readId part = .ok id) :
      Asks request (.count part) (.count id)
  /-- An offset that is not given is zero. -/
  | members {part : List Char} {id : SegmentId} {offset limit : Option Nat}
      (named : readId part = .ok id)
      (first : queryWord "offset" (queryPairs request.query) = .ok offset)
      (most : queryWord "limit" (queryPairs request.query) = .ok limit) :
      Asks request (.members part) (.members id (offset.getD 0) limit)

end Request

section Bodies

variable {α : Type} {reader : Reader α} {request : Request} {endpoint : Endpoint} {call : Call}

theorem readBody_eq_ok_iff {value : α} :
    readBody reader request = .ok value ↔
      request.declaresJson = true ∧ request.body.utf8ByteSize ≤ mostBodyBytes ∧
        reader (Draft.leading request.body) = .ok value := by
  unfold readBody
  cases request.declaresJson with
  | false => exact ⟨nofun, nofun⟩
  | true =>
      simp only [Bool.not_true, Bool.false_eq_true, if_false, true_and]
      by_cases fits : request.body.utf8ByteSize ≤ mostBodyBytes
      · rw [if_neg (Nat.not_lt.mpr fits)]
        rcases reader (Draft.leading request.body) with (_ | _) | value <;> simp [fits]
      · rw [if_pos (Nat.lt_of_not_le fits)]
        exact ⟨nofun, fun ⟨fit, _⟩ => absurd fit fits⟩

/-- What is made of a body is made of one that is declared, not too long and read. -/
theorem readBody_bind_eq_ok_iff {next : α → Except Refusal Call} :
    readBody reader request >>= next = .ok call ↔
      ∃ value, (request.declaresJson = true ∧ request.body.utf8ByteSize ≤ mostBodyBytes ∧
        reader (Draft.leading request.body) = .ok value) ∧ next value = .ok call := by
  simp only [bind_eq_ok_iff, readBody_eq_ok_iff]

theorem readBody_of_excess (json : request.declaresJson = true)
    (excess : ¬request.body.utf8ByteSize ≤ mostBodyBytes) :
    readBody reader request = .error .bodySize := by
  simp [readBody, json, Nat.lt_of_not_le excess]

/-- A request is read as a call just when it makes this call and its body is not too long. -/
theorem Endpoint.read_eq_ok_iff :
    endpoint.read request = .ok call ↔ request.Asks endpoint call ∧ endpoint.Admits request.body := by
  constructor
  · intro read
    cases endpoint with
    | list | fields =>
        cases read
        exact ⟨by constructor, trivial⟩
    | create =>
        obtain ⟨new, ⟨json, fits, said⟩, same⟩ := readBody_bind_eq_ok_iff.mp read
        cases same
        exact ⟨.create json said, fits⟩
    | preview =>
        obtain ⟨criteria, ⟨json, fits, said⟩, same⟩ := readBody_bind_eq_ok_iff.mp read
        cases same
        exact ⟨.preview json said, fits⟩
    | validate =>
        obtain ⟨criteria, ⟨json, fits, said⟩, same⟩ := readBody_bind_eq_ok_iff.mp read
        cases same
        exact ⟨.validate json said, fits⟩
    | get | delete | count =>
        obtain ⟨id, named, same⟩ := bind_eq_ok_iff.mp read
        cases same
        exact ⟨by constructor; exact named, trivial⟩
    | update =>
        obtain ⟨id, named, rest⟩ := bind_eq_ok_iff.mp read
        obtain ⟨change, ⟨json, fits, said⟩, same⟩ := readBody_bind_eq_ok_iff.mp rest
        cases same
        exact ⟨.update named json said, fits⟩
    | members =>
        obtain ⟨id, named, rest⟩ := bind_eq_ok_iff.mp read
        obtain ⟨offset, first, rest⟩ := bind_eq_ok_iff.mp rest
        obtain ⟨limit, most, same⟩ := bind_eq_ok_iff.mp rest
        cases same
        exact ⟨.members named first most, trivial⟩
  · rintro ⟨asks, admitted⟩
    cases asks with
    | list | fields => rfl
    | create json said | preview json said | validate json said =>
        exact readBody_bind_eq_ok_iff.mpr ⟨_, ⟨json, admitted, said⟩, rfl⟩
    | get named | delete named | count named => exact bind_eq_ok_iff.mpr ⟨_, named, rfl⟩
    | update named json said =>
        refine bind_eq_ok_iff.mpr ⟨_, named, ?_⟩
        exact readBody_bind_eq_ok_iff.mpr ⟨_, ⟨json, admitted, said⟩, rfl⟩
    | members named first most =>
        refine bind_eq_ok_iff.mpr ⟨_, named, bind_eq_ok_iff.mpr ⟨_, first, ?_⟩⟩
        exact bind_eq_ok_iff.mpr ⟨_, most, rfl⟩

/-- A request that makes a call with a body that is too long is refused for that. -/
theorem Endpoint.read_of_excess (asks : request.Asks endpoint call)
    (excess : ¬endpoint.Admits request.body) : endpoint.read request = .error .bodySize := by
  cases asks with
  | list | fields | get | delete | count | members => exact absurd trivial excess
  | create json | preview json | validate json =>
      exact bind_eq_error_iff.mpr (.inl (readBody_of_excess json excess))
  | update named json =>
      refine bind_eq_error_iff.mpr (.inr ⟨_, named, ?_⟩)
      exact bind_eq_error_iff.mpr (.inl (readBody_of_excess json excess))

/-- A body as its endpoint looks at it. -/
def Endpoint.prunedBody : Endpoint → Draft → Draft
  | .create => NewSegment.pruned
  | .update _ => SegmentChange.pruned
  | .preview | .validate => Criteria.pruned
  | .list | .fields | .get _ | .delete _ | .count _ | .members _ => fun _ => .null

theorem readBody_pruned {pruned : Draft → Draft}
    (kept : ∀ draft, reader (pruned draft) = reader draft) {body : String}
    (fits : body.utf8ByteSize ≤ mostBodyBytes ↔ request.body.utf8ByteSize ≤ mostBodyBytes)
    (alike : pruned (Draft.leading body) = pruned (Draft.leading request.body)) :
    readBody reader { request with body } = readBody reader request := by
  have same : reader (Draft.leading body) = reader (Draft.leading request.body) := by
    rw [← kept, alike, kept]
  have excess : mostBodyBytes < body.utf8ByteSize ↔ mostBodyBytes < request.body.utf8ByteSize := by
    rw [← Nat.not_le, ← Nat.not_le, fits]
  unfold readBody
  simp only [excess, same]
  rfl

theorem Endpoint.read_pruned (endpoint : Endpoint) {body : String}
    (fits : endpoint.Admits body ↔ endpoint.Admits request.body)
    (alike : endpoint.prunedBody (Draft.leading body) =
      endpoint.prunedBody (Draft.leading request.body)) :
    endpoint.read { request with body } = endpoint.read request := by
  cases endpoint with
  | create => simp only [read, readBody_pruned NewSegment.reader_pruned fits alike]
  | update id => simp only [read, readBody_pruned SegmentChange.reader_pruned fits alike]
  | preview | validate => simp only [read, readBody_pruned Criteria.reader_pruned fits alike]
  | list | fields | get | delete | count | members => rfl

/-- The body behind so many blanks. -/
def padded (blanks : Nat) (body : String) : String :=
  String.ofList (List.replicate blanks ' ') ++ body

/-- Blanks in front of a body say nothing. -/
theorem leading_padded (blanks : Nat) (body : String) :
    Draft.leading (padded blanks body) = Draft.leading body := by
  have blank : ∀ c ∈ List.replicate blanks ' ', Token.isGap c = true := by
    intro c within
    rw [List.eq_of_mem_replicate within]
    rfl
  simp only [Draft.leading, Token.ofText, padded, String.toList_append, String.toList_ofList,
    Token.ofChars_gap blank]

/-- Blanks in front of a body add to its length. -/
theorem utf8ByteSize_padded (blanks : Nat) (body : String) :
    (padded blanks body).utf8ByteSize = blanks + body.utf8ByteSize := by
  rw [padded, String.utf8ByteSize_append]
  congr 1
  induction blanks with
  | zero => rfl
  | succ blanks ih =>
      rw [List.replicate_succ, String.ofList_cons, String.utf8ByteSize_append, ih, Nat.add_comm]
      rfl

end Bodies

namespace Service

variable (service : Service) {request : Request} {resource : Resource} {endpoint : Endpoint}

theorem exchange_of_target (request : Request)
    (path : Resource.ofPath? request.path = some resource)
    (asked : resource.target? request.method = some (.endpoint endpoint)) (stamp : Stamp)
    (world : World) :
    service.exchange request stamp world = service.answer endpoint request stamp world := by
  have dispatched : service.dispatch request.method request stamp =
      service.answer endpoint request stamp := by
    unfold dispatch
    rw [path]
    dsimp only
    rw [asked]
  rw [exchange_eq, ← dispatched]
  cases method : request.method with
  | options | head =>
      rw [method] at asked
      cases resource <;> cases asked
  | _ => rfl

/-- The request is for an evaluation, and that fails. -/
def Fails (service : Service) (endpoint : Endpoint) (request : Request) (stamp : Stamp)
    (world : World) : Prop :=
  ∃ owner call error, service.tenant? request = some owner ∧ endpoint.read request = .ok call ∧
    ((service.engine.carryOut owner (call.command service.engine stamp)).perform world).1 =
      .error (.evaluation error)

theorem answer_of_unknown (unknown : service.tenant? request = none) (stamp : Stamp) (world : World) :
    service.answer endpoint request stamp world =
      (unauthorizedResponse, world.counting .unauthorized) := by
  unfold answer
  rw [unknown]
  rfl

theorem answer_of_read {owner : OrganizationId} {call : Call}
    (owned : service.tenant? request = some owner) (read : endpoint.read request = .ok call)
    (stamp : Stamp) :
    service.answer endpoint request stamp = service.call owner stamp call := by
  unfold answer
  rw [owned, read]

theorem Fails.answer {service : Service} {stamp : Stamp} {world : World}
    (fails : service.Fails endpoint request stamp world) :
    (service.answer endpoint request stamp world).1 = failureResponse := by
  obtain ⟨owner, call, error, owned, read, failed⟩ := fails
  have answered := service.answered_call owner stamp call world
  dsimp only at answered
  rw [failed] at answered
  rw [service.answer_of_read owned read]
  generalize service.call owner stamp call world = exchanged at answered ⊢
  obtain ⟨response, after⟩ := exchanged
  cases answered with
  | failed => rfl

theorem answer_of_excess {owner : OrganizationId} {call : Call}
    (owned : service.tenant? request = some owner) (asks : request.Asks endpoint call)
    (excess : ¬endpoint.Admits request.body) (stamp : Stamp) (world : World) :
    service.answer endpoint request stamp world = (⟨413, .notice⟩, world) := by
  unfold answer
  rw [owned, Endpoint.read_of_excess asks excess]
  rfl

/-- Without a known key nothing is done. With one, what the command of the request gives is answered,
    and what it leaves is left, unless the endpoint reads a body and that is too long: then nothing is
    done either. A body counts for what its endpoint knows of it, and of evaluations that fail, for
    whatever reason and in whatever world, no two are answered differently. -/
theorem exchange_at_endpoint (path : Resource.ofPath? request.path = some resource)
    (asked : resource.target? request.method = some (.endpoint endpoint)) (stamp : Stamp)
    (world : World) :
    let exchanged := service.exchange request stamp world
    ((∀ key, request.key = some key → isHeaderText key = true →
        service.keys.resolve? key = none) →
      exchanged = (unauthorizedResponse, world.counting .unauthorized)) ∧
    (∀ key owner call, request.key = some key → isHeaderText key = true →
      service.keys.resolve? key = some owner → request.Asks endpoint call →
      let command := call.command service.engine stamp
      let performed := (service.engine.carryOut owner command).perform world
      (endpoint.Admits request.body →
        Answered call command performed.1 performed.2 exchanged.1 exchanged.2) ∧
      (¬endpoint.Admits request.body → exchanged = (⟨413, .notice⟩, world))) ∧
    (∀ body, (endpoint.Admits body ↔ endpoint.Admits request.body) →
      endpoint.prunedBody (Draft.leading body) =
        endpoint.prunedBody (Draft.leading request.body) →
      service.exchange { request with body } stamp world = exchanged) ∧
    (∀ (other : Service) otherStamp otherWorld,
      service.Fails endpoint request stamp world →
      other.Fails endpoint request otherStamp otherWorld →
      (other.exchange request otherStamp otherWorld).1 = exchanged.1) := by
  dsimp only
  rw [service.exchange_of_target request path asked]
  refine ⟨?_, ?_, ?_, ?_⟩
  · intro unknown
    exact service.answer_of_unknown (tenant?_eq_none unknown) stamp world
  · intro key owner call given plain known asks
    have owned : service.tenant? request = some owner :=
      tenant?_eq_some_iff.mpr ⟨key, given, plain, known⟩
    constructor
    · intro admitted
      rw [service.answer_of_read owned (Endpoint.read_eq_ok_iff.mpr ⟨asks, admitted⟩)]
      exact service.answered_call owner stamp call world
    · intro excess
      exact service.answer_of_excess owned asks excess stamp world
  · intro body fits alike
    rw [service.exchange_of_target { request with body } path asked]
    unfold answer
    rw [endpoint.read_pruned fits alike]
    rfl
  · intro other otherStamp otherWorld fails otherFails
    rw [other.exchange_of_target request path asked, fails.answer, otherFails.answer]

end Service

end Http

namespace TwoTenants

open ContactSegments.Http

def request (method : Method) (key body : String) : Request :=
  ⟨method, "/v1/segments".toList, [], some key, some "application/json", body⟩

def hot : String := "\x7b\"name\":\"Hot\",\"type\":\"static\"\x7d"

/-- The same, with the south named as the owner. -/
def claimedHot : String :=
  "\x7b\"organizationId\":\"00000000-0000-0000-0000-000000000002\"," ++
    "\"name\":\"Hot\",\"type\":\"static\"\x7d"

theorem tokens_hot : Token.ofText hot =
    [.mark '\x7b', .string (some "name"), .mark ':', .string (some "Hot"), .mark ',',
     .string (some "type"), .mark ':', .string (some "static"), .mark '\x7d'] := by
  decide +kernel

theorem tokens_claimedHot : Token.ofText claimedHot =
    [.mark '\x7b', .string (some "organizationId"), .mark ':',
     .string (some "00000000-0000-0000-0000-000000000002"), .mark ',', .string (some "name"),
     .mark ':', .string (some "Hot"), .mark ',', .string (some "type"), .mark ':',
     .string (some "static"), .mark '\x7d'] := by
  decide +kernel

def newHot : NewSegment := .static "Hot" []

theorem asks_hot {body : String} (same : Draft.leading body = Draft.leading hot) :
    (request .post "north" body).Asks .create (.create newHot) := by
  have said : NewSegment.reader (Draft.leading hot) = .ok newHot := by decide +kernel
  have json : (request .post "north" hot).declaresJson = true := by decide +kernel
  exact .create json (same ▸ said)

theorem claimed_for_naught :
    let asked := request .post "north" hot
    let performed := (service.engine.carryOut north (.segments (.create newHot stamp))).perform start
    let exchanged := service.exchange asked stamp start
    Resource.ofPath? asked.path = some .segments ∧
      Resource.segments.target? asked.method = some (.endpoint .create) ∧
      Answered (.create newHot) (.segments (.create newHot stamp)) performed.1 performed.2
        exchanged.1 exchanged.2 ∧
      service.exchange { asked with body := claimedHot } stamp start = exchanged := by
  have path : Resource.ofPath? (request .post "north" hot).path = some .segments := by decide +kernel
  have plain : isHeaderText "north" = true := by decide +kernel
  have known : service.keys.resolve? "north" = some north := by decide +kernel
  have short : Endpoint.create.Admits hot := by
    show hot.utf8ByteSize ≤ mostBodyBytes
    decide +kernel
  have claimedShort : Endpoint.create.Admits claimedHot := by
    show claimedHot.utf8ByteSize ≤ mostBodyBytes
    decide +kernel
  have unclaimed : Draft.leading hot = .object
      ([] ++ [(some "name", .string (some "Hot")), (some "type", .string (some "static"))]) true := by
    rw [Draft.leading, tokens_hot]
    rfl
  have claimed : Draft.leading claimedHot = .object
      ([] ++ (some "organizationId", .string (some "00000000-0000-0000-0000-000000000002")) ::
        [(some "name", .string (some "Hot")), (some "type", .string (some "static"))]) true := by
    rw [Draft.leading, tokens_claimedHot]
    rfl
  have unknown : "organizationId" ∉ NewSegment.record.fields.map Prod.fst := by decide +kernel
  obtain ⟨-, answers, alike, -⟩ := service.exchange_at_endpoint path rfl stamp start
  have answered := (answers "north" north (.create newHot) rfl plain known (asks_hot rfl)).1 short
  refine ⟨path, rfl, answered, alike claimedHot (iff_of_true claimedShort short) ?_⟩
  show NewSegment.pruned _ = NewSegment.pruned _
  rw [claimed, request, unclaimed]
  exact Draft.pruned_insert _ _ unknown rfl _ _ _

/-- A key that cannot stand in a header is refused, though the service knows it. So is a body that
    blanks make too long, though it makes a call. -/
theorem umlaut_and_blanks_refused :
    (let keys := KeyRing.ofList [("schlüssel", north)]
      let service : Http.Service := { service with keys }
      let asked := request .get "schlüssel" ""
      let performed := (service.engine.carryOut north (.segments .list)).perform .empty
      let exchanged := service.exchange asked stamp .empty
      Resource.ofPath? asked.path = some .segments ∧
        Resource.segments.target? asked.method = some (.endpoint .list) ∧
        keys.resolve? "schlüssel" = some north ∧ asked.Asks .list .list ∧
        exchanged.1.status = 401 ∧
        ¬Answered .list (.segments .list) performed.1 performed.2 exchanged.1 exchanged.2) ∧
    (let asked := request .post "north" (padded mostBodyBytes hot)
      let performed :=
        (service.engine.carryOut north (.segments (.create newHot stamp))).perform start
      let exchanged := service.exchange asked stamp start
      Resource.ofPath? asked.path = some .segments ∧
        Resource.segments.target? asked.method = some (.endpoint .create) ∧
        service.keys.resolve? "north" = some north ∧ asked.Asks .create (.create newHot) ∧
        exchanged.1.status = 413 ∧
        ¬Answered (.create newHot) (.segments (.create newHot stamp)) performed.1 performed.2
          exchanged.1 exchanged.2) := by
  dsimp only
  constructor
  · have refused : (Service.exchange { service with keys := .ofList [("schlüssel", north)] }
        (request .get "schlüssel" "") stamp .empty).1.status = 401 := by decide +kernel
    exact ⟨by decide +kernel, rfl, by decide +kernel, .list, refused,
      fun answered => answered.status_ne_unauthorized refused⟩
  · have path : Resource.ofPath? "/v1/segments".toList = some .segments := by decide +kernel
    have known : service.keys.resolve? "north" = some north := by decide +kernel
    have owned : service.tenant? (request .post "north" (padded mostBodyBytes hot)) = some north :=
      Service.tenant?_eq_some_iff.mpr ⟨"north", rfl, by decide +kernel, known⟩
    have asks := asks_hot (leading_padded mostBodyBytes hot)
    have excess : ¬Endpoint.create.Admits (padded mostBodyBytes hot) := by
      show ¬(padded mostBodyBytes hot).utf8ByteSize ≤ mostBodyBytes
      have visible : 0 < hot.utf8ByteSize := by decide +kernel
      rw [utf8ByteSize_padded]
      omega
    have asked : Resource.segments.target? .post = some (.endpoint .create) := rfl
    have refused : service.exchange (request .post "north" (padded mostBodyBytes hot)) stamp start =
        (⟨413, .notice⟩, start) := by
      rw [service.exchange_of_target (request .post "north" (padded mostBodyBytes hot)) path asked]
      exact service.answer_of_excess owned asks excess stamp start
    rw [refused]
    exact ⟨path, rfl, known, asks, rfl, fun answered => absurd answered.status_mem (by decide)⟩

end TwoTenants

end ContactSegments
