import ContactSegments.Http.Call
import ContactSegments.Service.Engine
import ContactSegments.Settings.KeyRing
import ContactSegments.Wire.Field

/-! # The service

The service answers requests with the operations of an engine. The key of a request decides for
which organization it is made, and nothing else in it does. An error of an operation becomes a
response; why an evaluation failed is not told.
-/

namespace ContactSegments.Http

structure Service where
  engine : Engine
  keys : KeyRing
  nodeId : String

/-- The body that reports an error. -/
def errorBody (error message : String) (conditionId : Option String) : Json :=
  .object
    ([("error", .string error), ("message", .string message)] ++
      (conditionId.map fun id => ("condition_id", .string id)).toList)

def unauthorizedResponse : Response :=
  .json 401 (errorBody "unauthorized" "missing or unknown API key" none)

/-- The response to an error of an operation. -/
def errorResponse (error : SegmentError) : Response :=
  match error with
  | .validation e =>
    .json 400 (errorBody "invalid_criteria" e.cause.message e.conditionId)
  | .notFound _ => .json 404 (errorBody "segment_not_found" error.message none)
  | .evaluation _ =>
    .json 500 (errorBody "evaluation_failed" "Segment could not be evaluated" none)

/-- What counts an error that is answered, if anything does. -/
def errorCounter? : SegmentError → Option Counter
  | .validation _ => some .invalidRequests
  | .notFound _ => none
  | .evaluation _ => some .failedRequests

def countBody (total : Nat) : Json := .object [("count", .ofNat total)]

namespace Service

/-- Makes a call for an organization. -/
def run (service : Service) (organization : OrganizationId) (stamp : Stamp) :
    Call → Action Response
  | .list => do
    let segments ← Engine.list organization
    return .json 200 (.array (segments.map Segment.toJson))
  | .create new => do
    return .json 201 (← service.engine.create organization new stamp).toJson
  | .preview conditions => do
    return .json 200 (countBody (← service.engine.previewCount organization conditions))
  | .validate conditions => do
    let _ ← service.engine.toPredicate organization conditions
    return .bare 204
  | .fields =>
    return .json 200 (.array (service.engine.catalog.describe.map FieldDescription.toJson))
  | .get id => do
    return .json 200 (← Engine.get organization id).toJson
  | .update id change => do
    return .json 200 (← service.engine.update organization id change stamp.now).toJson
  | .delete id => do
    Engine.delete organization id
    return .bare 204
  | .count id => do
    return .json 200 (countBody (← service.engine.count organization id))
  | .members id offset limit => do
    let page := match limit with
      | some limit => ⟨offset, limit⟩
      | none => service.engine.defaultPage offset
    return .json 200 (← service.engine.members organization id page).toJson

/-- Makes a call and turns an error into a response. -/
def call (service : Service) (organization : OrganizationId) (stamp : Stamp) (call : Call) :
    StateM World Response := do
  match ← (service.run organization stamp call).run with
  | .ok response => return response
  | .error error =>
    if let some counter := errorCounter? error then
      modify (·.counting counter)
    return errorResponse error

/-- The organization that a request is made for. A key that is no text of a header is not known. -/
def tenant? (service : Service) (request : Request) : Option OrganizationId := do
  let key ← request.key
  if isHeaderText key then service.keys.resolve? key else none

/-- Answers a request at an endpoint. -/
def answer (service : Service) (endpoint : Endpoint) (request : Request) (stamp : Stamp) :
    StateM World Response := do
  match service.tenant? request with
  | none =>
    modify (·.counting .unauthorized)
    return unauthorizedResponse
  | some organization =>
    match endpoint.read request with
    | .error refusal => return ⟨refusal.status, .notice⟩
    | .ok call => service.call organization stamp call

/-- Answers what a method asks of a path. -/
def dispatch (service : Service) (method : Method) (request : Request) (stamp : Stamp) :
    StateM World Response :=
  match Resource.ofPath? request.path with
  | none => return .bare 404
  | some resource =>
    match resource.target? method with
    | none => return .bare 405
    | some .live => return .bare 200
    | some .health =>
      return .json 200
        (.object [("status", .string "healthy"), ("node_id", .string service.nodeId)])
    | some (.endpoint endpoint) => service.answer endpoint request stamp

/-- Answers a request. Every path has options, and the head of a response is that of getting it. -/
def respond (service : Service) (request : Request) (stamp : Stamp) : StateM World Response :=
  match request.method with
  | .options => return .bare 200
  | .head => return (← service.dispatch .get request stamp).headOnly
  | method => service.dispatch method request stamp

end Service

end ContactSegments.Http
