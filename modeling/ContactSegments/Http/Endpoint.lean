import ContactSegments.Http.Message

/-! # Endpoints

A path leads to a resource and a method to one of its endpoints. The fixed names after `segments`
win over an id of the same spelling. The ids here are the path's own characters, not yet decoded.
-/

namespace ContactSegments.Http

inductive Resource
  | segments
  | preview
  | validation
  | fields
  | segment (id : List Char)
  | count (id : List Char)
  | members (id : List Char)
  | health
  | live
deriving DecidableEq, Repr

/-- What an organization can ask for. -/
inductive Endpoint
  | list
  | create
  | preview
  | validate
  | fields
  | get (id : List Char)
  | update (id : List Char)
  | delete (id : List Char)
  | count (id : List Char)
  | members (id : List Char)
deriving DecidableEq, Repr

/-- Something that is answered: to anyone, or to an organization. -/
inductive Target
  | health
  | live
  | endpoint (endpoint : Endpoint)
deriving DecidableEq, Repr

namespace Resource

/-- The resource under the names of a path. An id at the end of a path has at least one character;
    one that another name follows may be empty, though no segment has such an id. -/
def ofNames? (names : List (List Char)) : Option Resource :=
  match names.map fun name => (String.ofList name, name) with
  | [("", _), ("health", _)] => some .health
  | [("", _), ("live", _)] => some .live
  | [("", _), ("v1", _), ("segments", _)] => some .segments
  | [("", _), ("v1", _), ("segments", _), ("preview", _)] => some .preview
  | [("", _), ("v1", _), ("segments", _), ("validate", _)] => some .validation
  | [("", _), ("v1", _), ("segments", _), ("fields", _)] => some .fields
  | [("", _), ("v1", _), ("segments", _), (_, id)] =>
    if id.isEmpty then none else some (.segment id)
  | [("", _), ("v1", _), ("segments", _), (_, id), ("count", _)] => some (.count id)
  | [("", _), ("v1", _), ("segments", _), (_, id), ("members", _)] => some (.members id)
  | _ => none

def ofPath? (path : List Char) : Option Resource := ofNames? (Text.splitOn '/' path)

/-- What a method asks of a resource. -/
def target? (resource : Resource) (method : Method) : Option Target :=
  match resource, method with
  | .segments, .get => some (.endpoint .list)
  | .segments, .post => some (.endpoint .create)
  | .preview, .post => some (.endpoint .preview)
  | .validation, .post => some (.endpoint .validate)
  | .fields, .get => some (.endpoint .fields)
  | .segment id, .get => some (.endpoint (.get id))
  | .segment id, .put => some (.endpoint (.update id))
  | .segment id, .delete => some (.endpoint (.delete id))
  | .count id, .get => some (.endpoint (.count id))
  | .members id, .get => some (.endpoint (.members id))
  | .health, .get => some .health
  | .live, .get => some .live
  | _, _ => none

end Resource

end ContactSegments.Http
