import ContactSegments.Json.Value
import ContactSegments.Text.Percent

/-! # Requests and responses -/

namespace ContactSegments.Http

/-- The characters of names in a request, such as those of methods. -/
def isTokenChar (c : Char) : Bool :=
  c.isAlphanum || "!#$%&'*+-.^_`|~".toList.contains c

inductive Method
  | get
  | head
  | post
  | put
  | delete
  | options
  | other
deriving DecidableEq, Repr

namespace Method

/-- The method with exactly this name, if it is a name. -/
def ofName? (name : String) : Option Method :=
  match name with
  | "GET" => some .get
  | "HEAD" => some .head
  | "POST" => some .post
  | "PUT" => some .put
  | "DELETE" => some .delete
  | "OPTIONS" => some .options
  | _ => if name.isEmpty || !name.toList.all isTokenChar then none else some .other

end Method

/-- Text that can be told from a header: visible characters, blanks and tabs. -/
def isHeaderText (text : String) : Bool :=
  text.toList.all fun c => c == '\t' || (' ' ≤ c && c < '\x7f')

structure Request where
  method : Method
  /-- The path as it stands in the request, with its percent encoding. -/
  path : List Char
  /-- What follows the question mark, if there is one. -/
  query : List Char
  key : Option String
  contentType : Option String
  body : String
deriving DecidableEq, Repr

inductive Content
  | empty
  | json (value : Json)
  /-- A plain notice, whose wording is left open. -/
  | notice
deriving Repr

structure Response where
  status : Nat
  content : Content
deriving Repr

namespace Response

def bare (status : Nat) : Response := ⟨status, .empty⟩

def json (status : Nat) (value : Json) : Response := ⟨status, .json value⟩

/-- The response to a request that wants the head alone. -/
def headOnly (response : Response) : Response := bare response.status

end Response

end ContactSegments.Http
