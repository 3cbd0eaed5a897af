import ContactSegments.Http.Message

/-! # Request targets

The target of a request is a path with a query. The address of a host may stand before them after
a scheme, or stand alone; then there is no path. A fragment at the end is dropped unread. A text
that breaks the grammar is no target, and a request without one is never made.
-/

namespace ContactSegments.Http

structure RequestTarget where
  /-- The path as it is written, with its percent encoding. -/
  path : List Char
  /-- What follows the question mark, if there is one. -/
  query : List Char
deriving DecidableEq, Repr

namespace RequestTarget

/-- The greatest number of bytes of a target. -/
def mostBytes : Nat := 0xfffe

/-- The greatest number of characters of a scheme. -/
def mostSchemeChars : Nat := 64

/-- The characters that show, of any alphabet. -/
def isVisible (c : Char) : Bool := ' ' < c && c != '\x7f'

/-- The characters of paths. Only what would end the path and a few others have to be encoded. -/
def isPathChar (c : Char) : Bool := isVisible c && !("#<>?`".toList.contains c)

def isQueryChar (c : Char) : Bool := isVisible c && !("\"#<>".toList.contains c)

def isSchemeChar (c : Char) : Bool := c.isAlphanum || ['+', '-', '.', '~'].contains c

/-- What ends the address of a host. -/
def isAddressEnd (c : Char) : Bool := ['/', '?', '#'].contains c

/-- The characters of addresses that mean nothing special there. -/
def isPlainAddressChar (c : Char) : Bool := c.isAlphanum || "!$&'()*+,-.;=_~".toList.contains c

/-- What has been met in an address, up to some place. -/
structure AddressState where
  /-- The colons since the last at sign or closing bracket. -/
  colons : Nat
  /-- There is a percent sign since then. -/
  encoded : Bool
  opened : Bool
  closed : Bool
deriving DecidableEq, Repr

namespace AddressState

def start : AddressState := ⟨0, false, false, false⟩

/-- The greatest number of colons in a row of numbers between brackets. -/
def mostColons : Nat := 8

/-- The state after one more character. Brackets stand once, around a host written in numbers. -/
def next? (state : AddressState) (c : Char) : Option AddressState :=
  match c with
  | ':' =>
    if state.colons < mostColons then some { state with colons := state.colons + 1 } else none
  | '[' => if state.encoded || state.opened then none else some { state with opened := true }
  | ']' => if state.opened && !state.closed then some ⟨0, false, true, true⟩ else none
  | '@' => some { state with colons := 0, encoded := false }
  | '%' => some { state with encoded := true }
  | _ => if isPlainAddressChar c then some state else none

end AddressState

/-- Whether the characters are the address of a host: maybe a user and an at sign, the host, and
    maybe a colon and a port. Only the user may be percent-encoded. -/
def isAddress (cs : List Char) : Bool :=
  match cs.foldlM AddressState.next? .start with
  | some ⟨colons, encoded, opened, closed⟩ =>
    !cs.isEmpty && colons ≤ 1 && !encoded && opened == closed && cs.getLast? != some '@'
  | none => false

/-- A path and a query, before a fragment. -/
def ofPath? (cs : List Char) : Option RequestTarget :=
  let whole := cs.takeWhile (· != '#')
  let path := whole.takeWhile (· != '?')
  let query := (whole.dropWhile (· != '?')).drop 1
  if path.all isPathChar && query.all isQueryChar then some ⟨path, query⟩ else none

/-- A path and a query that follow the address of a host. -/
def afterScheme? (cs : List Char) : Option RequestTarget :=
  if isAddress (cs.takeWhile fun c => !isAddressEnd c) then
    ofPath? (cs.dropWhile fun c => !isAddressEnd c)
  else none

/-- The target that a text writes. A star alone stands for the host as a whole. -/
def ofText? (s : String) : Option RequestTarget :=
  let cs := s.toList
  if mostBytes < s.utf8ByteSize then none
  else if cs.head? == some '/' || cs == ['*'] then ofPath? cs
  else
    let scheme := cs.takeWhile isSchemeChar
    match cs.dropWhile isSchemeChar with
    | ':' :: '/' :: '/' :: rest =>
      if scheme.length ≤ mostSchemeChars then afterScheme? rest else none
    | _ => if isAddress cs then some ⟨[], []⟩ else none

end RequestTarget

/-- The characters of the values of header fields. -/
def isFieldChar (c : Char) : Bool := c == '\t' || (' ' ≤ c && c != '\x7f')

/-- The request with these parts, if they can be sent: the method has a name, the target is one,
    and the header fields hold no control characters but tabs. -/
def Request.of? (method target : String) (key contentType : Option String) (body : String) :
    Option Request := do
  let method ← Method.ofName? method
  let target ← RequestTarget.ofText? target
  let isField := fun field : String => field.toList.all isFieldChar
  if key.all isField && contentType.all isField then
    some ⟨method, target.path, target.query, key, contentType, body⟩
  else none

end ContactSegments.Http
