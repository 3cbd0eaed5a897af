import ContactSegments.Error
import ContactSegments.Word

/-! # Pages of members

The members of a segment are shown page by page. A page starts at an offset into the ascending ids
and holds as many of them as its limit allows; the page after it starts where it ends.
-/

namespace ContactSegments

/-- Which part of a list of members is asked for. -/
structure Page where
  offset : Nat
  limit : Nat
deriving DecidableEq, Repr

/-- How much a query has to tell: the number of matches alone, or a page of them too. -/
inductive Window
  | countOnly
  | page (page : Page)
deriving DecidableEq, Repr

/-- The answer to a query: the number of all matches and the ids that were asked for. -/
structure QueryResult where
  total : Nat
  ids : List ContactId
deriving DecidableEq

/-- One page of members. -/
structure MemberPage where
  ids : List ContactId
  total : Nat
  offset : Nat
  nextOffset : Option Nat
deriving DecidableEq

/-- The largest offset that can be asked for. -/
def largestOffset : Nat := wordBound - 1

/-- A page has room for one member at least and for `max` members at most. -/
def Page.check (page : Page) (max : Nat) : Except ValidationCause Unit :=
  if page.limit = 0 then .error .emptyPage
  else if max < page.limit then .error (.pageTooLarge page.limit max)
  else .ok ()

/-- What a query for a page knows after one more match. The match is shown when the page begins no
    later and has room left. -/
def Page.visit (page : Page) (found : QueryResult) (id : ContactId) : QueryResult where
  total := found.total + 1
  ids :=
    if page.offset ≤ found.total ∧ found.ids.length < page.limit then found.ids ++ [id]
    else found.ids

/-- The page that a query answers; a page follows when this one holds something and does not reach
    the end. -/
def QueryResult.toPage (result : QueryResult) (offset : Nat) : MemberPage :=
  let stop := min (offset + result.ids.length) largestOffset
  { ids := result.ids
    total := result.total
    offset
    nextOffset := if !result.ids.isEmpty && stop < result.total then some stop else none }

end ContactSegments
