import ContactSegments.Segment

/-! # The table of segments

Segments of all organizations are kept under their ids. Every access but `insert` names an
organization and sees only that organization's segments.
-/

namespace ContactSegments

structure SegmentTable where
  records : Std.ExtTreeMap SegmentId Segment

namespace SegmentTable

def empty : SegmentTable := ⟨∅⟩

/-- Puts a segment under its id, in place of any other that stands there. -/
def insert (table : SegmentTable) (segment : Segment) : SegmentTable :=
  ⟨table.records.insert segment.id segment⟩

/-- The organization's segment with this id. -/
def find? (table : SegmentTable) (organization : OrganizationId) (id : SegmentId) :
    Option Segment :=
  table.records[id]?.filter (·.organization == organization)

/-- The organization's segments in the order of their creation. -/
def list (table : SegmentTable) (organization : OrganizationId) : List Segment :=
  let segments := table.records.toList.map (·.2)
  (segments.filter (·.organization == organization)).mergeSort Segment.listedBefore

/-- Puts a segment in place of the one with the same id and organization, if there is one, and tells
    whether there was. -/
def replace (table : SegmentTable) (segment : Segment) : Bool × SegmentTable :=
  match table.find? segment.organization segment.id with
  | some _ => (true, table.insert segment)
  | none => (false, table)

/-- Erases the organization's segment with this id, if there is one, and tells whether there was. -/
def remove (table : SegmentTable) (organization : OrganizationId) (id : SegmentId) :
    Bool × SegmentTable :=
  match table.find? organization id with
  | some _ => (true, ⟨table.records.erase id⟩)
  | none => (false, table)

end SegmentTable

end ContactSegments
