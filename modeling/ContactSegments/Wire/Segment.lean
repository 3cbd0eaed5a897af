import ContactSegments.Membership
import ContactSegments.Segment
import ContactSegments.Wire.Condition
import ContactSegments.Wire.Contact

/-! # Segments and pages as JSON -/

namespace ContactSegments

namespace SegmentKind

def toJson (kind : SegmentKind) : Json := .string kind.name

def reader : Reader SegmentKind := .named all name

end SegmentKind

namespace Segment

def toJson (segment : Segment) : Json :=
  .object
    [("id", segment.id.toJson),
     ("organizationId", segment.organization.toJson),
     ("name", .string segment.name),
     ("type", segment.kind.toJson),
     ("criteria", segment.criteria.toJson),
     ("members", .array (segment.members.map Uuid.toJson)),
     ("createdAt", segment.createdAt.toJson),
     ("updatedAt", segment.updatedAt.toJson)]

open RecordReader in
def record : RecordReader Segment :=
  Segment.mk <$> required "id" Uuid.reader <*> required "organizationId" OrganizationId.reader
    <*> required "name" .text <*> required "type" SegmentKind.reader
    <*> optional "criteria" Criteria.reader .empty
    <*> optional "members" (.list Uuid.reader) []
    <*> required "createdAt" Instant.reader <*> required "updatedAt" Instant.reader

def reader : Reader Segment := record.read

end Segment

namespace NewSegment

open RecordReader in
def record : RecordReader NewSegment :=
  NewSegment.mk <$> required "name" .text <*> required "type" SegmentKind.reader
    <*> optional "criteria" Criteria.reader .empty
    <*> optional "members" (.list Uuid.reader) []

def reader : Reader NewSegment := record.read

end NewSegment

namespace SegmentChange

open RecordReader in
def record : RecordReader SegmentChange :=
  SegmentChange.mk <$> optional "name" (.nullable .text) none
    <*> optional "criteria" (.nullable Criteria.reader) none
    <*> optional "members" (.nullable (.list Uuid.reader)) none

def reader : Reader SegmentChange := record.read

end SegmentChange

namespace Page

def toJson (page : Page) : Json :=
  .object [("offset", .ofNat page.offset), ("limit", .ofNat page.limit)]

open RecordReader in
def record : RecordReader Page := Page.mk <$> required "offset" .word <*> required "limit" .word

def reader : Reader Page := record.read

end Page

namespace MemberPage

def toJson (page : MemberPage) : Json :=
  .object
    [("ids", .array (page.ids.map Uuid.toJson)),
     ("total", .ofNat page.total),
     ("offset", .ofNat page.offset),
     ("nextOffset", .orNull (page.nextOffset.map .ofNat))]

end MemberPage

end ContactSegments
