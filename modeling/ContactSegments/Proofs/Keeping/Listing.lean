import ContactSegments.Proofs.Calendar.Instant
import ContactSegments.Proofs.SegmentTable
import ContactSegments.Proofs.Uuid
import Mathlib.Data.List.Nodup

/-! # Lists of segments

An organization's list is decided by what it finds under each id: it holds each of these segments once,
in the strict order of their places. So it does not depend on the order in which the records of a table
come, and a segment that changes and keeps its place stays where it is.
-/

namespace ContactSegments

/-- What one organization finds under each id. -/
abbrev Shelf := SegmentId → Option Segment

namespace Segment

/-- The time of creation and the id say where a segment stands in a list. -/
abbrev Place := Instant × SegmentId

def place (segment : Segment) : Place := (segment.createdAt, segment.id)

/-- The time comes first, and the id decides between segments of the same time. -/
def Place.Before (a b : Place) : Prop := a.1 < b.1 ∨ a.1 = b.1 ∧ compare a.2 b.2 = .lt

def Before (a b : Segment) : Prop := a.place.Before b.place

end Segment

namespace Segment

theorem Place.before_iff {a b : Place} :
    a.Before b ↔
      a.1.rank < b.1.rank ∨ a.1.rank = b.1.rank ∧ a.2.value.val < b.2.value.val := by
  rw [Place.Before, ← Instant.rank_inj, Uuid.compare_eq_lt_iff]
  exact Iff.rfl

theorem Place.Before.asymm {a b : Place} (before : a.Before b) : ¬ b.Before a := by
  rw [before_iff] at *
  omega

theorem listedBefore_iff {a b : Segment} :
    a.listedBefore b = true ↔
      a.createdAt.rank < b.createdAt.rank ∨
        a.createdAt.rank = b.createdAt.rank ∧ a.id.value.val ≤ b.id.value.val := by
  simp only [listedBefore, Bool.or_eq_true, Bool.and_eq_true, decide_eq_true_eq, beq_iff_eq,
    Uuid.isLE_compare_iff]
  exact Iff.rfl

theorem listedBefore_trans (a b c : Segment) (first : a.listedBefore b = true)
    (second : b.listedBefore c = true) : a.listedBefore c = true := by
  rw [listedBefore_iff] at *
  omega

theorem listedBefore_total (a b : Segment) : (a.listedBefore b || b.listedBefore a) = true := by
  rw [Bool.or_eq_true, listedBefore_iff, listedBefore_iff]
  omega

theorem id_of_listedBefore {a b : Segment} (first : a.listedBefore b = true)
    (second : b.listedBefore a = true) : a.id = b.id := by
  rw [listedBefore_iff] at *
  exact Uuid.value_inj.mp (by omega)

theorem before_of_listedBefore {a b : Segment} (listed : a.listedBefore b = true)
    (different : a.id ≠ b.id) : a.Before b := by
  rw [ne_eq, ← Uuid.value_inj] at different
  rw [listedBefore_iff] at listed
  rw [Before, Place.before_iff]
  simp only [place]
  omega

end Segment

/-- Two lists in the same strict order are the same if they have the same members. -/
theorem eq_of_strictly_ordered {R : α → α → Prop} (asymm : ∀ {a b}, R a b → ¬ R b a)
    {as bs : List α} (ordered : as.Pairwise R) (ordered' : bs.Pairwise R)
    (same : ∀ a, a ∈ as ↔ a ∈ bs) : as = bs := by
  have apart : ∀ {a b}, R a b → a ≠ b := by
    rintro a b first rfl
    exact asymm first first
  have perm := (List.perm_ext_iff_of_nodup (ordered.imp apart) (ordered'.imp apart)).mpr same
  exact perm.eq_of_pairwise (fun a b _ _ first second => absurd second (asymm first)) ordered ordered'

/-- The list has what stands on the shelf, each segment once and in the order of the places. -/
structure Shelf.Lists (shelf : Shelf) (segments : List Segment) : Prop where
  ordered : segments.Pairwise Segment.Before
  complete : ∀ segment, segment ∈ segments ↔ ∃ id, shelf id = some segment

namespace Shelf.Lists

variable {shelf other : Shelf} {segments segments' : List Segment}

theorem unique (lists : shelf.Lists segments) (lists' : shelf.Lists segments') :
    segments = segments' :=
  eq_of_strictly_ordered Segment.Place.Before.asymm lists.ordered lists'.ordered
    fun segment => (lists.complete segment).trans (lists'.complete segment).symm

theorem mem_places (lists : shelf.Lists segments) {place : Segment.Place} :
    place ∈ segments.map Segment.place ↔ ∃ id, (shelf id).map Segment.place = some place := by
  simp only [List.mem_map, lists.complete, Option.map_eq_some_iff]
  exact ⟨fun ⟨segment, ⟨id, stands⟩, same⟩ => ⟨id, segment, stands, same⟩,
    fun ⟨id, segment, stands, same⟩ => ⟨segment, ⟨id, stands⟩, same⟩⟩

/-- Segments that keep their places make up lists with the same places. -/
theorem places_eq (lists : shelf.Lists segments) (lists' : other.Lists segments')
    (same : ∀ id, (shelf id).map Segment.place = (other id).map Segment.place) :
    segments.map Segment.place = segments'.map Segment.place := by
  have ordered : (segments.map Segment.place).Pairwise Segment.Place.Before :=
    List.pairwise_map.mpr lists.ordered
  have ordered' : (segments'.map Segment.place).Pairwise Segment.Place.Before :=
    List.pairwise_map.mpr lists'.ordered
  refine eq_of_strictly_ordered Segment.Place.Before.asymm ordered ordered' fun place => ?_
  simp only [lists.mem_places, lists'.mem_places, same]

end Shelf.Lists

namespace SegmentTable

variable {table : SegmentTable}

/-- The records of a table in some order. -/
def Enumerates (table : SegmentTable) (records : List Segment) : Prop :=
  records.Perm (table.records.toList.map (·.2))

theorem Enumerates.mem_iff {records : List Segment} (all : table.Enumerates records)
    {segment : Segment} : segment ∈ records ↔ ∃ id : SegmentId, table.records[id]? = some segment := by
  rw [List.Perm.mem_iff all]
  simp [Std.ExtTreeMap.mem_toList_iff_getElem?_eq_some]

/-- Every segment stands under its own id, so no two of them have the same one. -/
theorem Filed.ids_differ (filed : table.Filed) {records : List Segment}
    (all : table.Enumerates records) : records.Pairwise (·.id ≠ ·.id) := by
  refine (List.Perm.pairwise_iff Ne.symm all).mpr (List.pairwise_map.mpr ?_)
  refine Std.ExtTreeMap.distinct_keys_toList.imp_of_mem fun {a b} first second apart same => ?_
  have stands := Std.ExtTreeMap.mem_toList_iff_getElem?_eq_some.mp first
  have stands' := Std.ExtTreeMap.mem_toList_iff_getElem?_eq_some.mp second
  rw [filed a.1 a.2 stands, filed b.1 b.2 stands'] at same
  exact apart (Std.compare_eq_iff_eq.mpr same)

theorem Filed.list_of_enumerates (filed : table.Filed) {records : List Segment}
    (all : table.Enumerates records) (organization : OrganizationId) :
    table.list organization =
      (records.filter (·.organization == organization)).mergeSort Segment.listedBefore := by
  have sorted := List.pairwise_mergeSort Segment.listedBefore_trans Segment.listedBefore_total
  refine List.Perm.eq_of_pairwise (fun a b first second before after => ?_) (sorted _) (sorted _) ?_
  · -- neither comes before the other, so they have one id, and stand under it
    obtain ⟨under, found⟩ := mem_list_iff.mp first
    obtain ⟨under', stands⟩ := all.mem_iff.mp (List.mem_filter.mp (List.mem_mergeSort.mp second)).1
    have same := Segment.id_of_listedBefore before after
    rw [filed.id_of_find? found, filed under' b stands] at same
    rw [same] at found
    exact Option.some.inj ((find?_eq_some_iff.mp found).1.symm.trans stands)
  · have listed : (table.list organization).Perm
        ((table.records.toList.map (·.2)).filter (·.organization == organization)) :=
      List.mergeSort_perm _ Segment.listedBefore
    exact listed.trans ((all.symm.filter _).trans (List.mergeSort_perm _ _).symm)

theorem Filed.lists (filed : table.Filed) (organization : OrganizationId) :
    Shelf.Lists (table.find? organization) (table.list organization) where
  ordered := by
    have sorted := List.pairwise_mergeSort Segment.listedBefore_trans Segment.listedBefore_total
      ((table.records.toList.map (·.2)).filter (·.organization == organization))
    have differ := (List.Perm.pairwise_iff Ne.symm (List.mergeSort_perm _ Segment.listedBefore)).mpr
      ((filed.ids_differ (List.Perm.refl _)).filter (·.organization == organization))
    exact (sorted.and differ).imp fun both => Segment.before_of_listedBefore both.1 both.2
  complete := fun _ => mem_list_iff

end SegmentTable

end ContactSegments
