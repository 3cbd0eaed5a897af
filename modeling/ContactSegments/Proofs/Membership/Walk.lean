import ContactSegments.Proofs.ContactBook
import ContactSegments.Proofs.Membership.Page
import ContactSegments.Proofs.Service.Reading

/-! # Walks through members

The members that a predicate has are counted, shown page by page, and found again by whoever follows
the pages from the first one on. A walk goes on where the page before it ends, so the parts that the
pages show stand one after the other in the list of members, and each page but the last gets closer
to its end.
-/

namespace ContactSegments

open ContactSegments.Action

namespace Page

variable (page : Page) (ids : List ContactId)

theorem slice_append_drop :
    page.slice ids ++ ids.drop (page.offset + (page.slice ids).length) = ids.drop page.offset := by
  have start : page.slice ids = (ids.drop page.offset).take (page.slice ids).length :=
    List.prefix_iff_eq_take.mp (List.take_prefix _ _)
  rw [← List.drop_drop]
  nth_rewrite 1 [start]
  exact List.take_append_drop _ _

/-- When no page follows, this one shows all that is left. -/
theorem slice_of_next?_none {page : Page} {ids : List ContactId} (room : 1 ≤ page.limit)
    (last : page.next? ids = none) : page.slice ids = ids.drop page.offset := by
  have parts := page.slice_append_drop ids
  have ended : ids.drop (page.offset + (page.slice ids).length) = [] := by
    rw [List.drop_eq_nil_iff]
    unfold next? at last
    split at last
    · cases last
    · rename_i stopped
      by_cases nothing : page.slice ids = []
      · -- room is left on the page, so there was nothing to show
        have size := congrArg List.length nothing
        simp only [slice, List.length_take, List.length_drop, List.length_nil] at size
        omega
      · exact Nat.le_of_not_lt fun more => stopped ⟨nothing, more⟩
  rw [ended, List.append_nil] at parts
  exact parts

theorem of_next?_some {page : Page} {ids : List ContactId} {next : Nat}
    (follows : page.next? ids = some next) :
    next = page.offset + (page.slice ids).length ∧ page.offset < next ∧ next < ids.length := by
  unfold next? at follows
  split at follows
  · rename_i shown
    cases follows
    have more : 0 < (page.slice ids).length := List.length_pos_iff.mpr shown.1
    exact ⟨rfl, by omega, shown.2⟩
  · cases follows

end Page

section

variable {world : World} (working : world.contactOutage = none)

include working

theorem Action.perform_countMatches_of_working (predicate : Predicate) :
    ((countMatches predicate).perform world).1 = .ok (world.contacts.members predicate).length := by
  have counted : (world.contacts.query predicate .countOnly).total =
      (world.contacts.members predicate).length := by
    rw [ContactBook.members, List.length_map]
    rfl
  unfold Action.countMatches
  rw [perform_bind, perform_measured, working]
  exact congrArg Except.ok counted

/-- A page that can be shown shows its part of the ids. -/
theorem Engine.perform_pageMatches_of_working {engine : Engine} {page : Page}
    (legal : page.check engine.limits.maxPageSize = .ok ()) (predicate : Predicate) :
    ((engine.pageMatches predicate page).perform world).1 =
      .ok (QueryResult.toPage ⟨(world.contacts.members predicate).length,
        page.slice (world.contacts.members predicate)⟩ page.offset) := by
  have found : world.contacts.query predicate (.page page) =
      ⟨(world.contacts.members predicate).length, page.slice (world.contacts.members predicate)⟩ :=
    page.foldl_visit _
  unfold Engine.pageMatches
  rw [legal]
  dsimp only
  rw [perform_bind, perform_measured, working]
  dsimp only
  rw [found, perform_pure]

end

/-- Queries work, and these are the ids of the contacts that the predicate matches. There are not more
    of them than a word can count. -/
structure World.Lists (world : World) (predicate : Predicate) (ids : List ContactId) : Prop where
  working : world.contactOutage = none
  members : world.contacts.members predicate = ids
  counted : ids.length < wordBound

namespace World.Lists

variable {world : World} {predicate : Predicate} {ids : List ContactId}

theorem of_sameStores {after : World} (lists : world.Lists predicate ids)
    (same : world.SameStores after) : after.Lists predicate ids where
  working := same.contactOutage ▸ lists.working
  members := same.contacts ▸ lists.members
  counted := lists.counted

theorem countMatches (lists : world.Lists predicate ids) :
    ((countMatches predicate).perform world).1 = .ok ids.length := by
  rw [perform_countMatches_of_working lists.working, lists.members]

theorem pageMatches {engine : Engine} {page : Page} (lists : world.Lists predicate ids)
    (legal : page.check engine.limits.maxPageSize = .ok ()) :
    ((engine.pageMatches predicate page).perform world).1 =
      .ok ⟨page.slice ids, ids.length, page.offset, page.next? ids⟩ := by
  rw [Engine.perform_pageMatches_of_working lists.working legal, lists.members,
    page.toPage_slice lists.counted]

end World.Lists

namespace Engine

/-- The page at an offset with the limit that is asked for, or else with the standard one. -/
def pageAt (engine : Engine) (offset : Nat) : Option Nat → Page
  | some limit => ⟨offset, limit⟩
  | none => engine.defaultPage offset

/-- Pages with this limit can be shown. -/
def Allows (engine : Engine) : Option Nat → Prop
  | some limit => 1 ≤ limit ∧ limit ≤ engine.limits.maxPageSize
  | none => 1 ≤ engine.limits.defaultPageSize ∧ 1 ≤ engine.limits.maxPageSize

variable {engine : Engine}

theorem offset_pageAt (engine : Engine) (offset : Nat) (limit : Option Nat) :
    (engine.pageAt offset limit).offset = offset := by
  cases limit <;> rfl

theorem Allows.limit_pageAt {limit : Option Nat} (allowed : engine.Allows limit) (offset : Nat) :
    1 ≤ (engine.pageAt offset limit).limit ∧
      (engine.pageAt offset limit).limit ≤ engine.limits.maxPageSize := by
  cases limit with
  | some limit => exact allowed
  | none =>
      obtain ⟨standard, most⟩ := allowed
      simp only [pageAt, defaultPage]
      omega

/-- Pages one after the other from an offset on, each with the next of the limits and each where the
    one before ends. The offset that is left is that of a page for which there was no limit. -/
def walk (engine : Engine) (predicate : Predicate) :
    List (Option Nat) → Nat → Action (List MemberPage × Option Nat)
  | [], offset => return ([], some offset)
  | limit :: limits, offset => do
    let page ← engine.pageMatches predicate (engine.pageAt offset limit)
    match page.nextOffset with
    | none => return ([page], none)
    | some next =>
      let (pages, left) ← engine.walk predicate limits next
      return (page :: pages, left)

/-- What the pages of a walk show and what is left make up the members from the start of the walk on.
    Nothing is left when there are more limits than members ahead. -/
theorem perform_walk {world : World} {predicate : Predicate} {ids : List ContactId}
    {limits : List (Option Nat)} (lists : world.Lists predicate ids)
    (allowed : ∀ limit ∈ limits, engine.Allows limit) (offset : Nat) :
    ∃ pages left, ((engine.walk predicate limits offset).perform world).1 = .ok (pages, left) ∧
      pages.flatMap (·.ids) ++ left.elim [] ids.drop = ids.drop offset ∧
      (ids.length - offset < limits.length → left = none) := by
  induction limits generalizing world offset with
  | nil => exact ⟨[], some offset, rfl, rfl, fun enough => absurd enough (Nat.not_lt_zero _)⟩
  | cons limit limits ih =>
      obtain ⟨now, later⟩ := List.forall_mem_cons.mp allowed
      have size := now.limit_pageAt offset
      have starts := engine.offset_pageAt offset limit
      have reads := engine.reads_pageMatches predicate (engine.pageAt offset limit) world
      have shown := lists.pageMatches (Page.check_eq_ok _ size.1 size.2)
      rcases done : (engine.pageMatches predicate (engine.pageAt offset limit)).perform world with
        ⟨result, after⟩
      rw [done] at reads shown
      cases shown
      unfold walk
      rw [perform_bind_ok done]
      cases follows : (engine.pageAt offset limit).next? ids with
      | none =>
          refine ⟨_, none, rfl, ?_, fun _ => rfl⟩
          simp [Page.slice_of_next?_none size.1 follows, starts]
      | some next =>
          obtain ⟨ends, further, within⟩ := Page.of_next?_some follows
          rw [starts] at ends further
          obtain ⟨pages, left, walked, parts, stops⟩ := ih (lists.of_sameStores reads) later next
          dsimp only
          rcases rest : (engine.walk predicate limits next).perform after with ⟨result, final⟩
          rw [rest] at walked
          cases walked
          rw [perform_bind_ok rest]
          refine ⟨_, left, rfl, ?_, fun enough => stops ?_⟩
          · rw [List.flatMap_cons, List.append_assoc, parts, ends]
            have whole := (engine.pageAt offset limit).slice_append_drop ids
            rw [starts] at whole
            exact whole
          · -- the next page starts further on and still before the end
            rw [List.length_cons] at enough
            omega

theorem perform_pageMatches_empty {predicate : Predicate} {page : Page} (empty : page.limit = 0)
    (world : World) :
    (engine.pageMatches predicate page).perform world =
      (.error (.validation ⟨none, .emptyPage⟩), world) := by
  unfold pageMatches Page.check
  rw [if_pos empty]
  rfl

theorem perform_pageMatches_large {predicate : Predicate} {page : Page}
    (large : engine.limits.maxPageSize < page.limit) (world : World) :
    (engine.pageMatches predicate page).perform world =
      (.error (.validation ⟨none, .pageTooLarge page.limit engine.limits.maxPageSize⟩), world) := by
  unfold pageMatches Page.check
  rw [if_neg (by omega), if_pos large]
  rfl

/-- The contacts that a predicate matches are counted, shown page by page and found by walks through
    the pages alike. A page that cannot be shown is refused before any query. The contacts of one
    organization are as many as a word can count. -/
theorem count_pages_walks (engine : Engine) {world : World} {predicate : Predicate}
    (reachable : world.contacts.Reachable) (working : world.contactOutage = none)
    (counted : (world.contacts.contactsOf predicate.organization).size < wordBound) :
    ∃ ids : List ContactId,
      ids.Pairwise (fun a b => compare a b = .lt) ∧
      (∀ id, id ∈ ids ↔ ∃ contact,
        world.contacts.find? predicate.organization id = some contact ∧
          predicate.holds contact = true) ∧
      ((countMatches predicate).perform world).1 = .ok ids.length ∧
      (∀ offset limit, engine.Allows limit →
        let page := engine.pageAt offset limit
        ((engine.pageMatches predicate page).perform world).1 =
          .ok ⟨page.slice ids, ids.length, offset, page.next? ids⟩) ∧
      (∀ page, page.limit = 0 →
        (engine.pageMatches predicate page).perform world =
          (.error (.validation ⟨none, .emptyPage⟩), world)) ∧
      (∀ page, engine.limits.maxPageSize < page.limit →
        (engine.pageMatches predicate page).perform world =
          (.error (.validation ⟨none, .pageTooLarge page.limit engine.limits.maxPageSize⟩), world)) ∧
      (∀ limits, (∀ limit ∈ limits, engine.Allows limit) → ids.length < limits.length →
        ∃ pages, ((engine.walk predicate limits 0).perform world).1 = .ok (pages, none) ∧
          pages.flatMap (·.ids) = ids) := by
  have filed := reachable.filed
  have lists : world.Lists predicate (world.contacts.members predicate) :=
    ⟨working, rfl, Nat.lt_of_le_of_lt (world.contacts.length_members_le predicate) counted⟩
  refine ⟨world.contacts.members predicate, filed.members_ascending predicate,
    fun id => filed.mem_members_iff, lists.countMatches, ?_, fun page empty =>
    perform_pageMatches_empty empty world, fun page large => perform_pageMatches_large large world, ?_⟩
  · intro offset limit allowed
    have size := allowed.limit_pageAt offset
    have shown := lists.pageMatches (Page.check_eq_ok _ size.1 size.2)
    rw [engine.offset_pageAt] at shown
    exact shown
  · intro limits allowed enough
    obtain ⟨pages, left, walked, parts, stops⟩ := perform_walk lists allowed 0
    obtain rfl := stops enough
    exact ⟨pages, walked, by simpa using parts⟩

end Engine

namespace ThreeContacts

def owner : OrganizationId := ⟨10, by decide⟩

def added : Instant := .midnight ⟨2024, 3, 1, by decide⟩

def contacts : List Contact :=
  [.blank ⟨14, by decide⟩ owner added, .blank ⟨12, by decide⟩ owner added,
   .blank ⟨13, by decide⟩ owner added]

def world : World := { World.empty with contacts := ContactBook.empty.extend contacts }

/-- At most two contacts are shown on a page, and two when nothing else is asked for. -/
def engine : Engine := ⟨.standard, ⟨5, 2, 50⟩⟩

def everyone : Predicate := ⟨owner, []⟩

def limits : List (Option Nat) := [some 1, none, some 2, none]

theorem walk_ends :
    ∃ ids pages, ((Action.countMatches everyone).perform world).1 = .ok ids.length ∧
      ids.length = 3 ∧ ((engine.walk everyone limits 0).perform world).1 = .ok (pages, none) ∧
      pages.flatMap (·.ids) = ids := by
  have reachable : world.contacts.Reachable := .extend .empty contacts
  have counted : (world.contacts.contactsOf everyone.organization).size < wordBound := by
    decide +kernel
  have three : ((Action.countMatches everyone).perform world).1 = .ok 3 := rfl
  have allowed : ∀ limit ∈ limits, engine.Allows limit := by
    simp [limits, Engine.Allows, engine]
  obtain ⟨ids, -, -, count, -, -, -, walks⟩ := engine.count_pages_walks reachable rfl counted
  have size : ids.length = 3 := Except.ok.inj (count.symm.trans three)
  obtain ⟨pages, walked, shown⟩ := walks limits allowed (by rw [size]; decide)
  exact ⟨ids, pages, count, size, walked, shown⟩

end ThreeContacts

end ContactSegments
