import ContactSegments.Settings.Environment

/-! # Places of settings

A value that is put at the end of a way is found there, and what is not on the way stays as it was.
The settings are read from what stands at their own places. Once a variable has put a value that is no
text below the keys of organizations, no keys are read from there.
-/

namespace ContactSegments

namespace SettingValue

/-- What a group has; other values have nothing. -/
def membersOf : SettingValue → List (String × SettingValue)
  | .group members => members
  | _ => []

/-- The value at the end of a way through groups. -/
def reach? : List String → SettingValue → Option SettingValue
  | [], value => some value
  | name :: names, value => (value.membersOf.lookup name).bind (reach? names)

theorem lookup_setMember_self (name : String) (value : SettingValue)
    (members : List (String × SettingValue)) :
    (setMember name value members).lookup name = some value := by
  induction members with
  | nil => simp [setMember]
  | cons member members ih =>
      obtain ⟨key, held⟩ := member
      by_cases same : key = name
      · simp [setMember, same]
      · have other : (name == key) = false := beq_false_of_ne (Ne.symm same)
        simp [setMember, same, List.lookup_cons, other, ih]

theorem lookup_setMember_of_ne {name other : String} (ne : other ≠ name) (value : SettingValue)
    (members : List (String × SettingValue)) :
    (setMember name value members).lookup other = members.lookup other := by
  have apart : (other == name) = false := beq_false_of_ne ne
  induction members with
  | nil => simp [setMember, List.lookup_cons, apart]
  | cons member members ih =>
      obtain ⟨key, held⟩ := member
      by_cases same : key = name
      · simp [setMember, same, List.lookup_cons, apart]
      · simp [setMember, same, List.lookup_cons, ih]

theorem place_member (value : SettingValue) (name : String) (way : List SettingStep)
    (held : SettingValue) :
    place value (.member name :: way) held =
      .group (setMember name
        (place value way ((held.membersOf.lookup name).getD .missing)) held.membersOf) := by
  cases held <;> rfl

/-- The rest of a way is gone from what stands at the place of its first names. -/
theorem reach?_place_append (names : List String) (way : List SettingStep)
    (value held : SettingValue) :
    reach? names (place value (names.map .member ++ way) held) =
      some (place value way ((reach? names held).getD .missing)) := by
  induction names generalizing held with
  | nil => rfl
  | cons name names ih =>
      rw [List.map_cons, List.cons_append, place_member, reach?, membersOf, lookup_setMember_self,
        Option.bind_some, ih, reach?]
      cases held.membersOf.lookup name with
      | none => cases names <;> rfl
      | some member => rfl

theorem reach?_place_self (names : List String) (value held : SettingValue) :
    reach? names (place value (names.map .member) held) = some value := by
  simpa [place] using reach?_place_append names [] value held

/-- The way turns off before it comes to the place of these names. -/
inductive Apart : List String → List SettingStep → Prop
  | here (ne : name ≠ other) : Apart (name :: names) (.member other :: way)
  | later (rest : Apart names way) : Apart (name :: names) (.member name :: way)

theorem reach?_place_of_apart {names : List String} {way : List SettingStep}
    (apart : Apart names way) (value held : SettingValue) :
    reach? names (place value way held) = reach? names held := by
  induction apart generalizing held with
  | here ne =>
      rw [place_member, reach?, reach?, membersOf, lookup_setMember_of_ne ne]
  | later rest ih =>
      rw [place_member, reach?, reach?, membersOf, lookup_setMember_self, Option.bind_some, ih]
      -- Nothing stands at a place below a missing value.
      cases held.membersOf.lookup _ with
      | none => cases rest <;> rfl
      | some member => rfl

theorem text?_place {value : SettingValue} (unfit : value.text? = none) (way : List SettingStep)
    (held : SettingValue) : (place value way held).text? = none := by
  cases way with
  | nil => exact unfit
  | cons step way => cases step <;> rfl

def groupNames : List String := ["api", "metrics", "segments", "tenants"]

/-- The value is a group, and so is what it has under the names of groups. -/
def Grouped (value : SettingValue) : Prop :=
  value = .group value.membersOf ∧
    ∀ name ∈ groupNames, ∀ member, value.membersOf.lookup name = some member →
      member = .group member.membersOf

theorem grouped_empty : Grouped (.group []) := ⟨rfl, nofun⟩

/-- A way that goes on after the name of a group, and goes on by a name. -/
def GoesOn : List SettingStep → Prop
  | .member name :: way => name ∈ groupNames → ∃ next rest, way = .member next :: rest
  | _ => False

theorem Grouped.place {held : SettingValue} (grouped : Grouped held) {way : List SettingStep}
    (goesOn : GoesOn way) (value : SettingValue) : Grouped (place value way held) := by
  obtain _ | ⟨⟨first⟩ | index, way⟩ := way
  · exact goesOn.elim
  · rw [place_member]
    refine ⟨rfl, fun name group member found => ?_⟩
    by_cases same : name = first
    · obtain ⟨next, rest, rfl⟩ := goesOn (same ▸ group)
      rw [same, membersOf, lookup_setMember_self, place_member] at found
      rw [← Option.some.inj found]
      rfl
    · rw [membersOf, lookup_setMember_of_ne same] at found
      exact grouped.2 name group member found
  · exact goesOn.elim

/-- A group of settings is read from its members, also where it has none. -/
theorem readOr_group {value : SettingValue} (grouped : Grouped value) (name : String)
    (group : name ∈ groupNames) {read : SettingValue → Option α} {standard : α}
    (empty : read (.group []) = some standard) :
    readOr (value.membersOf.lookup ·) name read standard =
      read (.group (((value.membersOf.lookup name).getD .missing).membersOf)) := by
  show (value.membersOf.lookup name).elim (some standard) read = _
  cases found : value.membersOf.lookup name with
  | none => exact empty.symm
  | some member =>
      show read member = read (.group member.membersOf)
      rw [← grouped.2 name group member found]

/-- The value at the place of a setting is read, or the standard one stands for it. -/
def readAt (value : SettingValue) (names : List String) (read : SettingValue → Option α)
    (standard : α) : Option α := (reach? names value).elim (some standard) read

theorem readAt_pair (value : SettingValue) (name next : String) (read : SettingValue → Option α)
    (standard : α) :
    readAt value [name, next] read standard =
      readOr ((((value.membersOf.lookup name).getD .missing).membersOf).lookup ·) next read
        standard := by
  unfold readAt readOr
  simp only [reach?]
  cases value.membersOf.lookup name with
  | none => rfl
  | some member =>
      simp only [Option.bind_some, Option.getD_some]
      cases member.membersOf.lookup next <;> rfl

theorem readAt_single (value : SettingValue) (name : String) (read : SettingValue → Option α)
    (standard : α) :
    readAt value [name] read standard = readOr (value.membersOf.lookup ·) name read standard := by
  unfold readAt readOr
  simp only [reach?]
  cases value.membersOf.lookup name <;> rfl

end SettingValue

open SettingValue

/-- What can be set, apart from the keys of organizations. -/
inductive Setting
  | nodeId
  | host
  | httpPort
  | metricsPort
  | defaultPageSize
  | maxPageSize
  | maxConditions
deriving DecidableEq

/-- The place of the group of the keys of organizations. -/
def keyNames : List String := ["tenants", "api_keys"]

namespace Setting

def all : List Setting :=
  [nodeId, host, httpPort, metricsPort, defaultPageSize, maxPageSize, maxConditions]

theorem mem_all (setting : Setting) : setting ∈ all := by
  cases setting <;> decide

/-- The names of the groups and of the setting at its place. -/
def names : Setting → List String
  | nodeId => ["node_id"]
  | host => ["api", "host"]
  | httpPort => ["api", "http_port"]
  | metricsPort => ["metrics", "port"]
  | defaultPageSize => ["segments", "default_page_size"]
  | maxPageSize => ["segments", "max_page_size"]
  | maxConditions => ["segments", "max_conditions"]

theorem goesOn (setting : Setting) : GoesOn (setting.names.map .member) := by
  cases setting <;> simp [names, GoesOn, groupNames]

theorem apart {one other : Setting} (ne : one ≠ other) :
    Apart one.names (other.names.map .member) := by
  cases one <;> cases other <;>
    first
    | exact absurd rfl ne
    | exact .here (by decide)
    | exact .later (.here (by decide))

theorem apart_keys (setting : Setting) (way : List SettingStep) :
    Apart setting.names (keyNames.map .member ++ way) := by
  cases setting <;> exact .here (by decide)

theorem keys_apart (setting : Setting) : Apart keyNames (setting.names.map .member) := by
  cases setting <;> exact .here (by decide)

end Setting

theorem Settings.ofValue?_of_grouped {value : SettingValue} (grouped : Grouped value) :
    Settings.ofValue? value = (do
      return ⟨← readAt value Setting.nodeId.names text? standard.nodeId,
        ⟨← readAt value Setting.host.names text? ApiSettings.standard.host,
          ← readAt value Setting.httpPort.names port? ApiSettings.standard.port⟩,
        ⟨← readAt value Setting.metricsPort.names port? MetricsSettings.standard.port⟩,
        ⟨← readAt value Setting.defaultPageSize.names word? Limits.standard.defaultPageSize,
          ← readAt value Setting.maxPageSize.names word? Limits.standard.maxPageSize,
          ← readAt value Setting.maxConditions.names word? Limits.standard.maxConditions⟩,
        ← readAt value keyNames KeyRing.ofKeys? .empty⟩) := by
  have opened : Settings.ofValue? value = (do
      return ⟨← readOr (value.membersOf.lookup ·) "node_id" text? standard.nodeId,
        ← readOr (value.membersOf.lookup ·) "api" ApiSettings.ofValue? .standard,
        ← readOr (value.membersOf.lookup ·) "metrics" MetricsSettings.ofValue? .standard,
        ← readOr (value.membersOf.lookup ·) "segments" Limits.ofValue? .standard,
        ← readOr (value.membersOf.lookup ·) "tenants" KeyRing.ofValue? .empty⟩) := by
    rw [grouped.1]
    rfl
  have api := readOr_group grouped "api" (by decide)
    (show ApiSettings.ofValue? (.group []) = some .standard from rfl)
  have metrics := readOr_group grouped "metrics" (by decide)
    (show MetricsSettings.ofValue? (.group []) = some .standard from rfl)
  have segments := readOr_group grouped "segments" (by decide)
    (show Limits.ofValue? (.group []) = some .standard from rfl)
  have tenants := readOr_group grouped "tenants" (by decide)
    (show KeyRing.ofValue? (.group []) = some .empty from rfl)
  rw [opened, api, metrics, segments, tenants]
  simp only [Setting.names, keyNames, readAt_pair, readAt_single, ApiSettings.ofValue?,
    MetricsSettings.ofValue?, Limits.ofValue?, KeyRing.ofValue?, parts?, Option.bind_eq_bind,
    Option.bind_some, Option.pure_def, Option.bind_assoc]

namespace KeyRing

/-- A group in which something does not fit as a text. -/
def Unfit (value : SettingValue) : Prop :=
  ∃ name member, value.membersOf.lookup name = some member ∧ member.text? = none

theorem ofKeys?_of_unfit {value : SettingValue} (unfit : Unfit value) : ofKeys? value = none := by
  obtain ⟨name, member, found, no_text⟩ := unfit
  have refused : value.membersOf.mapM ownerOf? = none := by
    generalize value.membersOf = members at found
    induction members with
    | nil => simp at found
    | cons entry members ih =>
        rw [List.mapM_cons]
        rw [List.lookup_cons] at found
        cases same : name == entry.1 with
        | true =>
            rw [same] at found
            have own : ownerOf? entry = none := by simp [ownerOf?, Option.some.inj found, no_text]
            rw [own]
            rfl
        | false =>
            rw [same] at found
            rw [ih found]
            cases ownerOf? entry <;> rfl
  cases value with
  | group members => exact congrArg (Option.map ofList) refused
  | _ => rfl

theorem ofList_ne_empty {entries : List (String × OrganizationId)} (some_entry : entries ≠ []) :
    ofList entries ≠ .empty := by
  intro same
  obtain ⟨front, last, rfl⟩ : ∃ front last, entries = front ++ [last] :=
    ⟨_, _, (List.dropLast_concat_getLast some_entry).symm⟩
  have found : (ofList (front ++ [last])).owners[last.1]? = some last.2 := by
    simp [ofList, insert]
  rw [same] at found
  simp [empty] at found

theorem unfit_place {value : SettingValue} (unfit : value.text? = none) (name : String)
    (way : List SettingStep) (held : SettingValue) :
    Unfit (place value (.member name :: way) held) := by
  rw [place_member]
  exact ⟨name, _, lookup_setMember_self _ _ _, text?_place unfit _ _⟩

end KeyRing

end ContactSegments
