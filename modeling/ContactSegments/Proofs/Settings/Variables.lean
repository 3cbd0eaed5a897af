import ContactSegments.Proofs.Settings.Name
import ContactSegments.Proofs.Settings.Number
import ContactSegments.Proofs.Uuid

/-! # Settings made from variables

Which settings are made from a set of variables, in whatever order they come. Ports and limits are
always what they are set to. The id of the node and the host are so just when their texts are single
values that are read as they are written: most texts are lists and fit neither of them. A variable for a
key of an organization never sets that key, since the text of an identifier is a list as well. Either no
settings are made because of it, or its name leads nowhere.
-/

namespace ContactSegments

open SettingValue Text

theorem Uuid.not_isSingle_text (id : Uuid) : ¬ IsSingle id.text := by
  have hyphens := length_le_count_hyphenated groups (hexDigits 32 id.value.val)
  have long := id.length_written
  refine not_isSingle_of_hyphens ?_ ?_
  · rw [Uuid.text, String.toList_ofList, written]
    have : groups.length = 5 := rfl
    omega
  · rw [Uuid.text, String.toList_ofList]
    omega

theorem Uuid.text?_ofText_text (id : Uuid) : (ofText id.text).text? = none :=
  Option.not_isSome_iff_eq_none.mp fun single =>
    id.not_isSingle_text ((text?_ofText_isSome_iff _).mp single)

/-- A variable for a setting and its text, or one for a key. -/
inductive Variable
  | forSetting (setting : Setting) (given : String)
  | forKey (key : TenantKey)

namespace Variable

/-- The name of the variable and its text. -/
def entry : Variable → String × String
  | .forSetting setting given => (setting.name, given)
  | .forKey key => (key.name, key.owner.text)

/-- What the variable makes of what is set already. -/
def put : Variable → SettingValue → SettingValue
  | .forSetting setting given => place (ofText given) (setting.names.map .member)
  | .forKey key => fun held =>
    key.way?.elim held fun way => place (ofText key.owner.text) (keyNames.map .member ++ way) held

/-- What is set by variables in their order. -/
def heldOf (order : List Variable) : SettingValue := ofEnvironment (order.map entry)

theorem heldOf_concat (order : List Variable) (last : Variable) :
    heldOf (order ++ [last]) = last.put (heldOf order) := by
  unfold heldOf ofEnvironment
  rw [List.map_append, List.foldl_append, List.map_singleton, List.foldl_cons, List.foldl_nil]
  cases last with
  | forSetting setting given =>
      simp only [entry, setting.ofName?_name]
      rfl
  | forKey key =>
      simp only [entry, key.ofName?_name, put]
      cases key.way? <;> rfl

theorem grouped_put (last : Variable) {held : SettingValue} (grouped : Grouped held) :
    Grouped (last.put held) := by
  cases last with
  | forSetting setting given => exact grouped.place setting.goesOn _
  | forKey key =>
      simp only [put]
      cases leads : key.way? with
      | none => exact grouped
      | some way =>
          obtain ⟨name, rest, rfl⟩ := TenantKey.exists_member_of_way? leads
          exact grouped.place (TenantKey.goesOn rest) _

/-- A setting changes with its own variable alone. -/
theorem reach?_put (setting : Setting) (last : Variable) (held : SettingValue) :
    ((∀ given, last ≠ .forSetting setting given) ∧
        reach? setting.names (last.put held) = reach? setting.names held) ∨
      ∃ given, last = .forSetting setting given ∧
        reach? setting.names (last.put held) = some (ofText given) := by
  cases last with
  | forSetting other given =>
      by_cases same : setting = other
      · subst same
        exact .inr ⟨given, rfl, reach?_place_self _ _ _⟩
      · refine .inl ⟨fun _ own => same ?_, reach?_place_of_apart (Setting.apart same) _ _⟩
        injection own with own
        exact own.symm
  | forKey key =>
      refine .inl ⟨nofun, ?_⟩
      simp only [put]
      cases key.way? with
      | none => rfl
      | some way => exact reach?_place_of_apart (setting.apart_keys way) _ _

theorem reach?_keyNames_put_setting (setting : Setting) (given : String) (held : SettingValue) :
    reach? keyNames ((Variable.forSetting setting given).put held) = reach? keyNames held :=
  reach?_place_of_apart (setting.keys_apart) _ _

theorem reach?_keyNames_put_key {key : TenantKey} (leads : key.way? ≠ none) (held : SettingValue) :
    ∃ value, reach? keyNames ((Variable.forKey key).put held) = some value ∧
      KeyRing.Unfit value := by
  obtain ⟨way, found⟩ := Option.ne_none_iff_exists'.mp leads
  obtain ⟨name, rest, rfl⟩ := TenantKey.exists_member_of_way? found
  simp only [put, found, Option.elim_some, reach?_place_append]
  exact ⟨_, rfl, KeyRing.unfit_place key.owner.text?_ofText_text name rest _⟩

theorem grouped_heldOf (order : List Variable) : Grouped (heldOf order) := by
  induction order using List.reverseRecOn with
  | nil => exact grouped_empty
  | append_singleton order last ih =>
      rw [heldOf_concat]
      exact grouped_put last ih

/-- A setting has a value just when a variable for it was there, and then that of such a variable. -/
theorem reach?_heldOf (setting : Setting) (order : List Variable) :
    ((∀ given, .forSetting setting given ∉ order) ∧
        reach? setting.names (heldOf order) = none) ∨
      ∃ given, .forSetting setting given ∈ order ∧
        reach? setting.names (heldOf order) = some (ofText given) := by
  -- from the end, since the last variable for a setting is the one that counts
  induction order using List.reverseRecOn with
  | nil => exact .inl ⟨fun _ => List.not_mem_nil, by cases setting <;> rfl⟩
  | append_singleton order last ih =>
      rw [heldOf_concat]
      obtain ⟨other, same⟩ | ⟨given, rfl, new⟩ := reach?_put setting last (heldOf order)
      · rw [same]
        obtain ⟨absent, unset⟩ | ⟨given, within, set⟩ := ih
        · refine .inl ⟨fun given within => ?_, unset⟩
          rcases List.mem_append.mp within with before | now
          · exact absent given before
          · exact other given (List.mem_singleton.mp now).symm
        · exact .inr ⟨given, List.mem_append_left _ within, set⟩
      · exact .inr ⟨given, List.mem_append_right _ (List.mem_singleton_self _), new⟩

/-- Once a key leads somewhere, what stands at the place of the keys is no group of texts any more. -/
theorem reach?_keyNames_heldOf (order : List Variable) :
    ((∀ key, .forKey key ∈ order → key.way? = none) ∧ reach? keyNames (heldOf order) = none) ∨
      (∃ key, .forKey key ∈ order ∧ key.way? ≠ none) ∧
        ∃ value, reach? keyNames (heldOf order) = some value ∧ KeyRing.Unfit value := by
  induction order using List.reverseRecOn with
  | nil => exact .inl ⟨fun _ within => absurd within List.not_mem_nil, rfl⟩
  | append_singleton order last ih =>
      rw [heldOf_concat]
      cases last with
      | forSetting setting given =>
          rw [reach?_keyNames_put_setting]
          simpa using ih
      | forKey key =>
          by_cases leads : key.way? = none
          · have kept : (Variable.forKey key).put (heldOf order) = heldOf order := by
              simp [put, leads]
            rw [kept]
            obtain ⟨lost, unset⟩ | ⟨⟨other, within, found⟩, unfit⟩ := ih
            · refine .inl ⟨fun other within => ?_, unset⟩
              rcases List.mem_append.mp within with before | now
              · exact lost other before
              · injection List.mem_singleton.mp now with same
                rw [same, leads]
            · exact .inr ⟨⟨other, List.mem_append_left _ within, found⟩, unfit⟩
          · exact .inr ⟨⟨key, by simp, leads⟩, reach?_keyNames_put_key leads _⟩

end Variable

/-- What variables are set to, at most once each. -/
structure Variables where
  nodeId : Option String := none
  host : Option String := none
  httpPort : Option (DecimalText portBound) := none
  metricsPort : Option (DecimalText portBound) := none
  defaultPageSize : Option (DecimalText signedWordBound) := none
  maxPageSize : Option (DecimalText signedWordBound) := none
  maxConditions : Option (DecimalText signedWordBound) := none
  keys : List TenantKey := []

namespace Variables

def given? (vars : Variables) : Setting → Option String
  | .nodeId => vars.nodeId
  | .host => vars.host
  | .httpPort => vars.httpPort.map DecimalText.text
  | .metricsPort => vars.metricsPort.map DecimalText.text
  | .defaultPageSize => vars.defaultPageSize.map DecimalText.text
  | .maxPageSize => vars.maxPageSize.map DecimalText.text
  | .maxConditions => vars.maxConditions.map DecimalText.text

/-- The variables in one of their orders. -/
def all (vars : Variables) : List Variable :=
  Setting.all.filterMap (fun setting => (vars.given? setting).map (.forSetting setting)) ++
    vars.keys.map .forKey

/-- The settings that the variables are set to, and the standard ones where none is set. -/
def asked (vars : Variables) : Settings where
  nodeId := vars.nodeId.getD Settings.standard.nodeId
  api := {
    host := vars.host.getD ApiSettings.standard.host
    port := vars.httpPort.elim ApiSettings.standard.port DecimalText.number }
  metrics := { port := vars.metricsPort.elim MetricsSettings.standard.port DecimalText.number }
  segments := {
    defaultPageSize :=
      vars.defaultPageSize.elim Limits.standard.defaultPageSize DecimalText.number
    maxPageSize := vars.maxPageSize.elim Limits.standard.maxPageSize DecimalText.number
    maxConditions := vars.maxConditions.elim Limits.standard.maxConditions DecimalText.number }
  tenants := .ofList (vars.keys.map fun key => (key.key, ⟨key.owner⟩))

/-- The text that a setting has once it is set, maybe, to another. -/
def readText? (set : Option String) (standard : String) : Option String :=
  set.elim (some standard) fun given => (ofText given).text?

/-- The settings that are made from the variables. -/
def made? (vars : Variables) : Option Settings := do
  let nodeId ← readText? vars.nodeId Settings.standard.nodeId
  let host ← readText? vars.host ApiSettings.standard.host
  if vars.keys.all (·.way?.isNone) then
    some { vars.asked with nodeId, api := { vars.asked.api with host }, tenants := .empty }
  else none

theorem forSetting_mem_all {vars : Variables} {setting : Setting} {given : String} :
    .forSetting setting given ∈ vars.all ↔ vars.given? setting = some given := by
  unfold all
  simp [Setting.mem_all]

theorem forKey_mem_all {vars : Variables} {key : TenantKey} :
    .forKey key ∈ vars.all ↔ key ∈ vars.keys := by
  unfold all
  simp

variable {vars : Variables} {order : List Variable}

theorem readAt_setting (perm : order.Perm vars.all) (setting : Setting) {set : Option String}
    (given : vars.given? setting = set) (read : SettingValue → Option α) (standard : α) :
    readAt (Variable.heldOf order) setting.names read standard =
      set.elim (some standard) fun text => read (ofText text) := by
  subst given
  unfold readAt
  obtain ⟨absent, unset⟩ | ⟨given, within, set⟩ := Variable.reach?_heldOf setting order
  · have nothing : vars.given? setting = none :=
      Option.eq_none_iff_forall_ne_some.mpr fun given set =>
        absent given (perm.mem_iff.mpr (forSetting_mem_all.mpr set))
    rw [unset, nothing]
    rfl
  · rw [set, forSetting_mem_all.mp (perm.mem_iff.mp within)]
    rfl

theorem readAt_keyNames (perm : order.Perm vars.all) :
    readAt (Variable.heldOf order) keyNames KeyRing.ofKeys? .empty =
      if vars.keys.all (·.way?.isNone) then some .empty else none := by
  unfold readAt
  obtain ⟨lost, unset⟩ | ⟨⟨key, within, leads⟩, value, set, unfit⟩ :=
    Variable.reach?_keyNames_heldOf order
  · have all_lost : vars.keys.all (·.way?.isNone) = true := by
      refine List.all_eq_true.mpr fun key within => Option.isNone_iff_eq_none.mpr ?_
      exact lost key (perm.mem_iff.mpr (forKey_mem_all.mpr within))
    rw [unset, if_pos all_lost]
    rfl
  · have one_leads : ¬ vars.keys.all (·.way?.isNone) = true := by
      intro all_lost
      have given := forKey_mem_all.mp (perm.mem_iff.mp within)
      exact leads (Option.isNone_iff_eq_none.mp (List.all_eq_true.mp all_lost key given))
    rw [set, if_neg one_leads]
    exact KeyRing.ofKeys?_of_unfit unfit

/-- A number is read as it is set. -/
theorem readAt_number (perm : order.Perm vars.all) (setting : Setting)
    {set : Option (DecimalText bound)} (given : vars.given? setting = set.map DecimalText.text)
    {read : SettingValue → Option Nat}
    (fits : ∀ n : DecimalText bound, read (ofText n.text) = some n.number) (standard : Nat) :
    readAt (Variable.heldOf order) setting.names read standard =
      some (set.elim standard DecimalText.number) := by
  rw [readAt_setting perm setting given]
  cases set with
  | none => rfl
  | some n => exact fits n

theorem port?_text (n : DecimalText portBound) : port? (ofText n.text) = some n.number :=
  n.natBelow?_text (by decide) (Nat.le_refl _)

theorem word?_text (n : DecimalText signedWordBound) : word? (ofText n.text) = some n.number :=
  n.natBelow?_text (Nat.le_refl _) (by decide)

theorem ofEnvironment?_eq_made? (perm : order.Perm vars.all) :
    Settings.ofEnvironment? (order.map Variable.entry) = vars.made? := by
  show Settings.ofValue? (Variable.heldOf order) = vars.made?
  have nodeId := readAt_setting perm .nodeId rfl text? Settings.standard.nodeId
  have host := readAt_setting perm .host rfl text? ApiSettings.standard.host
  have httpPort := readAt_number perm .httpPort rfl port?_text ApiSettings.standard.port
  have metricsPort := readAt_number perm .metricsPort rfl port?_text MetricsSettings.standard.port
  have defaultPageSize :=
    readAt_number perm .defaultPageSize rfl word?_text Limits.standard.defaultPageSize
  have maxPageSize := readAt_number perm .maxPageSize rfl word?_text Limits.standard.maxPageSize
  have maxConditions :=
    readAt_number perm .maxConditions rfl word?_text Limits.standard.maxConditions
  have keys := readAt_keyNames perm
  rw [Settings.ofValue?_of_grouped (Variable.grouped_heldOf order), nodeId, host, httpPort,
    metricsPort, defaultPageSize, maxPageSize, maxConditions, keys, made?]
  split_ifs <;> rfl

theorem readText?_isSome_iff {set : Option String} {standard : String} :
    (readText? set standard).isSome ↔ ∀ given ∈ set, IsSingle given := by
  cases set with
  | none => simp [readText?]
  | some given => simp [readText?, text?_ofText_isSome_iff]

theorem readText?_eq_getD_iff {set : Option String} {standard : String} :
    readText? set standard = some (set.getD standard) ↔ ∀ given ∈ set, ReadAsWritten given := by
  cases set with
  | none => simp [readText?]
  | some given => simp [readText?, ReadAsWritten]

theorem made?_eq_some_iff {settings : Settings} :
    vars.made? = some settings ↔
      ∃ nodeId host, readText? vars.nodeId Settings.standard.nodeId = some nodeId ∧
        readText? vars.host ApiSettings.standard.host = some host ∧
        (∀ key ∈ vars.keys, key.way? = none) ∧
        settings =
          { vars.asked with nodeId, api := { vars.asked.api with host }, tenants := .empty } := by
  have lost : vars.keys.all (·.way?.isNone) = true ↔ ∀ key ∈ vars.keys, key.way? = none := by
    simp only [List.all_eq_true, Option.isNone_iff_eq_none]
  unfold made?
  simp only [Option.bind_eq_bind, Option.bind_eq_some_iff, Option.ite_none_right_eq_some, lost,
    Option.some.injEq]
  constructor
  · rintro ⟨nodeId, node, host, at_host, keys, same⟩
    exact ⟨nodeId, host, node, at_host, keys, same.symm⟩
  · rintro ⟨nodeId, host, node, at_host, keys, same⟩
    exact ⟨nodeId, node, host, at_host, keys, same.symm⟩

theorem made?_isSome_iff :
    vars.made?.isSome ↔
      (∀ given ∈ vars.nodeId, IsSingle given) ∧ (∀ given ∈ vars.host, IsSingle given) ∧
        ∀ key ∈ vars.keys, key.way? = none := by
  rw [← readText?_isSome_iff, ← readText?_isSome_iff, Option.isSome_iff_exists,
    Option.isSome_iff_exists, Option.isSome_iff_exists]
  simp only [made?_eq_some_iff]
  constructor
  · intro ⟨_, nodeId, host, node, at_host, lost, _⟩
    exact ⟨⟨nodeId, node⟩, ⟨host, at_host⟩, lost⟩
  · intro ⟨⟨nodeId, node⟩, ⟨host, at_host⟩, lost⟩
    exact ⟨_, nodeId, host, node, at_host, lost, rfl⟩

theorem made?_eq_asked_iff :
    vars.made? = some vars.asked ↔
      vars.keys = [] ∧ (∀ given ∈ vars.nodeId, ReadAsWritten given) ∧
        ∀ given ∈ vars.host, ReadAsWritten given := by
  rw [made?_eq_some_iff, ← readText?_eq_getD_iff, ← readText?_eq_getD_iff]
  constructor
  · intro ⟨nodeId, host, node, at_host, _, same⟩
    have own_node : vars.asked.nodeId = nodeId := congrArg Settings.nodeId same
    have own_host : vars.asked.api.host = host := congrArg (·.api.host) same
    have no_tenants : vars.asked.tenants = .empty := congrArg Settings.tenants same
    refine ⟨?_, ?_, ?_⟩
    · by_contra some_key
      exact KeyRing.ofList_ne_empty (mt List.map_eq_nil_iff.mp some_key) no_tenants
    · rw [node, ← own_node]
      rfl
    · rw [at_host, ← own_host]
      rfl
  · intro ⟨no_keys, node, at_host⟩
    refine ⟨_, _, node, at_host, by simp [no_keys], ?_⟩
    unfold asked
    rw [no_keys]
    rfl

theorem made?_of_plain {key : TenantKey} (within : key ∈ vars.keys) (plain : key.Plain) :
    vars.made? = none := by
  refine Option.eq_none_iff_forall_ne_some.mpr fun settings made => ?_
  obtain ⟨_, _, _, _, lost, _⟩ := made?_eq_some_iff.mp made
  have leads := TenantKey.way?_of_plain plain
  rw [lost key within] at leads
  exact nomatch leads

/-- Variables make the settings that they are set to just when there is no key among them and the id
    of the node and the host are read as they are written. They make some settings just when these two
    are single values and no key leads anywhere; a plain key always does. -/
theorem honoured_iff (vars : Variables) {order : List Variable} (perm : order.Perm vars.all) :
    Settings.ofEnvironment? (order.map Variable.entry) = vars.made? ∧
    (vars.made? = some vars.asked ↔
      vars.keys = [] ∧ (∀ given ∈ vars.nodeId, ReadAsWritten given) ∧
        ∀ given ∈ vars.host, ReadAsWritten given) ∧
    (vars.made?.isSome ↔
      (∀ given ∈ vars.nodeId, IsSingle given) ∧ (∀ given ∈ vars.host, IsSingle given) ∧
        ∀ key ∈ vars.keys, SettingStep.ofName? key.name = none) ∧
    ∀ key ∈ vars.keys, key.Plain → vars.made? = none := by
  refine ⟨ofEnvironment?_eq_made? perm, made?_eq_asked_iff, ?_, fun _ => made?_of_plain⟩
  simp only [made?_isSome_iff, TenantKey.ofName?_name, Option.map_eq_none_iff]

end Variables

namespace NumberedNode

/-- A node with a number for its id, a port with a leading zero and the greatest limit. -/
def vars : Variables where
  nodeId := some "7"
  httpPort := some ⟨"0443", List.all_eq_true.mp (by decide), by decide, by decide⟩
  maxConditions :=
    some ⟨"9223372036854775807", List.all_eq_true.mp (by decide), by decide, by decide⟩

theorem honoured_in_reverse :
    vars.all.reverse.Perm vars.all ∧
      ReadAsWritten "7" ∧
      Settings.ofEnvironment?
          [("AUDIENCE__SEGMENTS__MAX_CONDITIONS", "9223372036854775807"),
            ("AUDIENCE__API__HTTP_PORT", "0443"), ("AUDIENCE__NODE_ID", "7")] =
        some ⟨"7", ⟨"0.0.0.0", 443⟩, ⟨9091⟩,
          ⟨100, 1000, 9223372036854775807⟩, .empty⟩ := by
  have reversed : vars.all.reverse.Perm vars.all := List.reverse_perm _
  have number : ReadAsWritten "7" := by
    unfold ReadAsWritten
    decide +kernel
  obtain ⟨made, honoured, _⟩ := Variables.honoured_iff vars reversed
  refine ⟨reversed, number, made.trans (honoured.mpr ⟨rfl, ?_, nofun⟩)⟩
  intro given set
  rwa [← Option.some.inj set]

end NumberedNode

namespace NamedNode

def vars : Variables := { nodeId := some "node-07" }

/-- A name in lower case is a text as good as any, but no settings are made with it, and none with a
    key of an organization either. -/
theorem name_refused :
    fold "node-07" = "node-07" ∧ vars.asked.nodeId = "node-07" ∧
      Settings.ofEnvironment? (vars.all.map Variable.entry) = none ∧
      Settings.ofEnvironment? [("AUDIENCE__TENANTS__API_KEYS__key-a",
        "0b8f4c1e-2f3a-4d5b-8c6d-7e8f9a0b1c2d")] = none := by
  decide +kernel

end NamedNode

end ContactSegments
