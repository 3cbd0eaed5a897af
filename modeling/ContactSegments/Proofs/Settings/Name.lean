import ContactSegments.Proofs.Settings.Place
import ContactSegments.Proofs.Text.Folding
import Mathlib.Data.List.TakeWhile

/-! # Names of variables

The name of a variable leads to the place of the setting that it is named for, and nowhere near the
place of another. The name for a key of an organization leads below the group of the keys, or nowhere
when the key cannot stand for members and items.
-/

namespace ContactSegments

open SettingStep SettingValue Text

namespace Setting

/-- The name of the variable for the setting. -/
def name : Setting → String
  | nodeId => "AUDIENCE__NODE_ID"
  | host => "AUDIENCE__API__HOST"
  | httpPort => "AUDIENCE__API__HTTP_PORT"
  | metricsPort => "AUDIENCE__METRICS__PORT"
  | defaultPageSize => "AUDIENCE__SEGMENTS__DEFAULT_PAGE_SIZE"
  | maxPageSize => "AUDIENCE__SEGMENTS__MAX_PAGE_SIZE"
  | maxConditions => "AUDIENCE__SEGMENTS__MAX_CONDITIONS"

theorem ofName?_name (setting : Setting) :
    ofName? setting.name = some (setting.names.map .member) := by
  cases setting <;> decide +kernel

end Setting

/-- A key in lower case, in which no two underscores stand together, for an organization. -/
structure TenantKey where
  key : String
  owner : Uuid
  lower : folded key.toList = key.toList
  joined : ¬ ['_', '_'] <:+: key.toList

namespace TenantKey

def name (key : TenantKey) : String := "AUDIENCE__TENANTS__API_KEYS__" ++ key.key

/-- The way from the group of the keys, if the key has one. -/
def way? (key : TenantKey) : Option (List SettingStep) :=
  ((splitOn '.' key.key.toList).mapM ofPart?).map List.flatten

theorem pointed_of_joined {cs : List Char} (joined : ¬ ['_', '_'] <:+: cs) : pointed cs = cs := by
  fun_induction pointed cs with
  | case1 cs ih => exact absurd (List.prefix_append _ _).isInfix joined
  | case2 c cs more ih =>
      rw [ih fun within => joined (within.trans (List.suffix_cons c cs).isInfix)]
  | case3 => rfl

theorem folded_name (key : TenantKey) :
    folded key.name.toList = mark ++ ("tenants__api_keys__".toList ++ key.key.toList) := by
  have front : folded "AUDIENCE__TENANTS__API_KEYS__".toList =
      mark ++ "tenants__api_keys__".toList := by decide +kernel
  have plain : capitalSigma ∉ "AUDIENCE__TENANTS__API_KEYS__".toList := by decide +kernel
  calc folded key.name.toList
      _ = folded ("AUDIENCE__TENANTS__API_KEYS__".toList ++ key.key.toList) :=
        congrArg folded String.toList_append
      _ = folded "AUDIENCE__TENANTS__API_KEYS__".toList ++ key.key.toList :=
        folded_append_of_folded plain key.lower
      _ = mark ++ "tenants__api_keys__".toList ++ key.key.toList := congrArg (· ++ _) front
      _ = mark ++ ("tenants__api_keys__".toList ++ key.key.toList) := List.append_assoc ..

theorem pointed_keyNames (cs : List Char) :
    pointed ("tenants__api_keys__".toList ++ cs) = "tenants.api_keys.".toList ++ pointed cs := by
  simp only [String.reduceToList, List.cons_append, List.nil_append]
  rfl

theorem splitOn_keyNames (cs : List Char) :
    splitOn '.' ("tenants.api_keys.".toList ++ cs) =
      "tenants".toList :: "api_keys".toList :: splitOn '.' cs := by
  simp only [String.reduceToList, List.cons_append, List.nil_append]
  rfl

theorem ofName?_name (key : TenantKey) :
    ofName? key.name = key.way?.map (keyNames.map .member ++ ·) := by
  have marked : mark.isPrefixOf (folded key.name.toList) = true := by
    rw [folded_name]
    exact List.isPrefixOf_iff_prefix.mpr (List.prefix_append _ _)
  unfold ofName?
  dsimp only
  rw [if_pos marked, folded_name, List.drop_left, pointed_keyNames, pointed_of_joined key.joined,
    splitOn_keyNames, List.mapM_cons, List.mapM_cons,
    show ofPart? "tenants".toList = some [.member "tenants"] by decide +kernel,
    show ofPart? "api_keys".toList = some [.member "api_keys"] by decide +kernel, way?]
  cases (splitOn '.' key.key.toList).mapM ofPart? <;> rfl

theorem exists_member_of_ofPart? {part : List Char} {steps : List SettingStep}
    (read : ofPart? part = some steps) : ∃ name rest, steps = .member name :: rest := by
  unfold ofPart? at read
  dsimp only at read
  split_ifs at read
  · exact nomatch read
  · obtain ⟨indices, found, same⟩ := Option.bind_eq_some_iff.mp read
    exact ⟨_, indices, (Option.some.inj same).symm⟩

theorem splitOn_ne_nil (separator : Char) (cs : List Char) : splitOn separator cs ≠ [] := by
  fun_induction splitOn separator cs <;> simp

theorem exists_member_of_way? {key : TenantKey} {way : List SettingStep}
    (leads : key.way? = some way) : ∃ name rest, way = .member name :: rest := by
  obtain ⟨part, parts, split⟩ := List.exists_cons_of_ne_nil (splitOn_ne_nil '.' key.key.toList)
  obtain ⟨pieces, read, rfl⟩ := Option.map_eq_some_iff.mp leads
  rw [split, List.mapM_cons] at read
  obtain ⟨steps, first, others⟩ := Option.bind_eq_some_iff.mp read
  obtain ⟨more, -, same⟩ := Option.bind_eq_some_iff.mp others
  obtain ⟨name, rest, rfl⟩ := exists_member_of_ofPart? first
  exact ⟨name, rest ++ more.flatten, by rw [← Option.some.inj same]; rfl⟩

theorem goesOn (way : List SettingStep) {name : String} :
    GoesOn (keyNames.map .member ++ .member name :: way) :=
  fun _ => ⟨"api_keys", .member name :: way, rfl⟩

/-- A key of characters that names are made of stands for one member. -/
def Plain (key : TenantKey) : Prop :=
  key.key.toList ≠ [] ∧ ∀ c ∈ key.key.toList, isNameChar c = true

theorem splitOn_of_notMem {separator : Char} {cs : List Char} (absent : separator ∉ cs) :
    splitOn separator cs = [cs] := by
  induction cs with
  | nil => rfl
  | cons c cs ih =>
      obtain ⟨ne, others⟩ := not_or.mp (mt List.mem_cons.mpr absent)
      simp [splitOn, Ne.symm ne, ih others]

theorem way?_of_plain {key : TenantKey} (plain : key.Plain) :
    key.way? = some [.member key.key] := by
  obtain ⟨some_char, named⟩ := plain
  have whole : splitOn '.' key.key.toList = [key.key.toList] :=
    splitOn_of_notMem fun point => absurd (named _ point) (by decide)
  have all : key.key.toList.takeWhile isNameChar = key.key.toList :=
    List.takeWhile_eq_self_iff.mpr named
  have none_left : key.key.toList.dropWhile isNameChar = [] :=
    List.dropWhile_eq_nil_iff.mpr named
  have part : ofPart? key.key.toList = some [.member key.key] := by
    simp [ofPart?, all, none_left, some_char, splitOn]
  rw [way?, whole, List.mapM_cons, part]
  rfl

end TenantKey

end ContactSegments
