import ContactSegments.Settings.Basic
import ContactSegments.Settings.Value

/-! # Settings from the environment

A variable belongs to the settings when its name, in any case, starts with `AUDIENCE__`. Two
underscores separate the groups in the rest of the name, so `AUDIENCE__API__HTTP_PORT` is the port
of the group `api`. Names that lead nowhere set nothing.
-/

namespace ContactSegments

open Text

/-- A step from a group to one of its members, or from a list to one of its items. A negative index
    counts from the end of the list. -/
inductive SettingStep
  | member (name : String)
  | item (index : Int)
deriving DecidableEq, Repr

namespace SettingStep

/-- The characters of the names of groups and settings. -/
def isNameChar (c : Char) : Bool := c.isAlphanum || c == ' ' || c == '_' || c == '-'

def isGap (c : Char) : Bool := c == ' ' || c == '\t'

/-- The text without gaps at its ends. -/
def withoutGaps (cs : List Char) : List Char :=
  ((cs.dropWhile isGap).reverse.dropWhile isGap).reverse

/-- An index whose closing bracket is already taken off. A plus sign may not stand before it. -/
def ofIndex? : List Char → Option SettingStep
  | '[' :: cs =>
    match withoutGaps cs with
    | '+' :: _ => none
    | number => (SettingValue.wholeOf? number).map .item
  | _ => none

/-- A name and the indices after it. -/
def ofPart? (part : List Char) : Option (List SettingStep) := do
  let name := part.takeWhile isNameChar
  let pieces := splitOn ']' (part.dropWhile isNameChar)
  if name.isEmpty || pieces.getLast? != some [] then none
  let indices ← pieces.dropLast.mapM ofIndex?
  return .member (String.ofList name) :: indices

/-- The text with a point in place of every two underscores. -/
def pointed : List Char → List Char
  | '_' :: '_' :: cs => '.' :: pointed cs
  | c :: cs => c :: pointed cs
  | [] => []

/-- The start of the names that belong to the settings, in lower case. -/
def mark : List Char := "audience__".toList

/-- The way to the setting that a variable of this name sets, if it sets one. -/
def ofName? (name : String) : Option (List SettingStep) :=
  let lower := folded name.toList
  if mark.isPrefixOf lower then
    ((splitOn '.' (pointed (lower.drop mark.length))).mapM ofPart?).map List.flatten
  else none

end SettingStep

namespace SettingValue

/-- Puts a value under a name, in place of any other. -/
def setMember (name : String) (value : SettingValue) :
    List (String × SettingValue) → List (String × SettingValue)
  | [] => [(name, value)]
  | (key, held) :: members =>
    if key = name then (name, value) :: members
    else (key, held) :: setMember name value members

/-- The items with a place at an index, and that place. Where the list is too short, at its end or
    for a negative index at its front, it is filled up with missing items. -/
def withPlace (index : Int) (items : List SettingValue) : List SettingValue × Nat :=
  if 0 ≤ index then
    (items ++ List.replicate (index.toNat + 1 - items.length) .missing, index.toNat)
  else
    (List.replicate (index.natAbs - items.length) .missing ++ items,
      items.length - index.natAbs)

/-- Puts a value at the end of a way. What stands on the way and is not of the needed kind is
    replaced. -/
def place (value : SettingValue) : List SettingStep → SettingValue → SettingValue
  | [], _ => value
  | .member name :: way, held =>
    let members := match held with
      | .group members => members
      | _ => []
    .group (setMember name (place value way ((members.lookup name).getD .missing)) members)
  | .item index :: way, held =>
    let items := match held with
      | .list items => items
      | _ => []
    let (items, n) := withPlace index items
    .list (items.set n (place value way (items.getD n .missing)))

/-- All settings that variables set, given by name and text and taken in their order. -/
def ofEnvironment (entries : List (String × String)) : SettingValue :=
  entries.foldl
    (fun held entry =>
      match SettingStep.ofName? entry.1 with
      | some way => place (.ofText entry.2) way held
      | none => held)
    (.group [])

/-- The value under a name, or the standard one when nothing is set there. -/
def readOr (parts : String → Option SettingValue) (name : String)
    (read : SettingValue → Option α) (standard : α) : Option α :=
  (parts name).elim (some standard) read

def port? (value : SettingValue) : Option Nat := value.natBelow? portBound

def word? (value : SettingValue) : Option Nat := value.natBelow? wordBound

end SettingValue

open SettingValue

def ApiSettings.ofValue? (value : SettingValue) : Option ApiSettings := do
  let parts ← value.parts? ["host", "http_port"]
  return ⟨← readOr parts "host" text? standard.host,
    ← readOr parts "http_port" port? standard.port⟩

def MetricsSettings.ofValue? (value : SettingValue) : Option MetricsSettings := do
  let parts ← value.parts? ["port"]
  return ⟨← readOr parts "port" port? standard.port⟩

def Limits.ofValue? (value : SettingValue) : Option Limits := do
  let parts ← value.parts? ["default_page_size", "max_page_size", "max_conditions"]
  return ⟨← readOr parts "default_page_size" word? standard.defaultPageSize,
    ← readOr parts "max_page_size" word? standard.maxPageSize,
    ← readOr parts "max_conditions" word? standard.maxConditions⟩

/-- The organization of a key, whose id is read from the text of the value. -/
def KeyRing.ownerOf? (entry : String × SettingValue) : Option (String × OrganizationId) := do
  return (entry.1, ⟨← Uuid.ofText? (← entry.2.text?)⟩)

/-- The keys are the names in a group. -/
def KeyRing.ofKeys? : SettingValue → Option KeyRing
  | .group members => (members.mapM ownerOf?).map ofList
  | _ => none

def KeyRing.ofValue? (value : SettingValue) : Option KeyRing := do
  let parts ← value.parts? ["api_keys"]
  readOr parts "api_keys" ofKeys? .empty

def Settings.ofValue? (value : SettingValue) : Option Settings := do
  let parts ← value.parts? ["node_id", "api", "metrics", "segments", "tenants"]
  return ⟨← readOr parts "node_id" text? standard.nodeId,
    ← readOr parts "api" ApiSettings.ofValue? .standard,
    ← readOr parts "metrics" MetricsSettings.ofValue? .standard,
    ← readOr parts "segments" Limits.ofValue? .standard,
    ← readOr parts "tenants" KeyRing.ofValue? .empty⟩

/-- The settings that variables make, of which each is a name and a text. None if a value does not
    fit its setting. -/
def Settings.ofEnvironment? (entries : List (String × String)) : Option Settings :=
  Settings.ofValue? (SettingValue.ofEnvironment entries)

end ContactSegments
