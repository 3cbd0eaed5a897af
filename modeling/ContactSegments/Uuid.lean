import ContactSegments.Text.Hex
import Std.Data.ExtTreeMap

/-! # Identifiers

An identifier is a number of 128 bits. It is written as 32 hexadecimal digits in lower case with
hyphens after the first 8, 12, 16 and 20; it is also read without hyphens, in braces, or as a URN.
-/

namespace ContactSegments

/-- The number of identifiers. -/
abbrev uuidCount : Nat := 0x100000000000000000000000000000000

structure Uuid where
  value : Fin uuidCount
deriving DecidableEq

namespace Uuid

instance : Ord Uuid := ⟨compareOn value⟩

instance : Std.LawfulEqOrd Uuid where
  compare_self := Std.compare_self (α := Fin uuidCount)
  eq_of_compare {a b} h := by
    cases a; cases b
    exact congrArg mk (Std.compare_eq_iff_eq.mp h)

instance : Std.TransOrd Uuid :=
  inferInstanceAs (Std.TransCmp (compareOn value))

/-- The identifier whose bits are all zero. -/
def nil : Uuid := ⟨0⟩

/-- Lengths of the groups of digits between hyphens. -/
def groups : List Nat := [8, 4, 4, 4, 12]

/-- Digits in groups of the given lengths with hyphens between them. -/
def hyphenated : List Nat → List Char → List Char
  | [], _ => []
  | [n], cs => cs.take n
  | n :: ns, cs => cs.take n ++ '-' :: hyphenated ns (cs.drop n)

def written (id : Uuid) : List Char := hyphenated groups (Text.hexDigits 32 id.value.val)

def text (id : Uuid) : String := String.ofList id.written

/-- The identifier with these digits, of which there are 32. -/
def ofDigits? (cs : List Char) : Option Uuid := do
  let n ← Text.hexNumber? 0 cs
  if h : cs.length = 32 ∧ n < uuidCount then some ⟨⟨n, h.2⟩⟩ else none

/-- The text without the hyphens that stand between groups of the given lengths. -/
def unhyphenated? : List Nat → List Char → Option (List Char)
  | [], cs => if cs.isEmpty then some [] else none
  | [n], cs => if cs.length = n then some cs else none
  | n :: ns, cs =>
    match cs.drop n with
    | '-' :: rest => (unhyphenated? ns rest).map (cs.take n ++ ·)
    | _ => none

/-- The start of an identifier that is written as a URN, in either case. -/
def urnMark : List Char := ['u', 'r', 'n', ':', 'u', 'u', 'i', 'd', ':']

def ofHyphenated? (cs : List Char) : Option Uuid := do ofDigits? (← unhyphenated? groups cs)

def ofChars? (cs : List Char) : Option Uuid :=
  if cs.length = 32 then ofDigits? cs
  else if cs.length = 36 then ofHyphenated? cs
  else if cs.length = 38 ∧ cs.head? = some '\x7b' ∧ cs.getLast? = some '\x7d' then
    ofHyphenated? (cs.drop 1).dropLast
  else if cs.length = 45 ∧ (cs.take 9).map Char.toLower = urnMark then ofHyphenated? (cs.drop 9)
  else none

def ofText? (s : String) : Option Uuid := ofChars? s.toList

end Uuid

abbrev ContactId := Uuid

abbrev SegmentId := Uuid

/-- The organization that owns a record. It never comes out of the content of a request. -/
structure OrganizationId where
  uuid : Uuid
deriving DecidableEq

namespace OrganizationId

instance : Ord OrganizationId := ⟨compareOn uuid⟩

instance : Std.LawfulEqOrd OrganizationId where
  compare_self := Std.compare_self (α := Uuid)
  eq_of_compare {a b} h := by
    cases a; cases b
    exact congrArg mk (Std.compare_eq_iff_eq.mp h)

instance : Std.TransOrd OrganizationId :=
  inferInstanceAs (Std.TransCmp (compareOn uuid))

end OrganizationId

end ContactSegments
