import ContactSegments.Text.Blank
import ContactSegments.Text.CasedTable
import ContactSegments.Text.LowercaseTable

/-! # Case folding

Texts are compared in lower case, in full Unicode and without a locale. One letter depends on its
neighbours: a capital sigma becomes a final sigma at the end of a word, that is, after a letter and
not before one, where characters without a case of their own are passed over.
-/

namespace ContactSegments.Text

def capitalSigma : Char := '\u03A3'

def smallSigma : Char := '\u03C3'

def finalSigma : Char := '\u03C2'

/-- The lower case of a code point, from the table of runs. -/
def lowercaseCode (code : Nat) : Nat :=
  match lowercaseRuns.find? fun (first, last, step, _) =>
      first ≤ code && code ≤ last && (code - first) % step == 0 with
  | some (first, _, _, image) => image + (code - first)
  | none => code

/-- The lower case of a character on its own. Only a capital I with a dot has more than one
    character. -/
def lowercaseChar (c : Char) : List Char :=
  if c.toNat < 0x80 then [c.toLower]
  else if c = '\u0130' then ['i', '\u0307']
  else [.ofNat (lowercaseCode c.toNat)]

def isCased (c : Char) : Bool := inRanges casedRanges c

def isCaseIgnorable (c : Char) : Bool := inRanges caseIgnorableRanges c

/-- The first character that is not passed over is a letter with case. -/
def meetsCased (cs : List Char) : Bool := (cs.dropWhile isCaseIgnorable).head?.any isCased

/-- The lower case of a capital sigma between the characters before it, nearest first, and those
    after it. -/
def lowercaseSigma (before after : List Char) : Char :=
  if meetsCased before && !meetsCased after then finalSigma else smallSigma

/-- The lower case of the characters that follow others, which are given nearest first. -/
def foldedAfter (before : List Char) : List Char → List Char
  | [] => []
  | c :: cs =>
    (if c = capitalSigma then [lowercaseSigma before cs] else lowercaseChar c) ++
      foldedAfter (c :: before) cs

def folded (cs : List Char) : List Char := foldedAfter [] cs

def fold (s : String) : String := String.ofList (folded s.toList)

end ContactSegments.Text
