import ContactSegments.Json.Value
import ContactSegments.Text.Hex
import ContactSegments.Word

/-! # Tokens of JSON text

`Token.ofText` splits a text into marks, words, numbers and strings. It stops with a `fault` at the
first character where no token can be read; what follows a fault is never looked at.
-/

namespace ContactSegments

/-- A token of JSON text. -/
inductive Token
  /-- One of `[ ] , :` or a brace. -/
  | mark (c : Char)
  | null
  | bool (value : Bool)
  | number (value : JsonNumber)
  /-- A string, without a value when an escape in it names half of a surrogate pair. -/
  | string (value : Option String)
  /-- No token can be read here. -/
  | fault
deriving DecidableEq, Repr

namespace Token

/-- Blanks between tokens. -/
def isGap (c : Char) : Bool := c == ' ' || c == '\n' || c == '\t' || c == '\r'

def isMark (c : Char) : Bool :=
  c == '[' || c == ']' || c == '\x7b' || c == '\x7d' || c == ',' || c == ':'

/-- The value of four hexadecimal digits. -/
def hexQuad? (a b c d : Char) : Option Nat := Text.hexNumber? 0 [a, b, c, d]

/-- The code of an escape of one character. -/
def escape? : Char → Option Nat
  | '"' => some 0x22
  | '\\' => some 0x5C
  | '/' => some 0x2F
  | 'b' => some 0x08
  | 'f' => some 0x0C
  | 'n' => some 0x0A
  | 'r' => some 0x0D
  | 't' => some 0x09
  | _ => none

/-- The codes of a string up to its closing quote, and the number of characters read with the
    quote. Escapes may name surrogates. -/
def stringCodes : List Char → Option (List Nat × Nat)
  | [] => none
  | '"' :: _ => some ([], 1)
  | '\\' :: 'u' :: a :: b :: c :: d :: cs => do
    let code ← hexQuad? a b c d
    let (codes, n) ← stringCodes cs
    return (code :: codes, n + 6)
  | '\\' :: e :: cs => do
    let code ← escape? e
    let (codes, n) ← stringCodes cs
    return (code :: codes, n + 2)
  | c :: cs =>
    if c < ' ' then none
    else do
      let (codes, n) ← stringCodes cs
      return (c.toNat :: codes, n + 1)

def isHighSurrogate (code : Nat) : Bool := 0xD800 ≤ code && code < 0xDC00

def isLowSurrogate (code : Nat) : Bool := 0xDC00 ≤ code && code < 0xE000

/-- The characters that codes stand for, where a high and a low surrogate make one character; none
    if a surrogate stands alone. -/
def charsOfCodes : List Nat → Option (List Char)
  | [] => some []
  | high :: low :: codes =>
    if isHighSurrogate high && isLowSurrogate low then
      (charsOfCodes codes).map (.ofNat ((high - 0xD800) * 0x400 + (low - 0xDC00) + 0x10000) :: ·)
    else if isHighSurrogate high || isLowSurrogate high then none
    else (charsOfCodes (low :: codes)).map (.ofNat high :: ·)
  | [code] =>
    if isHighSurrogate code || isLowSurrogate code then none else some [.ofNat code]

/-- The number of decimal digits at the front. -/
def digitCount (cs : List Char) : Nat := (cs.takeWhile Char.isDigit).length

/-- Whether a whole number fits 64 bits, with or without sign. -/
def fitsWord (i : Int) : Bool := -(signedWordBound : Int) ≤ i && i < wordBound

/-- A mantissa with digits put after it as long as it fits a word, and the number of digits that are
    left out. -/
def extend (mantissa : Nat) : List Char → Nat × Nat
  | [] => (mantissa, 0)
  | d :: ds =>
    let longer := Nat.ofDigitChars 10 [d] mantissa
    if longer < wordBound then extend longer ds else (mantissa, ds.length + 1)

/-- The number with these parts: digits, digits of the fraction if there is a point, exponent if
    there is one. The fraction goes on where the mantissa of the whole digits ends, also when some
    of them are left out. -/
def numberOfParts (negative : Bool) (whole : List Char) (fraction : Option (List Char))
    (exponent : Option Int) : JsonNumber :=
  let places := fraction.getD []
  let (front, leftOut) := extend 0 whole
  let (mantissa, unread) := extend front places
  let value : Int := if negative then -(mantissa : Int) else mantissa
  if fraction.isNone && exponent.isNone && leftOut == 0 && fitsWord value &&
      !(negative && mantissa == 0) then
    .integer value
  else .decimal negative mantissa (exponent.getD 0 + leftOut - (places.length - unread))

/-- The exponent after its letter, and the number of characters read. -/
def exponentPart (cs : List Char) : Option (Int × Nat) :=
  let (negative, ds, n) := match cs with
    | '-' :: ds => (true, ds, 1)
    | '+' :: ds => (false, ds, 1)
    | ds => (false, ds, 0)
  let count := digitCount ds
  let size : Int := (Nat.ofDigitChars 10 (ds.take count) 0 : Nat)
  if count = 0 then none else some (if negative then -size else size, n + count)

/-- The number at the front, without its sign, and the number of characters read. A number has no
    leading zeros, and its point and its exponent are each followed by a digit. -/
def unsignedNumber (negative : Bool) (cs : List Char) : Option (JsonNumber × Nat) := do
  let count := digitCount cs
  let whole := cs.take count
  if count = 0 || (count ≥ 2 && whole.head? == some '0') then none
  let rest := cs.drop count
  let (fraction, n) ← match rest with
    | '.' :: ds =>
      let places := digitCount ds
      if places = 0 then none else some (some (ds.take places), places + 1)
    | _ => some (none, 0)
  let (exponent, m) ← match rest.drop n with
    | e :: ds =>
      if e == 'e' || e == 'E' then (exponentPart ds).map fun (value, k) => (some value, k + 1)
      else some (none, 0)
    | [] => some (none, 0)
  return (numberOfParts negative whole fraction exponent, count + n + m)

/-- A word of the language, whose first letter is already read. -/
def word (token : Token) (letters : List Char) (cs : List Char) : Token × Nat :=
  if letters.isPrefixOf cs then (token, letters.length) else (.fault, 0)

/-- The token that starts with a character, and how many of the characters after it belong to it. -/
def starting (c : Char) (cs : List Char) : Token × Nat :=
  if isMark c then (.mark c, 0)
  else if c = '"' then
    match stringCodes cs with
    | some (codes, n) => (.string ((charsOfCodes codes).map String.ofList), n)
    | none => (.fault, 0)
  else if c = 'n' then word .null ['u', 'l', 'l'] cs
  else if c = 't' then word (.bool true) ['r', 'u', 'e'] cs
  else if c = 'f' then word (.bool false) ['a', 'l', 's', 'e'] cs
  else if c = '-' then
    match unsignedNumber true cs with
    | some (value, n) => (.number value, n)
    | none => (.fault, 0)
  else
    match unsignedNumber false (c :: cs) with
    | some (value, n) => (.number value, n - 1)
    | none => (.fault, 0)

/-- The tokens of a text, up to the first fault. -/
def ofChars : List Char → List Token
  | [] => []
  | c :: cs =>
    if isGap c then ofChars cs
    else
      match starting c cs with
      | (.fault, _) => [.fault]
      | (token, n) => token :: ofChars (cs.drop n)
termination_by cs => cs.length
decreasing_by
  all_goals simp only [List.length_cons, List.length_drop]
  all_goals omega

def ofText (s : String) : List Token := ofChars s.toList

end Token

end ContactSegments
