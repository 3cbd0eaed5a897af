import ContactSegments.Decimal.Binary64

/-! # Shortest decimals

A binary64 number is written with the fewest digits that read back as the same number, and of
several such decimals the nearest one. Every number is written positionally, whatever its size.
-/

namespace ContactSegments.Binary64

/-- The place of a positive fraction's first digit: zero for units, one for tens, minus one for
    tenths. -/
def leadingPlace (num den : Nat) : Int :=
  if den ≤ num then ((Nat.toDigits 10 (num / den)).length : Int) - 1
  else -((Nat.toDigits 10 ((den - 1) / num)).length : Int)

/-- The decimal of so many digits that is nearest to a positive number and reads back as it. -/
def decimalOf? (mantissa : Nat) (exponent : Int) (count : Nat) : Option (Nat × Int) :=
  let (num, den) := ratio 2 mantissa exponent
  let unit := leadingPlace num den + 1 - count
  let num := num * Nat.pow 10 (-unit).toNat
  let den := den * Nat.pow 10 unit.toNat
  let below := num / den
  let readsBack := fun n => ofDecimal false n unit == .finite false mantissa exponent
  let upFirst := den ≤ 2 * (num % den)
  let candidates := if upFirst then [below + 1, below] else [below, below + 1]
  (candidates.find? readsBack).map (·, unit)

/-- The shortest decimal of a positive number; seventeen digits are always enough. -/
def shortest (mantissa : Nat) (exponent : Int) : Nat × Int :=
  ((List.range' 1 17).findSome? (decimalOf? mantissa exponent)).getD (0, 0)

/-- The digits of a whole number times a power of ten, with a point if there is a fraction. -/
def positional (n : Nat) (exponent : Int) : List Char :=
  let digits := Nat.toDigits 10 n ++ List.replicate exponent.toNat '0'
  let places := (-exponent).toNat
  let padded := List.replicate (places + 1 - digits.length) '0' ++ digits
  let whole := padded.take (padded.length - places)
  let fraction := (padded.drop (padded.length - places)).reverse.dropWhile (· == '0') |>.reverse
  if fraction.isEmpty then whole else whole ++ '.' :: fraction

def written : Binary64 → List Char
  | .nan => ['N', 'a', 'N']
  | .infinite negative => (if negative then ['-'] else []) ++ ['i', 'n', 'f']
  | .finite negative mantissa exponent =>
    let digits :=
      if mantissa = 0 then ['0']
      else
        let (n, power) := shortest mantissa exponent
        positional n power
    (if negative then ['-'] else []) ++ digits

end ContactSegments.Binary64
