/-! # Binary64 numbers

A finite binary64 number is a mantissa of at most 53 bits times a power of two. A decimal is read as
the nearest number, where a tie goes to the even mantissa, and as an infinity when it is too large.
-/

namespace ContactSegments

inductive Binary64
  | nan
  | infinite (negative : Bool)
  /-- The mantissa times two to the exponent. -/
  | finite (negative : Bool) (mantissa : Nat) (exponent : Int)
deriving DecidableEq, Repr

namespace Binary64

/-- The power of two of the smallest numbers. -/
def leastExponent : Int := -1074

/-- The power of two of the largest numbers. -/
def mostExponent : Int := 971

/-- The first of the 53 bits of a mantissa. -/
def hiddenBit : Nat := 0x10000000000000

/-- Numerator and denominator of a whole number times a power of a base. -/
def ratio (base n : Nat) (exponent : Int) : Nat × Nat :=
  (n * base.pow exponent.toNat, base.pow (-exponent).toNat)

/-- The whole number nearest to a fraction; a tie goes to the even one. -/
def nearestEven (num den : Nat) : Nat :=
  let whole := num / den
  let rest := 2 * (num % den)
  if rest < den then whole
  else if den < rest then whole + 1
  else whole + whole % 2

/-- The exponent with which a positive fraction has a mantissa of 53 bits, or the least one. -/
def exponentFor (num den : Nat) : Int :=
  let guess : Int := (Nat.log2 num : Int) - (Nat.log2 den : Int) - 53
  let fits := num * Nat.pow 2 (-guess).toNat < den * Nat.pow 2 (guess.toNat + 53)
  max leastExponent (if fits then guess else guess + 1)

/-- The number nearest to a positive fraction. -/
def ofRatio (negative : Bool) (num den : Nat) : Binary64 :=
  let exponent := exponentFor num den
  let mantissa := nearestEven (num * Nat.pow 2 (-exponent).toNat) (den * Nat.pow 2 exponent.toNat)
  let (mantissa, exponent) :=
    if mantissa = 2 * hiddenBit then (hiddenBit, exponent + 1) else (mantissa, exponent)
  if mostExponent < exponent then .infinite negative else .finite negative mantissa exponent

/-- The number nearest to a whole number times a power of ten. No number lies beyond the powers 310
    and -400 of ten but zero and the infinities. -/
def ofDecimal (negative : Bool) (n : Nat) (exponent : Int) : Binary64 :=
  let scale := (Nat.toDigits 10 n).length + exponent
  if n = 0 ∨ scale < -400 then .finite negative 0 leastExponent
  else if 310 < scale then .infinite negative
  else
    let (num, den) := ratio 10 n exponent
    ofRatio negative num den

def isFinite : Binary64 → Bool
  | .finite _ _ _ => true
  | _ => false

/-- The number nearest to a whole number times a power of two. -/
def ofScaled (negative : Bool) (n : Nat) (exponent : Int) : Binary64 :=
  if n = 0 then .finite negative 0 leastExponent
  else
    let (num, den) := ratio 2 n exponent
    ofRatio negative num den

/-- The number nearest to the product. Zero times an infinity is no number. -/
def mul : Binary64 → Binary64 → Binary64
  | .nan, _ | _, .nan => .nan
  | .infinite s, .infinite t => .infinite (s != t)
  | .infinite s, .finite t n _ | .finite t n _, .infinite s =>
    if n = 0 then .nan else .infinite (s != t)
  | .finite s m e, .finite t n f => ofScaled (s != t) (m * n) (e + f)

instance : Mul Binary64 := ⟨mul⟩

/-- The nearest whole number below a bound; a half goes up. Whatever is negative or no number counts
    as zero, and whatever is too large as the greatest number below the bound. -/
def toNatBelow (bound : Nat) : Binary64 → Nat
  | .nan => 0
  | .infinite negative => if negative then 0 else bound - 1
  | .finite negative mantissa exponent =>
    let (num, den) := ratio 2 mantissa exponent
    if negative then 0 else min ((2 * num + den) / (2 * den)) (bound - 1)

end Binary64

end ContactSegments
