/-! # Words

Bounds of whole numbers that fit a fixed number of bits.
-/

namespace ContactSegments

/-- All numbers of 64 bits without a sign are below this one. -/
def wordBound : Nat := 0x10000000000000000

/-- All numbers of 64 bits with a sign are below this one, and none is below its opposite. -/
def signedWordBound : Nat := 0x8000000000000000

/-- All numbers of 16 bits, such as those of ports, are below this one. -/
def portBound : Nat := 0x10000

end ContactSegments
