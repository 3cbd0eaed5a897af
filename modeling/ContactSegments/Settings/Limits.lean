/-! # Limits -/

namespace ContactSegments

/-- Bounds on what a request may ask for. -/
structure Limits where
  defaultPageSize : Nat
  maxPageSize : Nat
  maxConditions : Nat
deriving DecidableEq, Repr

namespace Limits

/-- The limits that hold when nothing else is set. -/
def standard : Limits := ⟨100, 1000, 50⟩

end Limits

end ContactSegments
