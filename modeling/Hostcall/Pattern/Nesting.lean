/-!
# Nesting

How the parts of a written pattern lie in one another. A pattern may be nested only so deep, and one that goes
deeper is refused at the first part that does.
-/

namespace Hostcall

/-- A stretch of a written pattern. -/
structure Stretch where
  first : Nat
  /-- The place behind its last character. -/
  behind : Nat
  deriving Repr, DecidableEq

/-- The first part at each depth, from the outside to the inside. -/
structure Nesting where
  levels : List Stretch := []
  deriving Repr, DecidableEq

namespace Nesting

/-- The nesting of two neighbours. -/
def beside (a b : Nesting) : Nesting := ⟨a.levels ++ b.levels.drop a.levels.length⟩

/-- The nesting of a part and of what lies in it. -/
def inside (n : Nesting) (s : Stretch) : Nesting := ⟨s :: n.levels⟩

/-- How deep a pattern may be nested. -/
def limit : Nat := 250

/-- The first part that lies too deep. -/
def tooDeep? (n : Nesting) : Option Stretch := n.levels[limit]?

end Nesting

end Hostcall
