/-!
# Classes of characters

What one place of a pattern admits: a set of characters, kept as the runs of their code points.
-/

namespace Hostcall

/-- A run of code points. -/
structure CharRange where
  first : Nat
  last : Nat
  first_le_last : first ≤ last := by decide
  deriving Repr, DecidableEq, Hashable

namespace CharRange

def covers (r : CharRange) (n : Nat) : Bool := r.first ≤ n && n ≤ r.last

/-- The run from the beginning of the one that begins first to the end of the one that ends last. -/
def hull (r s : CharRange) : CharRange where
  first := min r.first s.first
  last := max r.last s.last
  first_le_last := by have := r.first_le_last; omega

/-- Adds a run to others that rise and do not touch; those that it touches become one with it. -/
def insert (r : CharRange) : List CharRange → List CharRange
  | [] => [r]
  | s :: rs =>
    if r.last + 1 < s.first then r :: s :: rs
    else if s.last + 1 < r.first then s :: r.insert rs
    else (r.hull s).insert rs

/-- What is left of `s` without `r`. -/
def cut (r s : CharRange) : List CharRange :=
  if r.last < s.first ∨ s.last < r.first then [s]
  else
    (if h : s.first < r.first then [⟨s.first, r.first - 1, by omega⟩] else []) ++
      (if h : r.last < s.last then [⟨r.last + 1, s.last, by omega⟩] else [])

end CharRange

/-- A class of characters by runs that rise and do not touch. -/
structure CharClass where
  ranges : List CharRange := []
  deriving Repr, DecidableEq, Hashable

namespace CharClass

def contains (k : CharClass) (c : Char) : Bool := k.ranges.any (·.covers c.toNat)

def nothing : CharClass := {}

def isEmpty (k : CharClass) : Bool := k.ranges.isEmpty

def range (first last : Char) (h : first.toNat ≤ last.toNat := by decide) : CharClass :=
  ⟨[⟨first.toNat, last.toNat, h⟩]⟩

def single (c : Char) : CharClass := range c c (Nat.le_refl _)

/-- The only character of a class. -/
def single? (k : CharClass) : Option Char :=
  match k.ranges with
  | [r] => if r.first = r.last then some (Char.ofNat r.first) else none
  | _ => none

/-- All characters: the code points up to the last one without the surrogates. -/
def any : CharClass := ⟨[⟨0, 0xD7FF, by decide⟩, ⟨0xE000, 0x10FFFF, by decide⟩]⟩

def ascii : CharClass := range '\x00' '\x7f'

/-- Whether a class has no characters beyond those of ASCII. -/
def isAscii (k : CharClass) : Bool := k.ranges.all (·.last < 0x80)

def union (a b : CharClass) : CharClass :=
  ⟨b.ranges.foldl (fun rs r => r.insert rs) a.ranges⟩

def difference (a b : CharClass) : CharClass :=
  ⟨b.ranges.foldl (fun rs r => rs.flatMap r.cut) a.ranges⟩

def intersection (a b : CharClass) : CharClass := a.difference (a.difference b)

def symmetricDifference (a b : CharClass) : CharClass :=
  (a.difference b).union (b.difference a)

def complement (k : CharClass) : CharClass := any.difference k

/-- The class of the characters of several classes. -/
def unionAll (ks : List CharClass) : CharClass := ks.foldl union nothing

/-- The letters of ASCII that a class has in one case, in the other. -/
def swappedCase (k : CharClass) : CharClass where
  ranges :=
    (k.intersection (range 'A' 'Z')).ranges.map
      (fun r => ⟨r.first + 32, r.last + 32, by have := r.first_le_last; omega⟩) ++
    (k.intersection (range 'a' 'z')).ranges.map
      (fun r => ⟨r.first - 32, r.last - 32, by have := r.first_le_last; omega⟩)

/-- A class without regard to the case of the letters of ASCII. -/
def ignoringCase (k : CharClass) : CharClass := k.union k.swappedCase

def digit : CharClass := range '0' '9'

def blank : CharClass := unionAll [range '\t' '\r', single ' ']

def word : CharClass := unionAll [digit, range 'A' 'Z', single '_', range 'a' 'z']

/-- The classes of ASCII characters that have names. -/
def ofName? : String → Option CharClass
  | "alnum" => some (unionAll [digit, range 'A' 'Z', range 'a' 'z'])
  | "alpha" => some (unionAll [range 'A' 'Z', range 'a' 'z'])
  | "ascii" => some ascii
  | "blank" => some (unionAll [single '\t', single ' '])
  | "cntrl" => some (unionAll [range '\x00' '\x1f', single '\x7f'])
  | "digit" => some digit
  | "graph" => some (range '!' '~')
  | "lower" => some (range 'a' 'z')
  | "print" => some (range ' ' '~')
  | "punct" => some (unionAll [range '!' '/', range ':' '@', range '[' '\x60', range '\x7b' '~'])
  | "space" => some blank
  | "upper" => some (range 'A' 'Z')
  | "word" => some word
  | "xdigit" => some (unionAll [digit, range 'A' 'F', range 'a' 'f'])
  | _ => none

end CharClass

end Hostcall
