import Hostcall.Pattern.Escape

/-!
# Classes between brackets

Characters, ranges and other classes between brackets, joined to one class or set against each other.
-/

namespace Hostcall

/-- What may be between two parts of a class. -/
inductive ClassOperation where
  | intersection
  | difference
  | symmetricDifference
  deriving Repr, DecidableEq

def ClassOperation.apply : ClassOperation → CharClass → CharClass → CharClass
  | .intersection => .intersection
  | .difference => .difference
  | .symmetricDifference => .symmetricDifference

/-- A class, the stretch that it was read from, and what lies in one another there. -/
structure PlacedClass where
  value : CharClass
  place : Stretch
  nesting : Nesting := {}
  deriving Repr, DecidableEq

/-- The members of a class since the last operation. -/
structure ClassMembers where
  value : CharClass := .nothing
  place : Stretch
  count : Nat := 0
  nesting : Nesting := {}
  deriving Repr, DecidableEq

namespace ClassMembers

def startingAt (place : Nat) : ClassMembers := { place := ⟨place, place⟩ }

def add (m : ClassMembers) (k : PlacedClass) : ClassMembers where
  value := m.value.union k.value
  place := ⟨if m.count = 0 then k.place.first else m.place.first, k.place.behind⟩
  count := m.count + 1
  nesting := m.nesting.beside k.nesting

/-- Several members lie in a whole of their own. -/
def toPlaced (m : ClassMembers) : PlacedClass where
  value := m.value
  place := m.place
  nesting := if 1 < m.count then m.nesting.inside m.place else m.nesting

end ClassMembers

/-- A class that is being read: the part before the last operation, and what has come since. -/
structure OpenClass where
  left : Option (ClassOperation × PlacedClass) := none
  members : ClassMembers
  deriving Repr, DecidableEq

def OpenClass.add (o : OpenClass) (k : PlacedClass) : OpenClass :=
  { o with members := o.members.add k }

namespace PatternReader

/-- A single member of a class. -/
def classAtom : PatternReader PlacedAtom := placed do
  match ← next? with
  | some '\\' => escape
  | some c =>
    advance
    return .literal c
  | none => refuseHere .classUnclosed

/-- A character of a class. Where no other characters than those of ASCII are known, it is one of them. -/
def member (place : Stretch) (c : Char) : PatternReader Char := do
  if !(← hasOption .unicode) ∧ c.toNat ≥ 0x80 then
    complain .unicodeNeeded place.first place.behind
  return c

/-- A byte of a class, which is no text. -/
def byteMember (place : Stretch) (c : Char) : PatternReader Char := do
  complain .notText place.first place.behind
  return c

/-- The character of a member at an end of a range. -/
def boundary (a : PlacedAtom) : PatternReader Char :=
  match a.atom with
  | .literal c => member a.place c
  | .byte c => byteMember a.place c
  | _ => refuse .classBoundary a.place.first a.place.behind

/-- The class of a member that stands alone. -/
def atomClass (a : PlacedAtom) : PatternReader PlacedClass := do
  match a.atom with
  | .among k => return { value := k, place := a.place }
  | .assertion _ => refuse .classEscape a.place.first a.place.behind
  | _ => return { value := .single (← boundary a), place := a.place }

/-- The range from one member to another. -/
def memberRange (a b : PlacedAtom) : PatternReader PlacedClass := do
  let place : Stretch := ⟨a.place.first, b.place.behind⟩
  let first ← boundary a
  let last ← boundary b
  if h : first.toNat ≤ last.toNat then return { value := .range first last h, place }
  else refuse .classRange place.first place.behind

/-- The next character inside a class, which must be closed. -/
def inClass (opened : Stretch) : PatternReader Char := do
  match ← next? with
  | some c => return c
  | none => refuse .classUnclosed opened.first opened.behind

/-- The character behind the next one and behind what does not count. -/
def peekSpaced? : PatternReader (Option Char) := do
  let rest := (← get).rest.tail
  let width := if ← hasOption .ignoreSpace then spaceWidth false 0 rest else 0
  return (rest.drop width).head?

/-- A member or a range of a class. A dash before a bracket or another dash makes no range. -/
def classMember (opened : Stretch) : PatternReader PlacedClass := do
  let a ← classAtom
  skipSpace
  let c ← inClass opened
  let behind ← peekSpaced?
  if c ≠ '-' ∨ behind = some ']' ∨ behind = some '-' then atomClass a
  else
    advanceSpaced
    let _ ← inClass opened
    let b ← classAtom
    memberRange a b

/-- What a class admits beyond ASCII is no text where no other characters are known. -/
def asText (k : PlacedClass) : PatternReader PlacedClass := do
  if !(← hasOption .unicode) ∧ !k.value.isAscii then complain .notText k.place.first k.place.behind
  return k

/-- A class with its case variants if case does not count. They are known only among the letters of ASCII. -/
def foldCase (k : CharClass) (place : Stretch) : PatternReader CharClass := do
  if !(← hasOption .ignoreCase) then return k
  else if !(← hasOption .unicode) then return k.ignoringCase
  else
    if !k.isEmpty then complain .caseUnknown place.first place.behind
    return k

/-- A whole class, perhaps negated. -/
def classAsWritten (negated : Bool) (k : PlacedClass) : PatternReader PlacedClass := do
  let value ← foldCase k.value k.place
  asText { k with value := if negated then value.complement else value }

/-- A class by its name between colons, if there is one. -/
def namedClass? : PatternReader (Option PlacedClass) := do
  match (← get).rest with
  | '[' :: ':' :: cs =>
    let first ← position
    let (negated, cs, before) := match cs with
      | '^' :: cs => (true, cs, 3)
      | cs => (false, cs, 2)
    let name := cs.takeWhile (· ≠ ':')
    if [':', ']'].isPrefixOf (cs.drop name.length) then
      match CharClass.ofName? (String.ofList name) with
      | none => return none
      | some value =>
        skip (before + name.length + 2)
        return some (← classAsWritten negated { value, place := ⟨first, ← position⟩ })
    else return none
  | _ => return none

/-- The dashes at the beginning of a class, which stand for themselves. -/
def leadingDashes (start : Nat) : Nat → ClassMembers → PatternReader ClassMembers
  | 0, found => return found
  | n + 1, found => do
    if (← next?) = some '-' then
      let p ← position
      advanceSpaced
      let _ ← inClass ⟨start, start⟩
      leadingDashes start n (found.add { value := .single '-', place := ⟨p, p + 1⟩ })
    else return found

/-- The opening of a class: whether it is negated, and the members that can stand only at its beginning. -/
def classOpening : PatternReader (Stretch × Bool × OpenClass) := do
  let start ← position
  advanceSpaced
  let negated := (← orUnfinished .classUnclosed start) = '^'
  if negated then
    advanceSpaced
    let _ ← orUnfinished .classUnclosed start
  let members ← leadingDashes start (← get).rest.length (.startingAt (← position))
  if members.count = 0 ∧ (← next?) = some ']' then
    let p ← position
    advanceSpaced
    let _ ← orUnfinished .classUnclosed start
    let members := members.add { value := .single ']', place := ⟨p, p + 1⟩ }
    return (⟨start, ← position⟩, negated, { members })
  else return (⟨start, ← position⟩, negated, { members })

/-- The class of both parts, each of them with its case variants if case does not count. -/
def joinParts (o : OpenClass) : PatternReader PlacedClass := do
  let right := o.members.toPlaced
  match o.left with
  | none => return right
  | some (op, left) =>
    let place : Stretch := ⟨left.place.first, right.place.behind⟩
    let b ← foldCase right.value right.place
    let a ← foldCase left.value left.place
    return { value := op.apply a b, place, nesting := (left.nesting.beside right.nesting).inside place }

/-- Begins the part behind an operation. -/
def operate (o : OpenClass) (op : ClassOperation) : PatternReader OpenClass := do
  return { left := some (op, ← joinParts o), members := .startingAt (← position) }

/-- Reads a class up to its closing bracket; classes inside it are read by `inner`. -/
def classRest (inner : PatternReader PlacedClass) (opened : Stretch) (negated : Bool) :
    Nat → OpenClass → PatternReader PlacedClass
  | 0, _ => refuse .classUnclosed opened.first opened.behind
  | n + 1, o => do
    skipSpace
    let c ← inClass opened
    if c = '[' then
      match ← namedClass? with
      | some k => classRest inner opened negated n (o.add k)
      | none => classRest inner opened negated n (o.add (← inner))
    else if c = ']' then
      advance
      let k ← joinParts o
      let place : Stretch := ⟨opened.first, ← position⟩
      classAsWritten negated { k with place, nesting := k.nesting.inside place }
    else if ← takes "&&" then classRest inner opened negated n (← operate o .intersection)
    else if ← takes "--" then classRest inner opened negated n (← operate o .difference)
    else if ← takes "~~" then classRest inner opened negated n (← operate o .symmetricDifference)
    else classRest inner opened negated n (o.add (← classMember opened))

/-- Reads a class with at most so many classes around each other, and at most `bound` members in each. -/
def bracketed (bound : Nat) : Nat → PatternReader PlacedClass
  | 0 => refuseHere .classUnclosed
  | depth + 1 => do
    let (opened, negated, o) ← classOpening
    classRest (bracketed bound depth) opened negated bound o

end PatternReader

end Hostcall
