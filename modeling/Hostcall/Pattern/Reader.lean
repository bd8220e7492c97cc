import Hostcall.Pattern.Brackets
import Hostcall.Pattern.Size
import Hostcall.Text.Letter

/-!
# Patterns as they are written

Reads a pattern from left to right. Groups that are still open stand on a stack, each with the branches
that are complete, the pieces of the branch that is being read, and the options to go back to at its end.
-/

namespace Hostcall

/-- What has been read from a place on, and what lies in one another there. A change of options is a piece
too, but no pattern. -/
structure PatternPiece where
  pattern : Option Pattern
  first : Nat
  nesting : Nesting := {}
  deriving Repr, DecidableEq

/-- A group whose end has not been reached; the whole pattern is one that has no beginning. -/
structure OpenGroup where
  opened : Option Nat := none
  /-- The number under which its occurrences are kept track of. -/
  number : Option Nat := none
  /-- The options in force outside. -/
  options : List PatternOption := []
  /-- Where the first branch begins. -/
  first : Nat := 0
  /-- The branches that are complete, latest first. -/
  branches : List Pattern := []
  /-- What lies in one another in these. -/
  nesting : Nesting := {}
  /-- Where the current branch begins. -/
  branchFirst : Nat := 0
  /-- The pieces of the current branch, latest first. -/
  pieces : List PatternPiece := []
  deriving Repr, DecidableEq

namespace OpenGroup

def add (g : OpenGroup) (p : PatternPiece) : OpenGroup :=
  { g with pieces := p :: g.pieces }

/-- The pieces of the current branch after one another. -/
def branch (g : OpenGroup) : Pattern :=
  .ofParts (g.pieces.reverse.filterMap (·.pattern))

/-- What lies in one another in the current branch, which ends before a place. Several pieces lie in a whole
of their own. -/
def branchNesting (g : OpenGroup) (place : Nat) : Nesting :=
  let inner := g.pieces.foldl (fun behind p => p.nesting.beside behind) {}
  if 1 < g.pieces.length then inner.inside ⟨g.branchFirst, place⟩ else inner

/-- Ends the current branch before a place. -/
def endBranch (g : OpenGroup) (place : Nat) : OpenGroup :=
  { g with
    branches := g.branch :: g.branches
    nesting := g.nesting.beside (g.branchNesting place)
    branchFirst := place + 1
    pieces := [] }

/-- The whole group, which ends before a place, as one piece. Several branches lie in a whole of their own. -/
def toPiece (g : OpenGroup) (place : Nat) : PatternPiece :=
  let g := g.endBranch place
  match g.branches with
  | [p] => { pattern := some p, first := g.first, nesting := g.nesting }
  | ps =>
    { pattern := some (.anyOf ps.reverse)
      first := g.first
      nesting := g.nesting.inside ⟨g.first, place⟩ }

end OpenGroup

/-- How often something occurs in a row. -/
structure PatternCount where
  least : Nat
  most : Option Nat
  deriving Repr, DecidableEq

/-- The option that a letter stands for. -/
def PatternOption.ofLetter? : Char → Option PatternOption
  | 'i' => some .ignoreCase
  | 'm' => some .multiLine
  | 's' => some .dotMatchesBreak
  | 'U' => some .swapGreed
  | 'u' => some .unicode
  | 'R' => some .carriageReturns
  | 'x' => some .ignoreSpace
  | _ => none

/-- What the options in a group are switched to, latest first, and where each of them is written. -/
structure OptionChanges where
  on : List (PatternOption × Nat) := []
  off : List (PatternOption × Nat) := []
  /-- Where the minus sign stands in front of those that are switched off. -/
  minus : Option Nat := none
  deriving Repr, DecidableEq

namespace OptionChanges

def isEmpty (o : OptionChanges) : Bool :=
  o.on.isEmpty && o.off.isEmpty && o.minus.isNone

/-- Where an option is written, whichever way it is switched. -/
def place? (o : OptionChanges) (option : PatternOption) : Option Nat :=
  (o.on ++ o.off).lookup option

def add (o : OptionChanges) (option : PatternOption) (place : Nat) : OptionChanges :=
  if o.minus.isSome then { o with off := (option, place) :: o.off }
  else { o with on := (option, place) :: o.on }

def apply (o : OptionChanges) (options : List PatternOption) : List PatternOption :=
  o.on.map (·.1) ++ options.filter fun option => !o.off.any (·.1 = option)

end OptionChanges

namespace PatternReader

/-- Says that something is wrong with the next character because of an earlier one. -/
def refuseAfter {α : Type} (fault : PatternFault) (earlier : Stretch) (first behind : Nat) :
    PatternReader α :=
  throw ⟨fault, [earlier, ⟨first, behind⟩]⟩

/-- Reads letters of options up to a colon or a closing parenthesis, which is left. -/
def optionChanges : Nat → OptionChanges → PatternReader OptionChanges
  | 0, changes => return changes
  | n + 1, changes => do
    let p ← position
    let c ← orUnfinished .flagUnfinished p
    if c = ':' ∨ c = ')' then
      match changes.minus with
      | some m => if m + 1 = p then refuse .flagDangling m p else return changes
      | none => return changes
    else if c = '-' then
      if let some m := changes.minus then refuseAfter .flagNegatedTwice ⟨m, m + 1⟩ p (p + 1)
      advance
      optionChanges n { changes with minus := some p }
    else match PatternOption.ofLetter? c with
      | none => refuseNext .flagUnknown
      | some option =>
        if let some q := changes.place? option then
          refuseAfter .flagDuplicate ⟨q, q + 1⟩ p (p + 1)
        advance
        optionChanges n (changes.add option p)

/-- Whether a character may stand in the name of a group. -/
def isNameChar (isFirst : Bool) (c : Char) : Bool :=
  c = '_' || Text.isLetter c || !isFirst && (Text.isNumber c || c ∈ ['.', '[', ']'])

/-- Reads the name of a group up to its closing angle bracket. -/
def groupName : PatternReader Unit := do
  let first ← position
  let rest := (← get).rest
  let name := rest.takeWhile (· ≠ '>')
  let valid := name.take 1 |>.takeWhile (isNameChar true)
  let valid := valid ++ if valid = [] then [] else name.tail.takeWhile (isNameChar false)
  skip valid.length
  let behind ← position
  if (← orUnfinished .nameUnfinished behind) ≠ '>' then refuseNext .nameInvalid
  advance
  if name = [] then refuse .nameEmpty first first
  let name := String.ofList name
  if let some earlier := (← get).names.lookup name then
    refuseAfter .nameDuplicate earlier first behind
  modify fun s => { s with names := (name, ⟨first, behind⟩) :: s.names }

/-- The number of a new group. -/
def nextNumber : PatternReader Nat :=
  modifyGet fun s => (s.groups + 1, { s with groups := s.groups + 1 })

/-- Reads what stands at the beginning of a group. A change of options without a colon is no group. -/
def groupOpening : PatternReader (Option OpenGroup) := do
  let opened ← position
  let options := (← get).options
  let openAs (number : Option Nat) : PatternReader (Option OpenGroup) := do
    let first ← position
    return some { opened, number, options, first, branchFirst := first }
  advanceSpaced
  for look in ["?=", "?!", "?<=", "?<!"] do
    if ← takes look then refuse .lookAround opened (← position)
  let inside ← position
  if ← takes "?P<" <||> takes "?<" then
    groupName
    openAs (← nextNumber)
  else if ← takes "?" then
    if (← next?).isNone then refuse .groupUnclosed opened (opened + 1)
    let changes ← optionChanges ((← get).rest.length + 1) {}
    let closes := (← next?) = some ')'
    advance
    if closes ∧ changes.isEmpty then refuse .nothingToRepeat inside inside
    modify fun s => { s with options := changes.apply s.options }
    if closes then return none else openAs none
  else openAs (← nextNumber)

/-- Takes the last piece off a branch, in order to repeat it. -/
def repeatable (g : OpenGroup) : PatternReader (Pattern × PatternPiece × OpenGroup) :=
  match g.pieces with
  | [] => refuseHere .nothingToRepeat
  | piece :: pieces =>
    match piece.pattern with
    | none => refuseHere .nothingToRepeat
    | some p => return (p, piece, { g with pieces })

/-- Moves over white space, whether it counts or not. -/
def skipBlanks : PatternReader Unit := do
  skip ((← get).rest.takeWhile Text.isBlank).length

/-- Moves over decimal digits and what does not count between them. -/
def decimalDigits : Nat → List Char → PatternReader (List Char)
  | 0, found => return found.reverse
  | n + 1, found => do
    match ← next? with
    | some c =>
      if c.isDigit then
        advanceSpaced
        decimalDigits n (c :: found)
      else return found.reverse
    | none => return found.reverse

/-- Reads a number of times. What is wrong with it is told only when it is needed. -/
def decimal : PatternReader (Except PatternError Nat) := do
  skipBlanks
  let first ← position
  let digits ← decimalDigits (← get).rest.length []
  let place : Stretch := ⟨first, ← position⟩
  skipBlanks
  skipSpace
  let n := digits.foldl (fun n c => n * 10 + (c.toNat - '0'.toNat)) 0
  if digits = [] then return .error ⟨.countEmpty, [place]⟩
  else if n ≥ 0x100000000 then return .error ⟨.decimalInvalid, [place]⟩
  else return .ok n

/-- Reads a mark behind an operator that makes it lazy, which has no say in what occurs. -/
def lazyMark : PatternReader Unit := do
  if (← next?) = some '?' then advance

/-- Reads how often something is repeated, in braces. -/
def countInBraces : PatternReader PatternCount := do
  let opened ← position
  advanceSpaced
  let _ ← orUnfinished .countUnclosed opened
  let least ← decimal
  let count : PatternCount ←
    if (← orUnfinished .countUnclosed opened) = ',' then
      advanceSpaced
      let unbounded := (← orUnfinished .countUnclosed opened) = '\x7d'
      let least ← least
      if unbounded then pure ⟨least, none⟩
      else
        let most ← decimal
        pure ⟨least, some (← most)⟩
    else
      let least ← least
      pure ⟨least, some least⟩
  if (← orUnfinished .countUnclosed opened) ≠ '\x7d' then refuse .countUnclosed opened (← position)
  advanceSpaced
  lazyMark
  if count.most.any (· < count.least) then refuse .countInvalid opened (← position)
  return count

/-- The pattern of one character that has been read from a place on. -/
def literal (c : Char) (first : Nat) : PatternReader Pattern :=
  return .one (← foldCase (.single c) ⟨first, ← position⟩)

/-- The pattern of one character of a class that has been read from a place on. -/
def among (k : CharClass) (first : Nat) : PatternReader Pattern :=
  return .one (← asText { value := k, place := ⟨first, ← position⟩ }).value

/-- Any character, those that end a line perhaps excepted. -/
def anyChar : PatternReader CharClass := do
  if ← hasOption .dotMatchesBreak then return .any
  else if ← hasOption .carriageReturns then return .complement (.unionAll [.single '\n', .single '\r'])
  else return .complement (.single '\n')

/-- The beginning or the end of the text, or of any line. -/
def edge (ofText ofLine ofLineBeforeReturn : Assertion) : PatternReader Pattern := do
  if !(← hasOption .multiLine) then return .assertion ofText
  else if ← hasOption .carriageReturns then return .assertion ofLineBeforeReturn
  else return .assertion ofLine

/-- Reads what is neither a group nor an operator. -/
def simplePiece (c : Char) : PatternReader PatternPiece := do
  let first ← position
  match c with
  | '[' =>
    let bound := (← get).rest.length + 1
    let k ← bracketed bound bound
    return { pattern := some (.one k.value), first, nesting := k.nesting }
  | '\\' =>
    match ← escape with
    | .literal d => return { pattern := some (← literal d first), first }
    | .byte d => return { pattern := some (← among (.single d) first), first }
    | .among k => return { pattern := some (.one k), first }
    | .assertion a => return { pattern := some (.assertion a), first }
  | _ =>
    advance
    let p ← match c with
      | '.' => among (← anyChar) first
      | '^' => edge .textStart .lineStart .lineStartOrReturn
      | '$' => edge .textEnd .lineEnd .lineEndOrReturn
      | _ => literal c first
    return { pattern := some p, first }

/-- The count of a repetition by the operator that it begins with. -/
def repetition? (c : Char) : Option (PatternReader PatternCount) :=
  let always (count : PatternCount) : PatternReader PatternCount := do
    advance
    lazyMark
    return count
  match c with
  | '?' => some (always ⟨0, some 1⟩)
  | '*' => some (always ⟨0, none⟩)
  | '+' => some (always ⟨1, none⟩)
  | '\x7b' => some countInBraces
  | _ => none

/-- Reads to the end of the pattern. -/
def pieces : Nat → OpenGroup → List OpenGroup → PatternReader PatternPiece
  | 0, g, _ => return g.toPiece (← position)
  | n + 1, g, outer => do
    skipSpace
    let place ← position
    match ← next? with
    | none =>
      match g.opened with
      | none => return g.toPiece place
      | some p => refuse .groupUnclosed p (p + 1)
    | some '(' =>
      match ← groupOpening with
      | none => pieces n (g.add { pattern := none, first := place }) outer
      | some inner => pieces n inner (g :: outer)
    | some ')' =>
      match outer with
      | [] => refuseNext .groupUnopened
      | around :: outer =>
        modify fun s => { s with options := g.options }
        advance
        let inner := g.toPiece place
        let first := g.opened.getD 0
        let pattern := match g.number with
          | some k => inner.pattern.map (Pattern.group k)
          | none => inner.pattern
        let nesting := inner.nesting.inside ⟨first, ← position⟩
        pieces n (around.add { pattern, first, nesting }) outer
    | some '|' =>
      advance
      pieces n (g.endBranch place) outer
    | some c =>
      match repetition? c with
      | some count =>
        let (p, piece, g) ← repeatable g
        let count ← count
        let pattern := some (p.times count.least count.most)
        let nesting := piece.nesting.inside ⟨piece.first, ← position⟩
        pieces n (g.add { pattern, first := piece.first, nesting }) outer
      | none => pieces n (g.add (← simplePiece c)) outer

end PatternReader

/-- Why a pattern is not used. -/
inductive PatternRefusal where
  | malformed (e : PatternError)
  /-- The automaton that searches for it would be too large. -/
  | tooLarge
  /-- It asks for words that are not known. -/
  | unknownWord
  deriving Repr, DecidableEq

def PatternRefusal.describe (written : String) : PatternRefusal → String
  | malformed e => e.describe written
  | tooLarge => s!"Compiled regex exceeds size limit of {Pattern.sizeLimit} bytes."
  | unknownWord => "error building NFA"

namespace Pattern

/-- A pattern, if the automaton that searches for it can be built: it must not be too large, whether texts
are read forwards or backwards, and words must be known. -/
def searchable (p : Pattern) : Except PatternRefusal Pattern :=
  if sizeLimit < p.searchSize .forward then .error .tooLarge
  else if p.hasUnknownWord then .error .unknownWord
  else if sizeLimit < p.searchSize .backward then .error .tooLarge
  else .ok p

/-- The pattern that a text writes down. -/
def parse (written : String) : Except PatternRefusal Pattern := do
  let (piece, s) ← (PatternReader.pieces (written.length + 1) {} []).run { rest := written.toList }
    |>.mapError .malformed
  if let some s := piece.nesting.tooDeep? then throw (.malformed ⟨.tooDeep, [s]⟩)
  if let some e := s.complaint then throw (.malformed e)
  (piece.pattern.getD .empty).searchable

end Pattern

end Hostcall
