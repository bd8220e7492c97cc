import Std.Data.HashSet
import Hostcall.Pattern.CharClass

/-!
# Patterns

What texts may look like, and whether a text holds something that looks so. A text is searched character by
character: at each place it is known what may still have to come for some occurrence that has begun, and an
occurrence is complete when nothing has to.
-/

namespace Hostcall

/-- The characters on both sides of a place in a text. -/
structure Surrounding where
  before : Option Char
  behind : Option Char
  deriving Repr, DecidableEq

/-- What can be said of a place between characters. Words consist of letters, digits and low lines of
ASCII. -/
inductive Assertion where
  | textStart
  | textEnd
  | lineStart
  | lineEnd
  /-- A line begins, where a carriage return ends one too. -/
  | lineStartOrReturn
  /-- A line ends, where a carriage return ends one too. -/
  | lineEndOrReturn
  /-- A word begins or ends. -/
  | wordEdge
  | noWordEdge
  | wordStart
  | wordEnd
  /-- No word comes right before. -/
  | noWordBefore
  /-- No word comes right behind. -/
  | noWordBehind
  /-- Something about the words of all scripts. They are not known, so it never holds. -/
  | unknownWord
  deriving Repr, DecidableEq, Hashable

/-- Whether there is a character of a word. -/
def isInWord (c : Option Char) : Bool := c.any CharClass.word.contains

/-- Whether an assertion holds of a place. -/
def Assertion.holds (s : Surrounding) : Assertion → Bool
  | textStart => s.before.isNone
  | textEnd => s.behind.isNone
  | lineStart => s.before.all (· = '\n')
  | lineEnd => s.behind.all (· = '\n')
  | lineStartOrReturn => s.before.all (· = '\n') || s.before = some '\r' && s.behind != some '\n'
  | lineEndOrReturn => s.behind.all (· = '\r') || s.behind = some '\n' && s.before != some '\r'
  | wordEdge => isInWord s.before != isInWord s.behind
  | noWordEdge => isInWord s.before == isInWord s.behind
  | wordStart => !isInWord s.before && isInWord s.behind
  | wordEnd => isInWord s.before && !isInWord s.behind
  | noWordBefore => !isInWord s.before
  | noWordBehind => !isInWord s.behind
  | unknownWord => false

inductive Pattern where
  /-- Nothing at all. -/
  | empty
  | one (k : CharClass)
  | assertion (a : Assertion)
  | sequence (p q : Pattern)
  | choice (p q : Pattern)
  /-- At least so often in a row, and at most so often if that is bounded. -/
  | repeated (p : Pattern) (least : Nat) (most : Option Nat)
  /-- A part whose occurrences are kept track of under a number. -/
  | group (number : Nat) (p : Pattern)
  deriving Repr, DecidableEq, Hashable

namespace Pattern

/-- One pattern after the other; an empty one is left out. -/
def append : Pattern → Pattern → Pattern
  | empty, q => q
  | p, empty => p
  | p, q => sequence p q

/-- The parts of a sequence. -/
def parts : Pattern → List Pattern
  | empty => []
  | sequence p q => p.parts ++ q.parts
  | p => [p]

/-- Patterns after one another. -/
def ofParts (ps : List Pattern) : Pattern := ps.foldr append empty

/-- The branches of a choice. -/
def branches : Pattern → List Pattern
  | choice p q => p.branches ++ q.branches
  | p => [p]

/-- The class of a pattern of one character. -/
def class? : Pattern → Option CharClass
  | one k => some k
  | _ => none

/-- The only text of one character that a pattern admits. -/
def char? : Pattern → Option Char
  | one k => k.single?
  | _ => none

/-- Whether a pattern can only occur between characters. -/
def isZeroWidth : Pattern → Bool
  | empty => true
  | one _ => false
  | assertion _ => true
  | sequence p q => p.isZeroWidth && q.isZeroWidth
  | choice p q => p.isZeroWidth && q.isZeroWidth
  | repeated p _ _ => p.isZeroWidth
  | group _ p => p.isZeroWidth

/-- A pattern so often in a row; to repeat what takes no character changes nothing. -/
def times (p : Pattern) (least : Nat) (most : Option Nat) : Pattern :=
  let (least, most) :=
    if p.isZeroWidth then (min least 1, some (min (most.getD 1) 1)) else (least, most)
  if most = some 0 then empty
  else if least = 1 ∧ most = some 1 then p
  else repeated p least most

/-- The first branch, the next one, and so on; single characters make one class. -/
def unite (ps : List Pattern) : Pattern :=
  match ps.mapM class?, ps.reverse with
  | some ks, _ => one (.unionAll ks)
  | none, [] => empty
  | none, p :: ps => ps.foldl (fun behind p => choice p behind) p

/-- The parts of a sequence, with neighbours that admit one character each taken together. -/
def runs (p : Pattern) : List (List Pattern) :=
  p.parts.splitBy fun a b => a.char?.isSome && b.char?.isSome

/-- What two lists begin with. -/
def commonStart {α : Type} [DecidableEq α] : List α → List α → List α
  | a :: as, b :: bs => if a = b then a :: commonStart as bs else []
  | _, _ => []

/-- What all of several lists begin with, if each has two members or more. -/
def sharedStart {α : Type} [DecidableEq α] : List (List α) → List α
  | [] => []
  | l :: ls => if (l :: ls).all (2 ≤ ·.length) then ls.foldl commonStart l else []

/-- A choice between branches. What all of them begin with is taken out of it. -/
def anyOf (ps : List Pattern) : Pattern :=
  let runs := (ps.flatMap branches).map runs
  let start := sharedStart runs
  (ofParts start.flatten).append
    (unite (runs.flatMap fun r => (ofParts (r.drop start.length).flatten).branches))

/-- Whether nothing has to come at a place. -/
def isDone (s : Surrounding) : Pattern → Bool
  | empty => true
  | one _ => false
  | assertion a => a.holds s
  | sequence p q => p.isDone s && q.isDone s
  | choice p q => p.isDone s || q.isDone s
  | repeated p least _ => least = 0 || p.isDone s
  | group _ p => p.isDone s

/-- What may still have to come after the character behind a place. Repetitions that are done at the place
itself cost nothing, so none of them is still owed. -/
def after (s : Surrounding) (c : Char) : Pattern → List Pattern
  | empty => []
  | one k => if k.contains c then [empty] else []
  | assertion _ => []
  | sequence p q =>
    (p.after s c).map (·.append q) ++ if p.isDone s then q.after s c else []
  | choice p q => p.after s c ++ q.after s c
  | repeated p least most =>
    if most = some 0 then []
    else
      let owed := if p.isDone s then 0 else least - 1
      (p.after s c).map (·.append (repeated p owed (most.map (· - 1))))
  | group _ p => p.after s c

/-- Leaves out what has been seen and what comes again; the patterns kept so far come latest first. -/
def distinctFrom (seen : Std.HashSet Pattern) (kept : List Pattern) : List Pattern → List Pattern
  | [] => kept.reverse
  | p :: ps =>
    if seen.contains p then distinctFrom seen kept ps
    else distinctFrom (seen.insert p) (p :: kept) ps

/-- The patterns of a list, each of them once. -/
def distinct (ps : List Pattern) : List Pattern := distinctFrom {} [] ps

/-- Whether an occurrence is complete at some place, where `begun` is what may still have to come for those
that began before. -/
def searchFrom (p : Pattern) (begun : List Pattern) (before : Option Char) : List Char → Bool
  | [] => (p :: begun).any (isDone ⟨before, none⟩)
  | c :: cs =>
    let s : Surrounding := ⟨before, some c⟩
    (p :: begun).any (isDone s) ||
      p.searchFrom (distinct ((p :: begun).flatMap (after s c))) (some c) cs

/-- Whether a text holds an occurrence. -/
def occursIn (p : Pattern) (text : String) : Bool :=
  p.searchFrom [] none text.toList

end Pattern

end Hostcall
