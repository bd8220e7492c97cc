import Hostcall.Pattern.Basic
import Hostcall.Text.Utf8

/-!
# Sizes of patterns

A pattern is searched for by an automaton that reads the bytes of a text, forwards or backwards. How many
bytes its states take up is counted without building it, so that a pattern with a greater automaton than
allowed can be refused.
-/

namespace Hostcall

/-- How an automaton reads a text. -/
inductive ReadingDirection where
  | forward
  | backward
  deriving Repr, DecidableEq

/-- Runs of bytes, one for each byte of the characters that they stand for. -/
abbrev ByteRuns := List (Nat × Nat)

namespace StateSize

/-- A state, without the ways that lead on from it if there can be several. -/
def plain : Nat := 32

/-- A state that chooses between so many ways by the next byte. -/
def byByte (ways : Nat) : Nat := plain + 8 * ways

/-- A state from which so many ways lead on without a byte. -/
def fork (ways : Nat) : Nat := plain + 4 * ways

def total (sizes : List Nat) : Nat := sizes.foldr (· + ·) 0

end StateSize

namespace CharClass

/-- The numbers from `a` to `b` by their digits in base 64, with so many behind the first one. -/
def digitRuns : Nat → Nat → Nat → List ByteRuns
  | 0, a, b => [[(a, b)]]
  | k + 1, a, b =>
    let unit := 1 <<< (6 * (k + 1))
    let i := a / unit
    let j := b / unit
    let under (i a b : Nat) : List ByteRuns := (digitRuns k a b).map ((i, i) :: ·)
    if i = j then under i (a % unit) (b % unit)
    else
      let low := if a % unit = 0 then [] else under i (a % unit) (unit - 1)
      let high := if b % unit = unit - 1 then [] else under j 0 (b % unit)
      let i := if low = [] then i else i + 1
      let j := if high = [] then j else j - 1
      let middle := if i ≤ j then [(i, j) :: List.replicate (k + 1) (0, 63)] else []
      low ++ middle ++ high

/-- The bytes of a character, by the bits that mark the first one and the others. -/
def mark (lead : Nat) : ByteRuns → ByteRuns
  | [] => []
  | (a, b) :: rs => (lead + a, lead + b) :: rs.map fun (a, b) => (0x80 + a, 0x80 + b)

/-- The code points that are written with equally many bytes, without the surrogates: how many there are
behind the first byte, its mark, and the first and the last code point. -/
def byteBlocks : List (Nat × Nat × Nat × Nat) :=
  [(0, 0, 0, 0x7F), (1, 0xC0, 0x80, 0x7FF), (2, 0xE0, 0x800, 0xD7FF), (2, 0xE0, 0xE000, 0xFFFF),
    (3, 0xF0, 0x10000, 0x10FFFF)]

/-- The bytes of the characters of a class, in the order of the characters. -/
def byteRuns (k : CharClass) : List ByteRuns :=
  k.ranges.flatMap fun r =>
    byteBlocks.flatMap fun (width, lead, first, last) =>
      let a := max r.first first
      let b := min r.last last
      if a ≤ b then (digitRuns width a b).map (mark lead) else []

/-- The states that choose the first of the bytes that are left, and those behind them; a state is known by
the bytes that it leads to. -/
def byteStates : Nat → List ByteRuns → List (List ByteRuns)
  | 0, _ => []
  | n + 1, runs =>
    let behind := (runs.splitBy (·.head? == ·.head?)).map (·.map List.tail)
    runs :: behind.flatMap fun tails => if tails.all (· = []) then [] else byteStates n tails

/-- Read forwards, states with the same ways onwards are one. -/
def forwardSize (runs : List ByteRuns) : Nat :=
  let states := (byteStates 4 runs).eraseDups
  StateSize.total (states.map fun s => StateSize.byByte (s.map List.head?).eraseDups.length) +
    StateSize.plain

/-- Read backwards, states with the same ways from the first byte are one. -/
def backwardSize (runs : List ByteRuns) : Nat :=
  let beginnings := runs.flatMap fun r => (List.range r.length).map fun i => r.take (i + 1)
  StateSize.fork runs.length + StateSize.plain + StateSize.plain * beginnings.eraseDups.length

/-- The size of the states for one character of a class. -/
def size (d : ReadingDirection) (k : CharClass) : Nat :=
  match k.single?, d with
  | some c, _ => StateSize.plain * c.utf8Size
  | none, d =>
    if k.isAscii then StateSize.byByte k.ranges.length + StateSize.plain
    else match d with
      | .forward => forwardSize k.byteRuns
      | .backward => backwardSize k.byteRuns

end CharClass

/-- The size of the states for a choice between texts, which share what they begin with as long as no text
ends between them. -/
def textsSize : Nat → List (List UInt8) → Nat
  | 0, _ => 0
  | n + 1, texts =>
    if texts.all (· = []) then 0
    else
      let parts := (texts.splitBy fun a b => a.isEmpty == b.isEmpty).filter (·.any (· ≠ []))
      let ends := (texts.dropWhile (· = [])).count [] + if texts.head? = some [] then 1 else 0
      let sizes := parts.map fun part =>
        let heads := (part.map List.head?).eraseDups
        let own := if heads.length = 1 then StateSize.plain else StateSize.byByte heads.length
        own + StateSize.total (heads.map fun h =>
          textsSize n ((part.filter (·.head? = h)).map List.tail))
      StateSize.fork (parts.length + ends) + StateSize.total sizes

namespace Pattern

/-- The text of a pattern that admits a single one, which is not empty. -/
def text? : Pattern → Option (List Char)
  | one k => k.single?.map ([·])
  | sequence p q => return (← p.text?) ++ (← q.text?)
  | _ => none

/-- The texts of a choice between such patterns. -/
def texts? : Pattern → Option (List (List Char))
  | choice p q => return (← p.texts?) ++ (← q.texts?)
  | p => p.text?.map ([·])

/-- How many characters an occurrence takes at least; not told if a class in the pattern is empty. -/
def leastWidth? : Pattern → Option Nat
  | empty => some 0
  | one k => if k.isEmpty then none else some 1
  | assertion _ => some 0
  | sequence p q => return (← p.leastWidth?) + (← q.leastWidth?)
  | choice p q => return min (← p.leastWidth?) (← q.leastWidth?)
  | repeated p least _ => p.leastWidth?.map (· * least)
  | group _ p => p.leastWidth?

/-- The size of the states for so many in a row, by the size of those for one. -/
def timesSize (takesCharacter : Bool) (size least : Nat) (most : Option Nat) : Nat :=
  match most with
  | some most =>
    max StateSize.plain (least * size) + if most = least then 0 else
      StateSize.plain + (most - least) * (size + StateSize.fork 2)
  | none =>
    if 0 < least then least * size + StateSize.fork 2
    else if takesCharacter then size + StateSize.fork 2
    else size + 2 * StateSize.fork 2 + StateSize.plain

/-- The size of the states for a choice between texts. -/
def textChoiceSize (d : ReadingDirection) (texts : List (List Char)) : Nat :=
  let texts := texts.map fun t => Utf8.encode (String.ofList t)
  let texts := if d = .backward then texts.map List.reverse else texts
  textsSize ((texts.map List.length).foldl max 0 + 1) texts + StateSize.plain

/-- The size of the states for a pattern, and the same together with what leads to it as a branch. The first
of a choice inside a choice is not asked for. -/
def sizes (d : ReadingDirection) : Pattern → Thunk Nat × Nat
  | empty => asBranch StateSize.plain
  | one k => asBranch (k.size d)
  | assertion _ => asBranch StateSize.plain
  | sequence p q => asBranch ((p.sizes d).1.get + (q.sizes d).1.get)
  | choice p q =>
    let inner := (p.sizes d).2 + (q.sizes d).2
    let alone : Thunk Nat := .mk fun _ =>
      match (choice p q).texts? with
      | none => StateSize.fork 0 + inner + StateSize.plain
      | some texts => textChoiceSize d texts
    (alone, inner)
  | repeated p least most =>
    let size := (p.sizes d).1.get
    if least = 0 ∧ most = some 1 then asBranch (size + StateSize.fork 2 + StateSize.plain)
    else asBranch (timesSize (p.leastWidth?.any (0 < ·)) size least most)
  | group _ p =>
    let marks := if d = .forward then 2 * StateSize.plain else 0
    asBranch ((p.sizes d).1.get + marks)
where
  asBranch (size : Nat) : Thunk Nat × Nat := (.pure size, size + 4)

/-- The size of the states for a pattern. -/
def size (d : ReadingDirection) (p : Pattern) : Nat := (p.sizes d).1.get

/-- Whether an occurrence can only begin at the place of an assertion, or end there if read backwards. -/
def isAnchored (d : ReadingDirection) (a : Assertion) : Pattern → Bool
  | assertion b => a = b
  | sequence p q =>
    let (p, q, first) := match d with
      | .forward => (p.isAnchored d a, q.isAnchored d a, p.isZeroWidth)
      | .backward => (q.isAnchored d a, p.isAnchored d a, q.isZeroWidth)
    p || first && q
  | choice p q => p.isAnchored d a && q.isAnchored d a
  | repeated p least _ => 0 < least && p.isAnchored d a
  | group _ p => p.isAnchored d a
  | _ => false

/-- The size of the states for a search: those for the pattern and its end, and those for what may come
before it. -/
def searchSize (d : ReadingDirection) (p : Pattern) : Nat :=
  let edge := match d with
    | .forward => Assertion.textStart
    | .backward => .textEnd
  let skipped :=
    if p.isAnchored d edge then StateSize.plain
    else StateSize.byByte 1 + StateSize.plain + StateSize.fork 2
  (group 0 p).size d + StateSize.plain + skipped

/-- The greatest size that is allowed. -/
def sizeLimit : Nat := 10485760

/-- Whether a pattern asks for words that are not known. -/
def hasUnknownWord : Pattern → Bool
  | assertion a => a = .unknownWord
  | sequence p q => p.hasUnknownWord || q.hasUnknownWord
  | choice p q => p.hasUnknownWord || q.hasUnknownWord
  | repeated p _ _ => p.hasUnknownWord
  | group _ p => p.hasUnknownWord
  | _ => false

end Pattern

end Hostcall
