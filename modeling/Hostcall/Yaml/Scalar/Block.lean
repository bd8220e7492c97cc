import Hostcall.Yaml.Scalar.Fold

/-!
# Block scalars

Scalars in lines of their own, indented below the mark that introduces them. In a folded scalar a single
break between two lines of running text is a space; a line that begins with a blank is no running text.
-/

namespace Hostcall.Yaml

/-- What is done with the line breaks at the end of a block scalar. -/
inductive Chomping where
  | clip
  | strip
  | keep
  deriving Repr, DecidableEq

/-- The head of a block scalar: how its end is chomped, and how far it is indented if that is said. -/
structure BlockHead where
  chomping : Chomping := .clip
  width : Option Nat := none
  deriving Repr, DecidableEq

def chomping? (c : Char) : Option Chomping :=
  if c = '-' then some .strip else if c = '+' then some .keep else none

def width? (c : Char) : Option Nat :=
  if '1' ≤ c ∧ c ≤ '9' then some (c.toNat - '0'.toNat) else none

/-- Reads the head behind its mark, up to the end of the line: the chomping and the width in any order. -/
def Cursor.blockHead? (k : Cursor) : Option (BlockHead × Cursor) :=
  let marks := k.rest.takeWhile fun c => (chomping? c).isSome || (width? c).isSome
  let head? : Option BlockHead := match marks with
    | [] => some {}
    | [a] => some ⟨(chomping? a).getD .clip, width? a⟩
    | [a, b] =>
      match chomping? a, width? b, chomping? b, width? a with
      | some c, some w, _, _ => some ⟨c, some w⟩
      | _, _, some c, some w => some ⟨c, some w⟩
      | _, _, _, _ => none
    | _ => none
  match head?, (k.skip marks.length).endLine? with
  | some head, some k => some (head, k)
  | _, _ => none

/-- The blank lines in front of the first line of a block scalar. -/
structure BlankLines where
  /-- Their line breaks, latest first. -/
  breaks : List Char := []
  /-- The column that the deepest of them and the line behind them reach. -/
  deepest : Nat := 0
  cursor : Cursor
  deriving Repr, DecidableEq

/-- Whether a column is still in the indentation of a block scalar, which may not be known yet. -/
def inIndentation (width : Option Nat) (column : Nat) : Bool :=
  width.all (column < ·)

/-- Moves over blank lines and the indentation behind them; a tab in it is refused. -/
def readBlankLines (width : Option Nat) (breaks : List Char) (deepest : Nat) (p : Place) :
    List Char → Option BlankLines
  | [] => some ⟨breaks, max deepest p.column, ⟨[], p⟩⟩
  | c :: cs =>
    if c = ' ' && inIndentation width p.column then
      readBlankLines width breaks deepest (p.after c) cs
    else if c = '\t' && inIndentation width p.column then none
    else if isBreak c then
      readBlankLines width (c :: breaks) (max deepest p.column) (p.after c) cs
    else some ⟨breaks, max deepest p.column, ⟨c :: cs, p⟩⟩

/-- What has been read of a block scalar. -/
structure BlockText where
  /-- The characters, latest first. -/
  chars : List Char := []
  /-- The break that ended the last line with content. -/
  ended : Option Char := none
  /-- The breaks of the blank lines since then, latest first. -/
  blankBreaks : List Char := []
  /-- Whether the last line with content began with a blank. -/
  stoodOut : Bool := false
  deriving Repr, DecidableEq

namespace BlockText

/-- Begins a line with content, the first character of which is a blank or not. -/
def begin (t : BlockText) (folded standsOut : Bool) : BlockText :=
  let joined :=
    if folded && t.ended = some '\n' && !t.stoodOut && !standsOut then
      if t.blankBreaks = [] then ' ' :: t.chars else t.blankBreaks ++ t.chars
    else t.blankBreaks ++ (t.ended.toList ++ t.chars)
  { chars := joined, stoodOut := standsOut }

/-- The characters of the finished scalar, latest first. -/
def finish (t : BlockText) : Chomping → List Char
  | .strip => t.chars
  | .clip => t.ended.toList ++ t.chars
  | .keep => t.blankBreaks ++ (t.ended.toList ++ t.chars)

end BlockText

/-- Reads the lines that are indented at least so far. -/
def readBlockLines (folded : Bool) (width : Nat) (t : BlockText) (inLine : Bool) (p : Place) :
    List Char → Option (BlockText × Cursor)
  | [] => some (t, ⟨[], p⟩)
  | c :: cs =>
    if inLine then
      if isBreak c then
        readBlockLines folded width { t with ended := some c } false (p.after c) cs
      else readBlockLines folded width { t with chars := c :: t.chars } true (p.after c) cs
    else if p.column < width && c = ' ' then readBlockLines folded width t false (p.after c) cs
    else if p.column < width && c = '\t' then none
    else if isBreak c then
      readBlockLines folded width { t with blankBreaks := c :: t.blankBreaks } false (p.after c) cs
    else if p.column = width then
      let t := t.begin folded (isBlank c)
      readBlockLines folded width { t with chars := c :: t.chars } true (p.after c) cs
    else some (t, ⟨c :: cs, p⟩)

/-- Reads a block scalar behind its mark. What is not indented by a given width is indented as far as its
first line with content or a blank line before that, but at least so far as its place demands. -/
def Cursor.block? (k : Cursor) (folded : Bool) (least : Nat) : Option ScalarEnd := do
  let (head, k) ← k.blockHead?
  let given := head.width.map (least - 1 + ·)
  let blanks ← readBlankLines given [] 0 k.place k.rest
  let width := given.getD (max (max blanks.deepest least) 1)
  let start : BlockText := { blankBreaks := blanks.breaks }
  let (t, k) ← readBlockLines folded width start false blanks.cursor.place blanks.cursor.rest
  return ⟨t.finish head.chomping, true, k⟩

end Hostcall.Yaml
