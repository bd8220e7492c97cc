/-!
# Places in a text

Characters that divide a text into lines and words, and the place that a reader has reached in it.
-/

namespace Hostcall.Yaml

def isBlank (c : Char) : Bool := c = ' ' || c = '\t'

/-- The characters that end a line, once `unifyBreaks` has been over the text. -/
def isBreak (c : Char) : Bool := c = '\n' || c = '\u2028' || c = '\u2029'

/-- The text with one newline for each of the other spellings of a line break; the separators of lines and
paragraphs stay what they are. The characters done so far come latest first. -/
def unifyBreaks (done : List Char) : List Char → List Char
  | [] => done.reverse
  | '\r' :: '\n' :: cs => unifyBreaks ('\n' :: done) cs
  | '\r' :: cs => unifyBreaks ('\n' :: done) cs
  | '\u0085' :: cs => unifyBreaks ('\n' :: done) cs
  | c :: cs => unifyBreaks (c :: done) cs

/-- Whether a text is at a blank, at the end of its line, or at its own end. -/
def atGap : List Char → Bool
  | [] => true
  | c :: _ => isBlank c || isBreak c

/-- Whether a character may occur in a text at all. -/
def isAllowed (c : Char) : Bool :=
  let n := c.toNat
  n = 9 || n = 10 || n = 13 || (0x20 ≤ n && n ≤ 0x7E) || n = 0x85 ||
    (0xA0 ≤ n && n ≠ 0xFFFE && n ≠ 0xFFFF)

/-- The characters of names. -/
def isWordChar (c : Char) : Bool := c.isAlphanum || c = '_' || c = '-'

/-- The marks of collections between brackets. -/
def isFlowMark (c : Char) : Bool :=
  c = ',' || c = '[' || c = ']' || c = '\x7b' || c = '\x7d'

/-- A place: its line, and how far into it, in characters and in bytes. -/
structure Place where
  line : Nat := 0
  column : Nat := 0
  offset : Nat := 0
  deriving Repr, DecidableEq

/-- The place behind a character. -/
def Place.after (p : Place) (c : Char) : Place :=
  if isBreak c then ⟨p.line + 1, 0, 0⟩ else ⟨p.line, p.column + 1, p.offset + c.utf8Size⟩

/-- What is left of a text, and where that begins. -/
structure Cursor where
  rest : List Char
  place : Place := {}
  deriving Repr, DecidableEq

namespace Cursor

/-- Moves over one character. -/
def next (k : Cursor) : Cursor :=
  match k.rest with
  | [] => k
  | c :: cs => ⟨cs, k.place.after c⟩

/-- Moves over so many characters. -/
def skip (k : Cursor) : Nat → Cursor
  | 0 => k
  | n + 1 => k.next.skip n

/-- Takes the longest run of characters of a class. -/
def run (k : Cursor) (p : Char → Bool) : List Char × Cursor :=
  let found := k.rest.takeWhile p
  (found, ⟨k.rest.dropWhile p, found.foldl Place.after k.place⟩)

/-- Moves over the longest run of characters of a class. -/
def skipRun (k : Cursor) (p : Char → Bool) : Cursor := (k.run p).2

/-- Moves over blanks and a comment, up to the end of the line; anything else there is refused. -/
def endLine? (k : Cursor) : Option Cursor :=
  let k := k.skipRun isBlank
  let k := if k.rest.head? = some '#' then k.skipRun (!isBreak ·) else k
  match k.rest with
  | [] => some k
  | c :: _ => if isBreak c then some k.next else none

end Cursor

/-- Whether a line begins with a mark of three characters that stands alone. -/
def startsWithMark (mark : Char) : List Char → Bool
  | a :: b :: c :: cs => a = mark && b = mark && c = mark && atGap cs
  | _ => false

/-- Whether a line begins with the mark between documents. -/
def atDivision (column : Nat) (cs : List Char) : Bool :=
  column = 0 && (startsWithMark '-' cs || startsWithMark '.' cs)

end Hostcall.Yaml
