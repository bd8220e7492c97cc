import Hostcall.Yaml.Place

/-!
# Folding

White space inside a scalar that goes on over several lines. Blanks around a line break do not count; a
break stands for a space, and each further one for itself. A separator of lines or paragraphs stands for
itself from the first.
-/

namespace Hostcall.Yaml

/-- The white space since the last character of a scalar that counts; characters come latest first. -/
structure Fold where
  blanks : List Char := []
  /-- Whether the line has been broken. -/
  broken : Bool := false
  /-- The first break, unless a backslash has taken it out. -/
  first : Option Char := none
  further : List Char := []
  deriving Repr, DecidableEq

namespace Fold

/-- Whether there is white space at all. -/
def isSome (f : Fold) : Bool := f.broken || f.blanks ≠ []

def blank (f : Fold) (c : Char) : Fold :=
  if f.broken then f else { f with blanks := c :: f.blanks }

def lineBreak (f : Fold) (c : Char) : Fold :=
  if f.broken then { f with further := c :: f.further } else { broken := true, first := some c }

/-- A line break that was taken out. -/
def escapedBreak : Fold := { broken := true }

/-- Appends what the white space stands for to the characters before it, latest first. -/
def settle (f : Fold) (chars : List Char) : List Char :=
  if !f.broken then f.blanks ++ chars
  else match f.first with
    | none => f.further ++ chars
    | some c =>
      if c ≠ '\n' then f.further ++ c :: chars
      else if f.further = [] then ' ' :: chars
      else f.further ++ chars

end Fold

/-- A scalar that has been read: its characters, latest first, and where the text goes on. -/
structure ScalarEnd where
  chars : List Char
  /-- Whether the text goes on behind a line break. -/
  broken : Bool := false
  cursor : Cursor
  deriving Repr, DecidableEq

def ScalarEnd.text (s : ScalarEnd) : String := String.ofList s.chars.reverse

end Hostcall.Yaml
