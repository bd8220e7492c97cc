/-!
# Readers

A reader takes something off the front of a character list, or refuses. Readers are joined by sequence
and by choice; a refused choice takes nothing.
-/

namespace Hostcall.Text

/-- Takes an `α` off the front of the text, or refuses. -/
abbrev Reader := StateT (List Char) Option

namespace Reader

/-- The next character, which stays where it is. -/
def peek? : Reader (Option Char) := fun cs => some (cs.head?, cs)

/-- What is left to read. -/
def rest : Reader (List Char) := fun cs => some (cs, cs)

/-- Takes the next character if it satisfies a test. -/
def satisfy (p : Char → Bool) : Reader Char := fun
  | [] => none
  | c :: cs => if p c then some (c, cs) else none

def char (c : Char) : Reader Unit := (fun _ => ()) <$> satisfy (· = c)

/-- Takes a given text. -/
def literal (text : String) : Reader Unit := fun cs =>
  if text.toList.isPrefixOf cs then some ((), cs.drop text.length) else none

/-- Takes the longest run of characters of a class. -/
def run (p : Char → Bool) : Reader (List Char) := fun cs => some (cs.takeWhile p, cs.dropWhile p)

/-- Takes the longest run of characters of a class, which must not be empty. -/
def run1 (p : Char → Bool) : Reader (List Char) := fun cs =>
  match cs.takeWhile p with
  | [] => none
  | found => some (found, cs.dropWhile p)

/-- Refuses unless everything has been read. -/
def done : Reader Unit := fun
  | [] => some ((), [])
  | _ => none

/-- Reads items as long as they are there, at most as many as the bound has members; those found before
come latest first. -/
def manyWithin {α : Type} (item : Reader α) (found : List α) :
    List Char → List Char → List α × List Char
  | [], cs => (found.reverse, cs)
  | _ :: bound, cs =>
    match item cs with
    | none => (found.reverse, cs)
    | some (a, rest) => manyWithin item (a :: found) bound rest

/-- Reads items as long as they are there; each of them must take a character, so the text itself bounds
their number. -/
def many {α : Type} (item : Reader α) : Reader (List α) := fun cs =>
  some (manyWithin item [] cs cs)

/-- Reads items with separators between neighbours, at least one item. -/
def separated {α : Type} (item : Reader α) (separator : Reader Unit) : Reader (List α) := do
  let first ← item
  let others ← many (do separator; item)
  return first :: others

/-- Reads a whole text. -/
def readAll {α : Type} (r : Reader α) (text : String) : Option α :=
  match (r <* done) text.toList with
  | none => none
  | some (a, _) => some a

end Reader

end Hostcall.Text
