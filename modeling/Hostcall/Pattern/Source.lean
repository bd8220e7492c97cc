import Hostcall.Pattern.Nesting
import Hostcall.Text.Blank
import Hostcall.Text.Split

/-!
# Reading patterns

What is left of a written pattern, the options that are in force, and the ways in which it can be wrong.
-/

namespace Hostcall

/-- What is wrong with a written pattern. -/
inductive PatternFault where
  | classEscape
  | classRange
  | classBoundary
  | classUnclosed
  | decimalInvalid
  | hexEmpty
  | hexInvalid
  | hexDigit
  | escapeUnfinished
  | escapeUnknown
  | flagDangling
  | flagDuplicate
  | flagNegatedTwice
  | flagUnfinished
  | flagUnknown
  | nameDuplicate
  | nameEmpty
  | nameInvalid
  | nameUnfinished
  | groupUnclosed
  | groupUnopened
  | countInvalid
  | countEmpty
  | countUnclosed
  | nothingToRepeat
  | edgeUnclosed
  | edgeUnknown
  | edgeUnfinished
  | propertyInvalid
  | propertyUnknown
  | propertyValueUnknown
  | letterClassUnknown
  | caseUnknown
  | backreference
  | lookAround
  | tooDeep
  | unicodeNeeded
  | notText
  deriving Repr, DecidableEq

def PatternFault.message : PatternFault → String
  | classEscape => "invalid escape sequence found in character class"
  | classRange => "invalid character class range, the start must be <= the end"
  | classBoundary => "invalid range boundary, must be a literal"
  | classUnclosed => "unclosed character class"
  | decimalInvalid => "decimal literal invalid"
  | hexEmpty => "hexadecimal literal empty"
  | hexInvalid => "hexadecimal literal is not a Unicode scalar value"
  | hexDigit => "invalid hexadecimal digit"
  | escapeUnfinished => "incomplete escape sequence, reached end of pattern prematurely"
  | escapeUnknown => "unrecognized escape sequence"
  | flagDangling => "dangling flag negation operator"
  | flagDuplicate => "duplicate flag"
  | flagNegatedTwice => "flag negation operator repeated"
  | flagUnfinished => "expected flag but got end of regex"
  | flagUnknown => "unrecognized flag"
  | nameDuplicate => "duplicate capture group name"
  | nameEmpty => "empty capture group name"
  | nameInvalid => "invalid capture group character"
  | nameUnfinished => "unclosed capture group name"
  | groupUnclosed => "unclosed group"
  | groupUnopened => "unopened group"
  | countInvalid => "invalid repetition count range, the start must be <= the end"
  | countEmpty => "repetition quantifier expects a valid decimal"
  | countUnclosed => "unclosed counted repetition"
  | nothingToRepeat => "repetition operator missing expression"
  | edgeUnclosed =>
    "special word boundary assertion is either unclosed or contains an invalid character"
  | edgeUnknown => "unrecognized special word boundary assertion, valid choices are: " ++
    "start, end, start-half or end-half"
  | edgeUnfinished => "found either the beginning of a special word boundary or a bounded " ++
    "repetition on a \\b with an opening brace, but no closing brace"
  | propertyInvalid => "invalid Unicode character class"
  | propertyUnknown => "Unicode property not found"
  | propertyValueUnknown => "Unicode property value not found"
  | letterClassUnknown => "Unicode-aware Perl class not found " ++
    "(make sure the unicode-perl feature is enabled)"
  | caseUnknown => "Unicode-aware case insensitivity matching is not available " ++
    "(make sure the unicode-case feature is enabled)"
  | backreference => "backreferences are not supported"
  | lookAround => "look-around, including look-ahead and look-behind, is not supported"
  | tooDeep => "exceed the maximum number of nested parentheses/brackets (250)"
  | unicodeNeeded => "Unicode not allowed here"
  | notText => "pattern can match invalid UTF-8"

/-- What is wrong with a written pattern, and where, from left to right. -/
structure PatternError where
  fault : PatternFault
  places : List Stretch
  deriving Repr, DecidableEq

namespace PatternError

/-- A line that points at stretches of the line above it, from a column on. -/
def pointer (column : Nat) : List Stretch → List Char
  | [] => []
  | s :: places =>
    let width := max 1 (s.behind - s.first)
    List.replicate (s.first - column) ' ' ++ List.replicate width '^' ++
      pointer (max column s.first + width) places

/-- The line and the column of a place, both counted from zero. -/
def lineAndColumn (written : List Char) (place : Nat) : Nat × Nat :=
  let before := written.take place
  (before.count '\n', (before.reverse.takeWhile (· ≠ '\n')).length)

/-- The stretches in a line, counted from the line's beginning. -/
def placesInLine (e : PatternError) (written : List Char) (line : Nat) : List Stretch :=
  e.places.filterMap fun s =>
    let (first, column) := lineAndColumn written s.first
    let (last, columnBehind) := lineAndColumn written s.behind
    if first = line ∧ last = line then some ⟨column, columnBehind⟩ else none

/-- A line of a pattern, and one that points at what is wrong in it. -/
def describeLine (label line : List Char) (places : List Stretch) : List Char :=
  let pointers :=
    if places = [] then []
    else List.replicate label.length ' ' ++ pointer 0 places ++ ['\n']
  label ++ line ++ ['\n'] ++ pointers

/-- Where the stretches that go over several lines begin and end. -/
def longPlaces (e : PatternError) (written : List Char) : List String :=
  e.places.filterMap fun s =>
    let (first, column) := lineAndColumn written s.first
    let (last, columnBehind) := lineAndColumn written s.behind
    if first = last then none
    else some s!"on line {first + 1} (column {column + 1}) through line {last + 1} (column {columnBehind})\n"

/-- The lines of a pattern with numbers in front of them. -/
def describeLines (e : PatternError) (written : List Char) : List Char :=
  let lines := Text.split (· = '\n') written
  let width := (toString lines.length).length
  let shown := if lines.getLast? = some [] then lines.dropLast else lines
  shown.zipIdx.flatMap fun (line, i) =>
    let number := (toString (i + 1)).toList
    let label := List.replicate (width - number.length) ' ' ++ number ++ [':', ' ']
    let line := if line.getLast? = some '\r' then line.dropLast else line
    describeLine label line (e.placesInLine written i)

/-- An error with the pattern that it was found in. -/
def describe (e : PatternError) (written : String) : String :=
  let chars := written.toList
  let shown :=
    if '\n' ∈ chars then
      let divider := List.replicate 79 '~' ++ ['\n']
      divider ++ e.describeLines chars ++ divider ++ (String.join (e.longPlaces chars)).toList
    else describeLine "    ".toList chars e.places
  "regex parse error:\n" ++ String.ofList shown ++ "error: " ++ e.fault.message

end PatternError

/-- The options of a pattern, which are set in the middle of it. -/
inductive PatternOption where
  | ignoreCase
  | multiLine
  | dotMatchesBreak
  | swapGreed
  | unicode
  | carriageReturns
  | ignoreSpace
  deriving Repr, DecidableEq

/-- What is left of a written pattern. -/
structure PatternSource where
  rest : List Char
  position : Nat := 0
  /-- The options in force. -/
  options : List PatternOption := [.unicode]
  /-- How many groups have been begun that are kept track of. -/
  groups : Nat := 0
  /-- The names of groups that have been read, and where. -/
  names : List (String × Stretch) := []
  /-- What is wrong with the meaning of a piece. It counts if the whole pattern is well formed. -/
  complaint : Option PatternError := none
  deriving Repr, DecidableEq

/-- Takes an `α` off the front of a written pattern. -/
abbrev PatternReader := StateT PatternSource (Except PatternError)

namespace PatternReader

def next? : PatternReader (Option Char) := return (← get).rest.head?

def position : PatternReader Nat := return (← get).position

def hasOption (o : PatternOption) : PatternReader Bool := return o ∈ (← get).options

/-- Says what is wrong, and in what stretch. -/
def refuse {α : Type} (fault : PatternFault) (first behind : Nat) : PatternReader α :=
  throw ⟨fault, [⟨first, behind⟩]⟩

/-- Says what is wrong with the meaning of a stretch that is well formed. -/
def complain (fault : PatternFault) (first behind : Nat) : PatternReader Unit :=
  modify fun s => { s with complaint := s.complaint <|> some ⟨fault, [⟨first, behind⟩]⟩ }

/-- Says that something is wrong with the next character. -/
def refuseNext {α : Type} (fault : PatternFault) : PatternReader α := do
  let p ← position
  refuse fault p (p + 1)

/-- Says that something is wrong at this place. -/
def refuseHere {α : Type} (fault : PatternFault) : PatternReader α := do
  let p ← position
  refuse fault p p

/-- Moves over so many characters. -/
def skip (n : Nat) : PatternReader Unit :=
  modify fun s => { s with rest := s.rest.drop n, position := s.position + (s.rest.take n).length }

def advance : PatternReader Unit := skip 1

/-- How many characters at the front are white space and comments. -/
def spaceWidth (inComment : Bool) (width : Nat) : List Char → Nat
  | [] => width
  | c :: cs =>
    if inComment then spaceWidth (c ≠ '\n') (width + 1) cs
    else if Text.isBlank c then spaceWidth false (width + 1) cs
    else if c = '#' then spaceWidth true (width + 1) cs
    else width

/-- Moves over white space and comments where they do not count. -/
def skipSpace : PatternReader Unit := do
  if ← hasOption .ignoreSpace then skip (spaceWidth false 0 (← get).rest)

/-- Moves over one character and what does not count behind it. -/
def advanceSpaced : PatternReader Unit := do
  advance
  skipSpace

/-- Moves over a text if it comes next. -/
def takes (text : String) : PatternReader Bool := do
  if text.toList.isPrefixOf (← get).rest then
    skip text.length
    return true
  else return false

/-- The next character; at the end of the pattern something is wrong in the stretch from a place to here. -/
def orUnfinished (fault : PatternFault) (first : Nat) : PatternReader Char := do
  match ← next? with
  | some c => return c
  | none => refuse fault first (← position)

end PatternReader

end Hostcall
