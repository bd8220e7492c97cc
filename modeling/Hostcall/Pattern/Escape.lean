import Hostcall.Pattern.Basic
import Hostcall.Pattern.Source

/-!
# Escapes

What a backslash and the characters behind it stand for.
-/

namespace Hostcall

/-- The smallest parts of a pattern. -/
inductive PatternAtom where
  | literal (c : Char)
  /-- A byte beyond ASCII, by the character with its number. By itself it is no text. -/
  | byte (c : Char)
  | among (k : CharClass)
  | assertion (a : Assertion)
  deriving Repr, DecidableEq

/-- A part of a pattern and the stretch that it was read from. -/
structure PlacedAtom where
  atom : PatternAtom
  place : Stretch
  deriving Repr, DecidableEq

/-- Characters that stand for themselves behind a backslash: those with a meaning of their own, and all
others of ASCII that are no letters, digits or angle brackets. -/
def standsForItself (c : Char) : Bool :=
  c.toNat < 0x80 && !c.isAlphanum && c ≠ '<' && c ≠ '>'

/-- The value of a hexadecimal digit. -/
def patternHex? (c : Char) : Option Nat :=
  if '0' ≤ c ∧ c ≤ '9' then some (c.toNat - '0'.toNat)
  else if 'a' ≤ c ∧ c ≤ 'f' then some (c.toNat - 'a'.toNat + 10)
  else if 'A' ≤ c ∧ c ≤ 'F' then some (c.toNat - 'A'.toNat + 10)
  else none

/-- The character of a code point in hexadecimal digits. -/
def hexChar? (digits : List Char) : Option Char := do
  let n ← digits.foldlM (fun n c => (patternHex? c).map (n * 16 + ·)) 0
  if h : n.isValidChar then some (Char.ofNatAux n h) else none

/-- What is wrong with a property: none is known, and of three names only values. -/
def propertyFault (name : List Char) : PatternFault :=
  let name := match name with
    | i :: s :: cs => if i.toLower = 'i' ∧ s.toLower = 's' then cs else name
    | _ => name
  let name := name.filter fun c => c.toNat < 0x80 && c ∉ [' ', '_', '-']
  if String.ofList (name.map Char.toLower) ∈ ["cf", "sc", "lc"] then .propertyValueUnknown
  else .propertyUnknown

namespace PatternReader

/-- Reads hexadecimal digits up to a closing brace; those read before come latest first. -/
def bracedHex (opened : Nat) : Nat → List Char → PatternReader (List Char)
  | 0, found => return found.reverse
  | n + 1, found => do
    advanceSpaced
    let c ← orUnfinished .escapeUnfinished opened
    if c = '\x7d' then return found.reverse
    if (patternHex? c).isNone then refuseNext .hexDigit
    bracedHex opened n (c :: found)

/-- Reads so many hexadecimal digits. -/
def fixedHex : Nat → List Char → PatternReader (List Char)
  | 0, found => return found.reverse
  | n + 1, found => do
    let c ← orUnfinished .escapeUnfinished (← position)
    if (patternHex? c).isNone then refuseNext .hexDigit
    advanceSpaced
    fixedHex n (c :: found)

/-- Reads a code point behind its letter. Where no other characters than those of ASCII are known, two
digits are a byte. -/
def hexEscape (width : Nat) : PatternReader PatternAtom := do
  advanceSpaced
  let opened ← position
  if (← orUnfinished .escapeUnfinished opened) = '\x7b' then
    let digits ← bracedHex opened (← get).rest.length []
    let closed ← position
    advanceSpaced
    if digits = [] then refuse .hexEmpty opened (← position)
    match hexChar? digits with
    | some c => return .literal c
    | none => refuse .hexInvalid (opened + 1) closed
  else
    let digits ← fixedHex width []
    match hexChar? digits with
    | some c =>
      if !(← hasOption .unicode) ∧ width = 2 ∧ c.toNat ≥ 0x80 then return .byte c
      else return .literal c
    | none => refuse .hexInvalid opened (← position)

/-- Reads a name up to a closing brace; the characters read before come latest first. -/
def bracedName : Nat → List Char → PatternReader (List Char)
  | 0, found => return found.reverse
  | n + 1, found => do
    advanceSpaced
    match ← next? with
    | none => return found.reverse
    | some c => if c = '\x7d' then return found.reverse else bracedName n (c :: found)

/-- Reads a property behind its letter: a letter, or a name in braces. No property is known. -/
def propertyEscape (start : Nat) : PatternReader CharClass := do
  advanceSpaced
  let c ← orUnfinished .escapeUnfinished (← position)
  let name ←
    if c = '\x7b' then
      let name ← bracedName (← get).rest.length []
      let _ ← orUnfinished .escapeUnfinished (← position)
      advance
      pure name
    else if c = '\\' then refuseNext .propertyInvalid
    else
      advanceSpaced
      pure [c]
  let fault := if ← hasOption .unicode then propertyFault name else .unicodeNeeded
  complain fault start (← position)
  return .nothing

/-- Whether a character may stand in the name of an edge. -/
def isEdgeChar (c : Char) : Bool := c.isAlpha || c = '-'

/-- Reads what may follow the escape for the edge of a word: in braces, which edge is meant. Braces that hold
no name are left alone. -/
def edgeName (start : Nat) : PatternReader Assertion := do
  if (← next?) ≠ some '\x7b' then return .wordEdge
  let s ← get
  let opened ← position
  advanceSpaced
  let c ← orUnfinished .edgeUnfinished start
  if !isEdgeChar c then
    set s
    return .wordEdge
  let first ← position
  let name := (← get).rest.takeWhile isEdgeChar
  skip name.length
  skipSpace
  if (← next?) ≠ some '\x7d' then refuse .edgeUnclosed opened (← position)
  let closed ← position
  advance
  match String.ofList name with
  | "start" => return .wordStart
  | "end" => return .wordEnd
  | "start-half" => return .noWordBefore
  | "end-half" => return .noWordBehind
  | _ => refuse .edgeUnknown first closed

/-- The class that a letter stands for, among the characters of ASCII. -/
def letterClass? : Char → Option CharClass
  | 'd' => some .digit
  | 'D' => some (.complement .digit)
  | 's' => some .blank
  | 'S' => some (.complement .blank)
  | 'w' => some .word
  | 'W' => some (.complement .word)
  | _ => none

/-- The character that a letter stands for. -/
def letterChar? : Char → Option Char
  | 'a' => some '\x07'
  | 'f' => some '\x0c'
  | 't' => some '\t'
  | 'n' => some '\n'
  | 'r' => some '\r'
  | 'v' => some '\x0b'
  | _ => none

/-- The assertion that a letter stands for. -/
def letterAssertion? : Char → Option Assertion
  | 'A' => some .textStart
  | 'z' => some .textEnd
  | 'B' => some .noWordEdge
  | '<' => some .wordStart
  | '>' => some .wordEnd
  | _ => none

/-- Whether an assertion is about the text as a whole. -/
def isTextEdge (a : Assertion) : Bool := a = .textStart || a = .textEnd

/-- The number of digits of a code point without braces. -/
def hexWidth? : Char → Option Nat
  | 'x' => some 2
  | 'u' => some 4
  | 'U' => some 8
  | _ => none

/-- A class behind a backslash. Letters stand for one only among the characters of ASCII, and what it admits
beyond them is no text. -/
def letterClass (k : CharClass) (start : Nat) : PatternReader PatternAtom := do
  if ← hasOption .unicode then complain .letterClassUnknown start (← position)
  else if !k.isAscii then complain .notText start (← position)
  return .among k

/-- An assertion behind a backslash. Words are known only among the characters of ASCII. -/
def letterAssertion (a : Assertion) : PatternReader PatternAtom := do
  if isTextEdge a ∨ !(← hasOption .unicode) then return .assertion a
  else return .assertion .unknownWord

/-- Reads an escape, which begins with a backslash. -/
def escape : PatternReader PatternAtom := do
  let start ← position
  advance
  let c ← orUnfinished .escapeUnfinished start
  if c.isDigit then refuse .backreference start ((← position) + 1)
  else if let some width := hexWidth? c then hexEscape width
  else if c = 'p' ∨ c = 'P' then return .among (← propertyEscape start)
  else
    advance
    if standsForItself c then return .literal c
    else if let some k := letterClass? c then letterClass k start
    else if let some d := letterChar? c then return .literal d
    else if let some a := letterAssertion? c then letterAssertion a
    else if c = 'b' then letterAssertion (← edgeName start)
    else refuse .escapeUnknown start (← position)

/-- Reads an atom together with its place. -/
def placed (atom : PatternReader PatternAtom) : PatternReader PlacedAtom := do
  let first ← position
  let atom ← atom
  return ⟨atom, first, ← position⟩

end PatternReader

end Hostcall
