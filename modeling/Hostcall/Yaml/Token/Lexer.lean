import Hostcall.Yaml.Scalar.Block
import Hostcall.Yaml.Scalar.Plain
import Hostcall.Yaml.Token

/-!
# Reading tokens

A text is read token by token. A key without a question mark is known only by the colon behind it, so its
place among the tokens is kept until the colon comes or can come no more: the colon must stand on the line
of the key, at most 1024 bytes behind its beginning.
-/

namespace Hostcall.Yaml

/-- What may turn out to be a key. -/
structure PendingKey where
  /-- How many tokens come before it. -/
  index : Nat
  place : Place
  /-- Whether it cannot be anything else. -/
  required : Bool
  deriving Repr, DecidableEq

/-- Whether a colon at a place can still make a key of it. -/
def PendingKey.isInReach (key : PendingKey) (p : Place) : Bool :=
  key.place.line = p.line && p.offset ≤ key.place.offset + 1024

/-- How far a text has been read. -/
structure Lexer where
  cursor : Cursor
  /-- The tokens so far, latest first. -/
  tokens : List Token := []
  count : Nat := 0
  /-- The columns of the block collections around the place, innermost first. -/
  columns : List Nat := []
  /-- What may be a key in the innermost collection. -/
  pending : Option PendingKey := none
  /-- The same for the collections around it, of which all but the last are between brackets. -/
  outer : List (Option PendingKey) := []
  /-- Whether a key, or a block collection, may begin here. -/
  keyAllowed : Bool := true
  deriving Repr, DecidableEq

namespace Lexer

/-- Whether the place is between brackets. -/
def inFlow (s : Lexer) : Bool := !s.outer.isEmpty

/-- The least column of what belongs to the innermost block collection. -/
def least (s : Lexer) : Nat :=
  match s.columns with
  | [] => 0
  | c :: _ => c + 1

def push (s : Lexer) (t : Token) : Lexer :=
  { s with tokens := t :: s.tokens, count := s.count + 1 }

/-- Puts a token behind the first `index` of them. -/
def insertAt (s : Lexer) (index : Nat) (t : Token) : Lexer :=
  let later := s.count - index
  { s with tokens := s.tokens.take later ++ t :: s.tokens.drop later, count := s.count + 1 }

/-- Appends a token for the next characters, of which there are so many. -/
def take (s : Lexer) (t : Token) (width : Nat) : Lexer :=
  { s.push t with cursor := s.cursor.skip width }

/-- Moves over white space and comments. A new line may begin a key; a tab may stand only where none
begins. A byte order mark may stand at the beginning of a line; it takes up a column. -/
def skipGap (flow allowed inComment : Bool) (p : Place) : List Char → Cursor × Bool
  | [] => (⟨[], p⟩, allowed)
  | c :: cs =>
    if isBreak c then skipGap flow (allowed || !flow) false (p.after c) cs
    else if inComment || c = '#' then skipGap flow allowed true (p.after c) cs
    else if c = ' ' || (c = '\t' && (flow || !allowed)) || (c = '\uFEFF' && p.column = 0) then
      skipGap flow allowed false (p.after c) cs
    else (⟨c :: cs, p⟩, allowed)

/-- Ends the block collections that are indented further than a column. -/
def closeDeeper (column : Nat) : List Nat → List Token → Nat → List Nat × List Token × Nat
  | [], tokens, count => ([], tokens, count)
  | c :: columns, tokens, count =>
    if column < c then closeDeeper column columns (.blockEnd :: tokens) (count + 1)
    else (c :: columns, tokens, count)

/-- Ends the block collections that a column is not inside of. -/
def closeTo (s : Lexer) (column : Nat) : Lexer :=
  if s.inFlow then s
  else
    let (columns, tokens, count) := closeDeeper column s.columns s.tokens s.count
    { s with columns, tokens, count }

/-- Ends all block collections. -/
def closeAll (s : Lexer) : Lexer :=
  if s.inFlow then s
  else
    { s with
      tokens := s.columns.foldl (fun tokens _ => .blockEnd :: tokens) s.tokens
      count := s.count + s.columns.length
      columns := [] }

/-- Begins a block collection at a column, behind the first `index` tokens, unless it has begun. -/
def openAt (s : Lexer) (column index : Nat) (t : Token) : Lexer :=
  if s.inFlow || s.columns.head?.any (column ≤ ·) then s
  else { s.insertAt index t with columns := column :: s.columns }

/-- Gives up what might have been a key; one that had to be is refused. -/
def dropKey? (s : Lexer) : Option Lexer :=
  if s.pending.any (·.required) then none else some { s with pending := none }

/-- Notes that what comes next may be a key. In a block mapping, what stands at its column must be one. -/
def saveKey? (s : Lexer) : Option Lexer :=
  if !s.keyAllowed then some s
  else
    let place := s.cursor.place
    let required := !s.inFlow && s.columns.head? = some place.column
    s.dropKey?.map fun s => { s with pending := some ⟨s.count, place, required⟩ }

/-- A mark between documents. -/
def division? (s : Lexer) (t : Token) : Option Lexer := do
  let s ← s.closeAll.dropKey?
  return { s.take t 3 with keyAllowed := false }

def openFlow? (s : Lexer) (t : Token) : Option Lexer := do
  let s ← s.saveKey?
  return { s.take t 1 with pending := none, outer := s.pending :: s.outer, keyAllowed := true }

def closeFlow? (s : Lexer) (t : Token) : Option Lexer := do
  let s ← s.dropKey?
  let s := { s.take t 1 with keyAllowed := false }
  match s.outer with
  | [] => return s
  | pending :: outer => return { s with pending, outer }

def comma? (s : Lexer) : Option Lexer := do
  let s ← s.dropKey?
  return { s.take .comma 1 with keyAllowed := true }

/-- The dash of an item, which begins a block sequence if none is there. -/
def dash? (s : Lexer) : Option Lexer := do
  if !s.inFlow && !s.keyAllowed then none
  let s ← (s.openAt s.cursor.place.column s.count .blockSequence).dropKey?
  return { s.take .dash 1 with keyAllowed := true }

/-- The question mark before a key. -/
def key? (s : Lexer) : Option Lexer := do
  if !s.inFlow && !s.keyAllowed then none
  let s ← (s.openAt s.cursor.place.column s.count .blockMapping).dropKey?
  return { s.take .key 1 with keyAllowed := !s.inFlow }

/-- The colon before a value: behind a key that was pending, or behind one with a question mark. -/
def value? (s : Lexer) : Option Lexer :=
  match s.pending.filter (·.isInReach s.cursor.place) with
  | some key =>
    let s := (s.insertAt key.index .key).openAt key.place.column key.index .blockMapping
    some { s.take .value 1 with pending := none, keyAllowed := false }
  | none => do
    let s ← s.dropKey?
    if !s.inFlow && !s.keyAllowed then none
    let s := s.openAt s.cursor.place.column s.count .blockMapping
    return { s.take .value 1 with keyAllowed := !s.inFlow }

/-- An alias or an anchor: a word behind its mark, at whose end a name can end. -/
def named? (s : Lexer) (token : String → Token) : Option Lexer := do
  let s ← s.saveKey?
  let (word, k) := s.cursor.next.run isWordChar
  let ends := atGap k.rest || k.rest.head?.any (· ∈ ['?', ':', ',', ']', '\x7d', '%', '@', '\x60'])
  if word = [] || !ends then none
  return { s.push (token (String.ofList word)) with cursor := k, keyAllowed := false }

def tag? (s : Lexer) : Option Lexer := do
  let s ← s.saveKey?
  let (t, k) ← s.cursor.tag? s.inFlow
  return { s.push (.tag t) with cursor := k, keyAllowed := false }

def block? (s : Lexer) (folded : Bool) : Option Lexer := do
  let s ← s.dropKey?
  let found ← s.cursor.next.block? folded s.least
  return { s.push (.scalar true found.text) with cursor := found.cursor, keyAllowed := true }

def quoted? (s : Lexer) : Option Lexer := do
  let s ← s.saveKey?
  let found ← s.cursor.quoted?
  return { s.push (.scalar true found.text) with cursor := found.cursor, keyAllowed := false }

def plain? (s : Lexer) : Option Lexer := do
  let s ← s.saveKey?
  let found ← s.cursor.plain? s.inFlow s.least
  return { s.push (.scalar false found.text) with
    cursor := found.cursor, keyAllowed := found.broken }

/-- A number of at most nine digits. -/
def number? (k : Cursor) : Option (Nat × Cursor) :=
  let (digits, k) := k.run Char.isDigit
  if digits = [] ∨ 9 < digits.length then none
  else some (digits.foldl (fun n c => n * 10 + (c.toNat - '0'.toNat)) 0, k)

/-- The token of a directive behind its percent sign. -/
def directiveToken? (k : Cursor) : Option (Token × Cursor) := do
  let (word, k) := k.run isWordChar
  if !atGap k.rest then none
  let k := k.skipRun isBlank
  if word = "YAML".toList then
    let (major, k) ← number? k
    if k.rest.head? ≠ some '.' then none
    let (minor, k) ← number? k.next
    return (.version major minor, k)
  else if word = "TAG".toList then
    let (handle, k) ← k.handle?
    if !k.rest.head?.any isBlank then none
    let (stem, k) ← (k.skipRun isBlank).name1? true
    if !atGap k.rest then none
    return (.shorthand ⟨handle, stem⟩, k)
  else none

/-- A directive, which takes up its line. -/
def directive? (s : Lexer) : Option Lexer := do
  let s ← s.closeAll.dropKey?
  let (t, k) ← directiveToken? s.cursor.next
  let k ← k.endLine?
  return { s.push t with cursor := k, keyAllowed := false }

/-- Reads the next token, which begins with a given character. -/
def token? (s : Lexer) (c : Char) (cs : List Char) : Option Lexer :=
  let column := s.cursor.place.column
  let flow := s.inFlow
  if column = 0 ∧ c = '%' then s.directive?
  else if column = 0 ∧ startsWithMark '-' (c :: cs) then s.division? .documentStart
  else if column = 0 ∧ startsWithMark '.' (c :: cs) then s.division? .documentEnd
  else if c = '[' then s.openFlow? .openBracket
  else if c = '\x7b' then s.openFlow? .openBrace
  else if c = ']' then s.closeFlow? .closeBracket
  else if c = '\x7d' then s.closeFlow? .closeBrace
  else if c = ',' then s.comma?
  else if c = '-' ∧ atGap cs then s.dash?
  else if c = '?' ∧ (flow ∨ atGap cs) then s.key?
  else if c = ':' ∧ (flow ∨ atGap cs) then s.value?
  else if c = '*' then s.named? .alias
  else if c = '&' then s.named? .anchor
  else if c = '!' then s.tag?
  else if c = '|' ∧ !flow then s.block? false
  else if c = '>' ∧ !flow then s.block? true
  else if c = '\'' ∨ c = '"' then s.quoted?
  else if startsPlain flow (c :: cs) then s.plain?
  else none

/-- Reads all tokens; every one of them takes a character. -/
def run : Nat → Lexer → Option (List Token)
  | 0, _ => none
  | n + 1, s =>
    let (cursor, keyAllowed) := skipGap s.inFlow s.keyAllowed false s.cursor.place s.cursor.rest
    let s := { s with cursor, keyAllowed }
    match cursor.rest with
    | [] => s.closeAll.dropKey?.map (·.tokens.reverse)
    | c :: cs =>
      match (s.closeTo cursor.place.column).token? c cs with
      | none => none
      | some s => run n s

end Lexer

/-- The tokens of a text. -/
def Token.ofText? (text : String) : Option (List Token) :=
  let chars := text.toList
  if !chars.all isAllowed then none
  else Lexer.run (chars.length + 1) { cursor := ⟨unifyBreaks [] chars, {}⟩ }

end Hostcall.Yaml
