import Hostcall.Toml.Scalar

/-!
# TOML documents

Values that hold values, the lines of a document, and the table that they build up.
-/

namespace Hostcall.Toml

open Text (Reader)

/-- A bare key or a quoted one. -/
def simpleKey : Reader String :=
  lineString
    <|> String.ofList <$> Reader.run1 fun c => c.isAlphanum || c = '_' || c = '-'

/-- A key with the keys of the tables that it lies in. -/
structure KeyPath where
  path : List String
  key : String
  deriving Repr, DecidableEq

/-- A value may have fewer values than this around it, and a key fewer parts. -/
def depthLimit : Nat := 100

/-- Keys joined by dots. -/
def keyPath : Reader KeyPath := do
  let keys ← Reader.separated simpleKey do
    spaces
    Reader.char '.'
    spaces
  match keys.getLast? with
  | none => failure
  | some key => if keys.length < depthLimit then pure ⟨keys.dropLast, key⟩ else failure

/-- Blanks, line breaks and comments inside an array. -/
def gap : Reader Unit :=
  (fun _ => ()) <$> Reader.many
    ((fun _ => ()) <$> Reader.run1 isSpace <|> newline <|> (do comment; newline))

/-- An array around a reader for its items; a comma may follow the last. -/
def arrayOf (item : Reader Value) : Reader Value := do
  Reader.char '['
  gap
  let items ← (Reader.separated item (do gap; Reader.char ','; gap)) <|> pure []
  gap
  if !items.isEmpty then
    (Reader.char ',') <|> pure ()
    gap
  Reader.char ']'
  return .array items

/-- A table between braces around a reader for its values. -/
def closedTableOf (item : Reader Value) : Reader Value := do
  Reader.char '\x7b'
  spaces
  let pair : Reader (KeyPath × Value) := do
    let k ← keyPath
    spaces
    Reader.char '='
    spaces
    return (k, ← item)
  let pairs ← (Reader.separated pair (do spaces; Reader.char ','; spaces)) <|> pure []
  spaces
  Reader.char '\x7d'
  let built := pairs.foldlM (fun (es : Entries) (k, v) => es.assign .closed k.path k.key v) []
  match built with
  | none => failure
  | some es => pure (.table .closed es)

/-- A value with fewer than so many arrays and tables around each other. -/
def valueWithin : Nat → Reader Value
  | 0 => failure
  | 1 => scalar
  | n + 2 => scalar <|> arrayOf (valueWithin (n + 1)) <|> closedTableOf (valueWithin (n + 1))

def value : Reader Value := valueWithin depthLimit

/-- One line of a document that means something. -/
inductive Line where
  | assignment (k : KeyPath) (v : Value)
  | table (k : KeyPath)
  | element (k : KeyPath)
  deriving Repr

def assignment : Reader Line := do
  let k ← keyPath
  spaces
  Reader.char '='
  spaces
  return .assignment k (← value)

def elementHeader : Reader Line := do
  Reader.literal "[["
  spaces
  let k ← keyPath
  spaces
  Reader.literal "]]"
  return .element k

def tableHeader : Reader Line := do
  Reader.char '['
  spaces
  let k ← keyPath
  spaces
  Reader.char ']'
  return .table k

/-- A line with its end, which the last line of a document need not have. -/
def line : Reader (Option Line) := do
  spaces
  let l ← some <$> (elementHeader <|> tableHeader <|> assignment) <|> pure none
  spaces
  comment <|> pure ()
  newline <|> Reader.done
  return l

/-- All lines of a document; a byte order mark may come first. -/
def document : Reader (List Line) := do
  Reader.char '\uFEFF' <|> pure ()
  let lines ← Reader.many line
  return lines.filterMap id

/-- The tables built so far and the header that is in force, if any. -/
structure Building where
  root : Entries := []
  header : Option KeyPath := none

/-- Adds a line. -/
def Building.add (b : Building) : Line → Option Building
  | .table k => (b.root.openTable k.path k.key).map fun root => ⟨root, some k⟩
  | .element k => (b.root.openElement k.path k.key).map fun root => ⟨root, some k⟩
  | .assignment k v =>
    let place := match b.header with
      | none => []
      | some h => h.path ++ [h.key]
    (b.root.inside place fun made es => es.assign made k.path k.key v).map fun root => { b with root }

/-- The table of a document. -/
def parse (text : String) : Option Entries := do
  let lines ← Reader.readAll document text
  let built ← lines.foldlM Building.add {}
  return built.root

end Hostcall.Toml
