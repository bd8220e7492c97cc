import Hostcall.Text.Utf8
import Hostcall.Yaml.Scalar.Quoted

/-!
# Tags

A tag says what a value is. It is written in full between angle brackets, or as a handle that stands for
the beginning of a name and a suffix for the rest; names are bytes.
-/

namespace Hostcall.Yaml

/-- What a tag says of a value. -/
inductive Tag where
  /-- A name of the document's own, which begins with an exclamation mark. -/
  | own
  | null
  | boolean
  | integer
  | fraction
  /-- Any other name. -/
  | other
  /-- A name of the document's own that is no text; it says nothing. -/
  | unreadable
  deriving Repr, DecidableEq

/-- What the names of the four kinds of scalars begin with. -/
def standardStem : String := "tag:yaml.org,2002:"

/-- What a name says. -/
def Tag.ofName (name : List UInt8) : Tag :=
  match Utf8.decode? name with
  | none => if name.head? = some 0x21 then .unreadable else .other
  | some s =>
    if s.toList.head? = some '!' then .own
    else if s = standardStem ++ "null" then .null
    else if s = standardStem ++ "bool" then .boolean
    else if s = standardStem ++ "int" then .integer
    else if s = standardStem ++ "float" then .fraction
    else .other

/-- A tag as it is written: the suffix alone if there is no handle. -/
structure TagText where
  handle : String := ""
  suffix : List UInt8
  deriving Repr, DecidableEq

/-- What a handle stands for. -/
structure Shorthand where
  handle : String
  stem : List UInt8
  deriving Repr, DecidableEq

/-- The handles that every document has unless it gives them another meaning. -/
def Shorthand.standard : List Shorthand :=
  [⟨"!", Utf8.encode "!"⟩, ⟨"!!", Utf8.encode standardStem⟩]

/-- What a written tag says; a handle without meaning is refused. -/
def TagText.resolve? (t : TagText) (shorthands : List Shorthand) : Option Tag :=
  if t.handle = "" then some (.ofName t.suffix)
  else (shorthands.find? (·.handle = t.handle)).map fun s => .ofName (s.stem ++ t.suffix)

/-- The characters of tag names; the last three only where nothing around the name takes them. -/
def isNameChar (closed : Bool) (c : Char) : Bool :=
  isWordChar c || c ∈ [';', '/', '?', ':', '@', '&', '=', '+', '$', '.', '%', '!', '~', '*', '\'',
    '(', ')'] || (closed && (c = ',' || c = '[' || c = ']'))

/-- How many more bytes a character has that begins with this one; nothing if none begins so. -/
def bytesDue? (lead : Nat) : Option Nat :=
  if lead < 0x80 then some 0
  else if lead / 0x20 = 0x6 then some 1
  else if lead / 0x10 = 0xE then some 2
  else if lead / 0x8 = 0x1E then some 3
  else none

/-- The bytes of a name, latest first. A percent sign and two digits stand for a byte; the bytes that are
due to finish a character follow at once in the same form. -/
def nameBytes? (found : List UInt8) (due : Nat) : List Char → Option (List UInt8)
  | [] => if due = 0 then some found else none
  | '%' :: a :: b :: cs =>
    match hexValue? a, hexValue? b with
    | some high, some low =>
      let byte := high * 16 + low
      let left? := if due = 0 then bytesDue? byte
        else if byte / 0x40 = 0x2 then some (due - 1) else none
      match left? with
      | none => none
      | some left => nameBytes? (byte.toUInt8 :: found) left cs
    | _, _ => none
  | c :: cs => if due = 0 ∧ c ≠ '%' then nameBytes? (c.toNat.toUInt8 :: found) 0 cs else none

/-- Takes a name or a part of one, up to a zero byte. -/
def Cursor.name? (k : Cursor) (closed : Bool) : Option (List UInt8 × Cursor) :=
  let (found, k) := k.run (isNameChar closed)
  (nameBytes? [] 0 found).map fun bytes => (bytes.reverse.takeWhile (· ≠ 0), k)

/-- Takes a name or a part of one that is not empty. -/
def Cursor.name1? (k : Cursor) (closed : Bool) : Option (List UInt8 × Cursor) :=
  match k.rest with
  | [] => none
  | c :: _ => if isNameChar closed c then k.name? closed else none

/-- Takes a handle: an exclamation mark, or two with a word between them that may be empty. -/
def Cursor.handle? (k : Cursor) : Option (String × Cursor) :=
  match k.rest with
  | '!' :: cs =>
    let word := cs.takeWhile isWordChar
    let behind := k.skip (1 + word.length)
    if behind.rest.head? = some '!' then
      some (String.ofList ('!' :: word ++ ['!']), behind.next)
    else some ("!", k.next)
  | _ => none

/-- Takes a tag, behind which white space must follow, or between brackets a comma. -/
def Cursor.tag? (k : Cursor) (flow : Bool) : Option (TagText × Cursor) := do
  let (tag, k) ← match k.rest with
    | '!' :: '<' :: _ => do
      let (suffix, k) ← (k.skip 2).name1? true
      if k.rest.head? = some '>' then some (⟨"", suffix⟩, k.next) else none
    | _ => do
      let (handle, k) ← k.handle?
      if handle = "!" then
        let (suffix, k) ← k.name? false
        some (if suffix = [] then ⟨"", Utf8.encode "!"⟩ else ⟨"!", suffix⟩, k)
      else
        let (suffix, k) ← k.name1? false
        some (⟨handle, suffix⟩, k)
  if atGap k.rest || (flow && k.rest.head? = some ',') then some (tag, k) else none

end Hostcall.Yaml
