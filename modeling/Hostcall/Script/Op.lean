import Hostcall.Text.Quoted
import Hostcall.Yaml.Datum

/-!
# Script operations

One call of a guest, as a script names it: under the key `op` with its arguments beside it, or as a
sequence with the name first and the arguments in order.
-/

namespace Hostcall.Script

open Yaml (Datum)

inductive Op where
  | openFile (path : String) (flags : Int)
  | write (fd : Int) (text : String)
  | read (fd : Int) (len : Nat)
  | seek (fd offset whence : Int)
  | close (fd : Int)
  | print (text : String)
  | readChar
  | readString (maxLen : Int)
  | readInt
  | reset
  deriving Repr, DecidableEq

namespace Op

/-- An operation as it is shown: its name, and its arguments by name. -/
def describe : Op → String
  | openFile path flags => "Open \x7b path: " ++ Text.quote path ++ s!", flags: {flags} \x7d"
  | write fd text => s!"Write \x7b fd: {fd}, text: " ++ Text.quote text ++ " \x7d"
  | read fd len => s!"Read \x7b fd: {fd}, len: {len} \x7d"
  | seek fd offset whence => s!"Seek \x7b fd: {fd}, offset: {offset}, whence: {whence} \x7d"
  | close fd => s!"Close \x7b fd: {fd} \x7d"
  | print text => "Print \x7b text: " ++ Text.quote text ++ " \x7d"
  | readChar => "ReadChar"
  | readString maxLen => s!"ReadString \x7b max_len: {maxLen} \x7d"
  | readInt => "ReadInt"
  | reset => "Reset"

/-- The kinds of operations. -/
inductive Kind where
  | openFile
  | write
  | read
  | seek
  | close
  | print
  | readChar
  | readString
  | readInt
  | reset
  deriving Repr, DecidableEq

def Kind.ofName? : String → Option Kind
  | "open" => some .openFile
  | "write" => some .write
  | "read" => some .read
  | "seek" => some .seek
  | "close" => some .close
  | "print" => some .print
  | "read_char" => some .readChar
  | "read_string" => some .readString
  | "read_int" => some .readInt
  | "reset" => some .reset
  | _ => none

/-- The names of the arguments, in order. -/
def Kind.fields : Kind → List String
  | .openFile => ["path", "flags"]
  | .write => ["fd", "text"]
  | .read => ["fd", "len"]
  | .seek => ["fd", "offset", "whence"]
  | .close => ["fd"]
  | .print => ["text"]
  | .readString => ["max_len"]
  | .readChar => []
  | .readInt => []
  | .reset => []

def text? : Datum → Option String
  | .text s => some s
  | _ => none

/-- An integer of 32 bits. -/
def word? (d : Datum) : Option Int :=
  d.integer?.filter Numeral.IntegerRange.word.contains

/-- The lengths of 64 bits. -/
def lengthRange : Numeral.IntegerRange := ⟨0, 0xFFFFFFFFFFFFFFFF⟩

/-- A length of 64 bits. -/
def length? (d : Datum) : Option Nat :=
  (d.integer?.filter lengthRange.contains).map Int.toNat

/-- The operation of a kind with its arguments in order. -/
def ofArguments? : Kind → List Datum → Option Op
  | .openFile, [path, flags] => return .openFile (← text? path) (← word? flags)
  | .write, [fd, text] => return .write (← word? fd) (← text? text)
  | .read, [fd, len] => return .read (← word? fd) (← length? len)
  | .seek, [fd, offset, whence] => return .seek (← word? fd) (← word? offset) (← word? whence)
  | .close, [fd] => return .close (← word? fd)
  | .print, [text] => return .print (← text? text)
  | .readString, [maxLen] => return .readString (← word? maxLen)
  | .readChar, [] => some .readChar
  | .readInt, [] => some .readInt
  | .reset, [] => some .reset
  | _, _ => none

/-- The place of the argument that a key stands for: by its name, or by its number. Other names are
passed over; other keys are refused. -/
def argumentAt? (fields : List String) : Datum → Option (Option Nat)
  | .text name => some (fields.findIdx? (· = name))
  | .natural n => some (if n < fields.length then some n else none)
  | _ => none

/-- Puts an argument into its place, which must be empty. -/
def place (fields : List String) (found : List (Option Datum)) (entry : Datum × Datum) :
    Option (List (Option Datum)) :=
  match argumentAt? fields entry.1 with
  | none => none
  | some none => some found
  | some (some i) =>
    match found[i]? with
    | some none => some (found.set i (some entry.2))
    | _ => none

/-- The name of an operation, for which the text of any scalar will do. -/
def name? : Datum → Option String
  | .text s => some s
  | .refused s => some s
  | _ => none

/-- Whether an entry names the operation. -/
def isTag : Datum × Datum → Bool
  | (.text "op", _) => true
  | _ => false

/-- The operation of a mapping: exactly one `op`, every argument exactly once, and whatever else. An
operation without arguments does not look at what else there is, so long as that has a value. -/
def ofMapping? (entries : List (Datum × Datum)) : Option Op :=
  let others := entries.filter (!isTag ·)
  match entries.filter isTag with
  | [(_, tag)] => do
    let kind ← (name? tag).bind Kind.ofName?
    if !Datum.areEntries others then none
    else if kind.fields = [] then ofArguments? kind []
    else
      let found ← others.foldlM (place kind.fields) (kind.fields.map fun _ => none)
      ofArguments? kind (← found.mapM id)
  | _ => none

/-- The operation of a sequence: its name, and all arguments in order. -/
def ofSequence? : List Datum → Option Op
  | [] => none
  | tag :: arguments => do
    let kind ← (name? tag).bind Kind.ofName?
    if Datum.areValues arguments then ofArguments? kind arguments else none

def ofDatum? : Datum → Option Op
  | .mapping entries => ofMapping? entries
  | .sequence items => ofSequence? items
  | _ => none

end Op

end Hostcall.Script
