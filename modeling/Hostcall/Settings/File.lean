import Hostcall.Host.OpenFile
import Hostcall.Settings
import Hostcall.Toml.Document

/-!
# Settings files

Settings from a TOML document. Keys that are missing keep their defaults, and keys that are not known
are passed over; a known key must have a value of its type.
-/

namespace Hostcall

/-- Why settings could not be had. -/
inductive SettingsError where
  /-- The document is none, or a key has a value of another type. -/
  | malformed
  /-- The same, for the document in a file. -/
  | malformedFile (path : String)
  | unreadable (path : String)
  deriving Repr, DecidableEq

/-- What was being done, outermost first. -/
def SettingsError.contexts : SettingsError → List String
  | malformed => ["parse io config"]
  | malformedFile path => ["load " ++ Text.quote path, "parse io config"]
  | unreadable path => ["read " ++ Text.quote path]

/-- Why it failed. -/
def SettingsError.reason : SettingsError → String
  | malformed => "the document holds no settings"
  | malformedFile _ => "the document holds no settings"
  | unreadable _ => "the file cannot be read as text"

namespace Settings

open Toml (Value Entries)

/-- The value of a key if it is there: the default where it is not, nothing where its type is wrong. -/
def keyOr {α : Type} (es : Entries) (key : String) (default : α) (read : Value → Option α) :
    Option α :=
  match es.lookup key with
  | none => some default
  | some v => read v

def boolean? : Value → Option Bool
  | .boolean b => some b
  | _ => none

def text? : Value → Option String
  | .text s => some s
  | _ => none

def natural? : Value → Option Nat
  | .integer (.ofNat n) => some n
  | _ => none

/-- A threshold: its name, or a table with its name as the only key and nothing below it. -/
def threshold? : Value → Option LogThreshold
  | .text name => LogThreshold.ofName? name
  | .table _ [(name, .table _ [])] => LogThreshold.ofName? name
  | .table _ [(name, .array [])] => LogThreshold.ofName? name
  | _ => none

/-- Both thresholds: under their keys, or in order. -/
def logSettings? : Value → Option LogSettings
  | .table _ es => do
    let own ← threshold? (← es.lookup "app_level_filter")
    let other ← threshold? (← es.lookup "level_filter")
    return { own, other }
  | .array (own :: other :: _) => do
    return { own := ← threshold? own, other := ← threshold? other }
  | .tables elements =>
    match elements.reverse with
    | own :: other :: _ => do
      return { own := ← threshold? own, other := ← threshold? other }
    | _ => none
  | _ => none

/-- The settings in a table. -/
def ofEntries? (es : Entries) : Option Settings := do
  let default : Settings := {}
  return {
    popup := ← keyOr es "use_popup_for_input" default.popup boolean?
    besideProgram := ← keyOr es "derive_working_directory_from_program" default.besideProgram boolean?
    program := ← keyOr es "program_path" default.program (some <$> text? ·)
    intervalMs := ← keyOr es "flush_interval_ms" default.intervalMs natural?
    log := ← keyOr es "logger_config" default.log (some <$> logSettings? ·) }

/-- The settings in a document. -/
def parse (document : String) : Except SettingsError Settings :=
  match (Toml.parse document).bind ofEntries? with
  | none => .error .malformed
  | some s => .ok s

/-- The settings in a file. -/
def load (d : Disk) (path : String) : Except SettingsError Settings :=
  match (d.contentAt path).toOption.bind Utf8.decode? with
  | none => .error (.unreadable path)
  | some document =>
    match parse document with
    | .error _ => .error (.malformedFile path)
    | .ok s => .ok s

end Settings

end Hostcall
