import Hostcall.Pattern.Reader
import Hostcall.Settings
import Hostcall.Text.Blank
import Hostcall.Text.Split

/-!
# Log filters

Which entries are shown. A filter is a list of directives: a threshold for the origins whose target
begins with a name, or for all of them. Of the directives that concern an origin the one with the longest
name decides, the later one if two are equally long.
-/

namespace Hostcall

/-- A threshold, and the beginning of the targets that it holds for; without one it holds for all. -/
structure LogDirective where
  target : Option String := none
  threshold : LogThreshold
  deriving Repr, DecidableEq

namespace LogDirective

/-- The length by which directives are ranked. -/
def weight (d : LogDirective) : Nat :=
  (d.target.map (·.utf8ByteSize)).getD 0

def concerns (d : LogDirective) (target : String) : Bool :=
  (d.target.getD "").toList.isPrefixOf target.toList

/-- Of the directives that concern a target, the last of the longest. -/
def deciding? (ds : List LogDirective) (target : String) : Option LogDirective :=
  (ds.filter (·.concerns target)).foldl (fun best d =>
    match best with
    | none => some d
    | some b => if d.weight < b.weight then some b else some d) none

/-- Lets everything through. -/
def greatest : LogThreshold := some .trace

/-- A directive as it is written: a level, a target, or both with an equals sign between them. What is
not understood is handed back. -/
def parse (item : String) : Except String LogDirective :=
  match Text.split (· = '=') item.toList with
  | [only] =>
    let word := String.ofList only
    match LogThreshold.ofName? word with
    | some threshold => .ok ⟨none, threshold⟩
    | none => .ok ⟨some word, greatest⟩
  | [target, level] =>
    let level := Text.trim (String.ofList level)
    if level = "" then .ok ⟨some (String.ofList target), greatest⟩
    else match LogThreshold.ofName? level with
      | some threshold => .ok ⟨some (String.ofList target), threshold⟩
      | none => .error level
  | _ => .error item

end LogDirective

/-- Directives, and a pattern that occurs in every shown message. -/
structure LogFilter where
  directives : List LogDirective
  pattern : Option Pattern := none
  deriving Repr, DecidableEq

namespace LogFilter

/-- Puts a directive in the place of the one for the same target, or at the end. -/
def insert (f : LogFilter) (d : LogDirective) : LogFilter :=
  if f.directives.any (·.target = d.target) then
    { f with directives := f.directives.map fun old => if old.target = d.target then d else old }
  else { f with directives := f.directives ++ [d] }

/-- The filter that settings ask for. -/
def ofSettings (s : LogSettings) : LogFilter where
  directives := [⟨none, s.other⟩, ⟨some "simio", s.own⟩, ⟨some "simio_core", s.own⟩]

/-- Adds the directives of a list, with commas between them, and a pattern after a slash. What is not
understood is passed over, and a warning says so. -/
def extend (f : LogFilter) (list : String) : LogFilter × List String :=
  let add (found : LogFilter × List String) (item : List Char) : LogFilter × List String :=
    let item := Text.trim (String.ofList item)
    if item = "" then found
    else match LogDirective.parse item with
      | .ok d => (found.1.insert d, found.2)
      | .error what =>
        (found.1, found.2 ++ [s!"warning: invalid logging spec '{what}', ignoring it"])
  match Text.split (· = '/') list.toList with
  | [items] => (Text.split (· = ',') items).foldl add (f, [])
  | [items, pattern] =>
    let written := String.ofList pattern
    let (f, warnings) := (Text.split (· = ',') items).foldl add (f, [])
    match Pattern.parse written with
    | .ok p => ({ f with pattern := some p }, warnings)
    | .error e =>
      (f, warnings ++ [s!"warning: invalid regex filter - {e.describe written}, ignoring it"])
  | _ => (f, [s!"warning: invalid logging spec '{list}' (too many '/'s), ignoring it"])

/-- Whether an entry is shown. -/
def admits (f : LogFilter) (e : LogEntry) : Bool :=
  match LogDirective.deciding? f.directives e.origin.target with
  | none => false
  | some d =>
    d.threshold.any (e.level.rank ≤ ·.rank) && f.pattern.all (·.occursIn e.message)

end LogFilter

namespace LogEntry

/-- A message with its later lines set in. -/
def indent (message : String) : String :=
  String.ofList (message.toList.flatMap fun c => if c = '\n' then "\n    ".toList else [c])

/-- An entry as it is shown: its level in a column, its target, and its message. -/
def line (e : LogEntry) : String :=
  let level := e.level.name
  let column := level ++ String.ofList (List.replicate (5 - level.length) ' ')
  s!"[{column} {e.origin.target}] {indent e.message}\n"

end LogEntry

/-- The lines of the entries that a filter admits. -/
def LogFilter.render (f : LogFilter) (entries : List LogEntry) : String :=
  String.join ((entries.filter f.admits).map (·.line))

end Hostcall
