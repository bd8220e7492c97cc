import Hostcall.Host.Path
import Hostcall.Log

/-!
# Settings

What a host decides about the calls of its guest, and the place of a guest's file. A relative name
follows the loaded program if the host wants that; any other name is taken as it is.
-/

namespace Hostcall

/-- The gravest-first threshold of a log filter; none lets nothing through. -/
abbrev LogThreshold := Option LogLevel

def LogThreshold.name : LogThreshold → String
  | none => "OFF"
  | some level => level.name

/-- A threshold by its name in upper or lower case. -/
def LogThreshold.ofName? (name : String) : Option LogThreshold :=
  let all : List LogThreshold :=
    [none, some .error, some .warn, some .info, some .debug, some .trace]
  all.find? fun t => t.name.toList = name.toList.map Char.toUpper

/-- The thresholds for the program's own parts and for everything else. -/
structure LogSettings where
  own : LogThreshold := some .info
  other : LogThreshold := some .warn
  deriving Repr, DecidableEq

structure Settings where
  /-- Every console value is asked for by a modal prompt. -/
  popup : Bool := false
  /-- Relative names follow the loaded program. -/
  besideProgram : Bool := false
  program : Option String := none
  /-- The least time between two deliveries to a pane, in milliseconds. -/
  intervalMs : Nat := 100
  log : Option LogSettings := some {}
  deriving Repr, DecidableEq

namespace Settings

/-- Loads a program and lets relative names follow it. -/
def withProgram (s : Settings) (program : String) : Settings :=
  { s with program := some program, besideProgram := true }

/-- The host path of a guest's file name. -/
def resolve (s : Settings) (name : String) : String :=
  if Path.isAbsolute name then name
  else if s.besideProgram then
    match s.program with
    | none => name
    | some program => Path.join ((Path.parent? program).getD "") name
  else name

end Settings

end Hostcall
