import Hostcall.Trace

/-!
# Log entries

What the calls report beside their results. Every entry has a level and names the part of the program
it comes from; traces are entries of level `info`, made only for the kinds that are switched on.
-/

namespace Hostcall

/-- The weight of an entry; a filter lets everything at least as grave through, or nothing. -/
inductive LogLevel where
  | error
  | warn
  | info
  | debug
  | trace
  deriving Repr, DecidableEq

namespace LogLevel

def name : LogLevel → String
  | .error => "ERROR"
  | .warn => "WARN"
  | .info => "INFO"
  | .debug => "DEBUG"
  | .trace => "TRACE"

/-- Graver levels have smaller ranks. -/
def rank : LogLevel → Nat
  | .error => 1
  | .warn => 2
  | .info => 3
  | .debug => 4
  | .trace => 5

end LogLevel

/-- The parts of the program that log. -/
inductive LogOrigin where
  | driver
  | table
  | channels
  | bridge
  | system
  | trace
  deriving Repr, DecidableEq

/-- The name by which filters know a part. -/
def LogOrigin.target : LogOrigin → String
  | .driver => "simio"
  | .table => "simio_core::table"
  | .channels => "simio_core::channels"
  | .bridge => "simio_core::bridge"
  | .system => "simio_core::system"
  | .trace => "simio_core::trace"

structure LogEntry where
  level : LogLevel
  origin : LogOrigin
  message : String
  deriving Repr, DecidableEq

/-- The entry of a trace, if its kind is switched on. -/
def TraceSet.entries (s : TraceSet) (kind : TraceKind) (message : String) : List LogEntry :=
  if s.contains kind then [⟨.info, .trace, s!"[{kind.name}] {message}"⟩] else []

end Hostcall
