import Hostcall.Text.Blank
import Hostcall.Text.Split

/-!
# Trace categories

Three kinds of events can be traced. Which ones are comes from a list of tokens and from one switch for
each kind, all of them environment variables.
-/

namespace Hostcall

inductive TraceKind where
  | syscall
  | channel
  | coalesce
  deriving Repr, DecidableEq

def TraceKind.name : TraceKind → String
  | .syscall => "Syscall"
  | .channel => "Channel"
  | .coalesce => "Coalesce"

/-- A set of kinds. -/
structure TraceSet where
  syscall : Bool := false
  channel : Bool := false
  coalesce : Bool := false
  deriving Repr, DecidableEq

/-- The variables of an environment. -/
abbrev Environment := List (String × String)

namespace TraceSet

def none : TraceSet := {}

def all : TraceSet := ⟨true, true, true⟩

def contains (s : TraceSet) : TraceKind → Bool
  | .syscall => s.syscall
  | .channel => s.channel
  | .coalesce => s.coalesce

def union (a b : TraceSet) : TraceSet :=
  ⟨a.syscall || b.syscall, a.channel || b.channel, a.coalesce || b.coalesce⟩

/-- Whether a character stands between the tokens of a list. -/
def isSeparator (c : Char) : Bool :=
  c = ',' || c = ';' || Text.isBlank c

/-- The set that one token stands for, in upper or lower case; unknown tokens stand for none. -/
def ofToken (token : List Char) : TraceSet :=
  let name := String.ofList (token.map Char.toLower)
  if name = "all" then all
  else if name = "syscall" ∨ name = "sc" then { syscall := true }
  else if name = "channel" ∨ name = "io" then { channel := true }
  else if name = "coalesce" ∨ name = "flush" then { coalesce := true }
  else none

/-- The set that a list of tokens stands for. -/
def ofList (list : String) : TraceSet :=
  (Text.split isSeparator list.toList).foldr (fun token s => (ofToken token).union s) none

/-- Whether the text of a switch turns it on: everything does but the usual words for no. -/
def isOn (text : String) : Bool :=
  let word := String.ofList ((Text.trim text).toList.map Char.toLower)
  !(word = "" || word = "0" || word = "false" || word = "no" || word = "off")

/-- The set that an environment asks for. -/
def ofEnvironment (env : Environment) : TraceSet :=
  let on (name : String) := (env.lookup name).any isOn
  union (((env.lookup "SIMIO_TRACE").map ofList).getD none)
    ⟨on "SIMIO_TRACE_SYSCALL", on "SIMIO_TRACE_CHANNEL", on "SIMIO_TRACE_COALESCE"⟩

end TraceSet

end Hostcall
