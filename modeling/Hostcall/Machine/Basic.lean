import Hostcall.IoState
import Hostcall.Pane.Coalescer
import Hostcall.Pane.FrontEnd
import Hostcall.Settings

/-!
# The machine

Everything a guest's calls can see or change: the host's files, the active I/O state, the front ends, the
output on its way to one of them, and the text of the last error. Two lists only grow: the events that
front ends saw, and the log.
-/

namespace Hostcall

open Pane

/-- The last error while nothing has failed. -/
def noError : String := "File operation OK"

/-- The user gave up a prompt, so that there is no value at all. -/
inductive Cancelled where
  | cancelled
  deriving Repr, DecidableEq

def Cancelled.message : Cancelled → String
  | .cancelled => "input request was cancelled"

structure Machine where
  disk : Disk
  state : IoState
  settings : Settings
  /-- All front ends there are, in order of creation. -/
  fronts : List FrontEnd := []
  /-- The front end that was attached last, if none was detached since. -/
  front : Option FrontEndId := none
  /-- What is left of the static field, absent until its first use in a session. -/
  fieldRest : Option (List UInt8) := none
  coalescer : Coalescer
  lastError : String := noError
  /-- The reading of the clock during the current call. -/
  clock : Time := 0
  traces : TraceSet := .none
  history : List Event := []
  journal : List LogEntry := []
  deriving DecidableEq

namespace Machine

/-- A machine at the start of a run. -/
def start (settings : Settings) (disk : Disk) (state : IoState) (traces : TraceSet) : Machine where
  disk := disk
  state := state
  settings := settings
  coalescer := { interval := settings.intervalMs * 1000 }
  traces := traces

/-- Adds entries to the log. -/
def log (m : Machine) (entries : List LogEntry) : Machine :=
  { m with journal := m.journal ++ entries }

/-- Adds a trace to the log if its kind is switched on. -/
def trace (m : Machine) (kind : TraceKind) (message : String) : Machine :=
  m.log (m.traces.entries kind message)

/-- Adds an event to what front ends saw. -/
def record (m : Machine) (e : Event) : Machine :=
  { m with history := m.history ++ [e] }

/-- The front end that is set and says that it is attached, with its number. -/
def attached? (m : Machine) : Option (FrontEndId × FrontEnd) :=
  m.front.bind fun id =>
    match m.fronts[id]? with
    | none => none
    | some f => if f.attached then some (id, f) else none

def setTable (m : Machine) (t : Table) : Machine :=
  { m with state := { m.state with table := t } }

def setChannels (m : Machine) (c : Console.Channels) : Machine :=
  { m with state := { m.state with channels := c } }

/-- Runs an action on the coalescer and posts to a front end whatever it releases. -/
def deliver (m : Machine) (id : FrontEndId) (action : Action) : Machine :=
  let (released, coalescer) := m.coalescer.apply m.clock action
  let m := { m with coalescer }
  let m := match coalescer.note action released with
    | none => m
    | some message => m.trace .coalesce message
  match released with
  | none => m
  | some text => m.record (.posted id text)

/-- Notes the fault of a call. -/
def fail (m : Machine) (fault : Fault) : Machine :=
  { m.log [⟨.debug, .system, s!"syscall failed: {fault.message}"⟩] with lastError := fault.message }

end Machine

end Hostcall
