import Hostcall.Machine.Prompt

/-!
# Sessions

Attaching front ends, letting held output go, resetting, and exchanging the I/O state.
-/

namespace Hostcall

open Pane

namespace Machine

/-- Lets held output go to the front end that is attached. -/
def flush (m : Machine) (force : Bool) : Machine :=
  match m.attached? with
  | none => m
  | some (id, _) => m.deliver id (.flush force)

/-- Ends a session with the pane: what is held goes out if it can, and is forgotten. -/
def endSession (m : Machine) : Machine :=
  let m := m.flush true
  { m with coalescer := m.coalescer.clear, fieldRest := none }

/-- Attaches a front end, or detaches the one there is; output held for the old one goes to it first. -/
def attach (m : Machine) (front : Option FrontEndId) : Machine :=
  { m.endSession with front }

/-- The front end to which a flush from outside would go. -/
def handle? (m : Machine) : Option FrontEndId :=
  m.attached?.map (·.1)

/-- Lets held output go through a handle, to the front end it was made for. -/
def flushThrough (m : Machine) (handle : FrontEndId) (force : Bool) : Machine :=
  m.deliver handle (.flush force)

/-- Releases every file, rebinds the standard channels and drops what is held of input and output for
this session; the console's unread input stays. -/
def resetFiles (m : Machine) : Machine :=
  let m := (m.log m.state.table.resetEntries).setTable m.state.table.reset
  let (warnings, channels) := m.state.channels.reset
  ((m.log warnings).setChannels channels).endSession

/-- Makes another state the active one and hands back the previous one. -/
def swap (m : Machine) (state : IoState) : IoState × Machine :=
  let m := m.log
    [⟨.debug, .system, s!"swapping I/O state ({state.table.openCount} descriptors open)"⟩]
  (m.state, { m with state })

end Machine

end Hostcall
