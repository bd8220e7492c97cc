import Hostcall.Proofs.Console.Accounting
import Hostcall.Proofs.Machine.Frame

/-!
# What calls do to the outputs

The outlets of the active state are one of the parts of a machine (`Touches.outlet?`). A call that shows
something while no front end is attached writes it to one outlet and flushes it there, and a reset resets
both (`Outlet.Emits`); all other calls do not touch them.
-/

namespace Hostcall

open Pane

/-- What one call can do to an outlet, and the bytes that it brings there. -/
inductive Console.Outlet.Emits (o : Outlet) : List UInt8 → Outlet → Prop where
  | rest :
    Emits o [] o
  | wrote {bytes} :
    Emits o bytes (o.writeThrough bytes).2
  | reset :
    Emits o [] o.reset.2

/-- What is brought to an outlet with room is in its sink behind everything else, and none of it is held
back. -/
lemma Console.Outlet.Settled.emits {o p : Outlet} {given bytes : List UInt8} (h : o.Settled given)
    (e : o.Emits bytes p) : p.Settled (given ++ bytes) := by
  cases e with
  | rest => simpa using h
  | wrote => exact (h.took.writeThrough bytes).2
  | reset => simpa using h.took.reset.2

namespace Machine

/-- The outlet of a channel of the active state. -/
def outlet? (m : Machine) (channel : StdChannel) : Option Console.Outlet :=
  m.state.channels.outlet? channel

/-- What does not touch the outlets leaves the outlet of every channel alone. -/
lemma Touches.outlet? {m n : Machine} {a : List Part} (h : m.Touches a n) (hp : a.contains .outlets = false) :
    n.outlet? = m.outlet? := by
  obtain ⟨-, hsinks⟩ := Prod.mk.inj (h .outlets hp)
  obtain ⟨houtput, herror⟩ := Prod.mk.inj hsinks
  funext channel
  cases channel with
  | input => rfl
  | output => exact congrArg some houtput
  | error => exact congrArg some herror

/-- What is written to a channel is brought to the outlet of that channel. -/
lemma emits_write {m : Machine} {other : StdChannel} {o : Console.Outlet}
    (h : m.outlet? other = some o) (channel : StdChannel) (bytes : List UInt8) :
    ∃ p, (m.setChannels (m.state.channels.write channel bytes).2).outlet? other = some p ∧
      o.Emits (if channel = other then bytes else []) p := by
  refine ⟨_, Console.Channels.outlet?_write h bytes, ?_⟩
  split
  · exact .wrote
  · exact .rest

/-- A reset resets the outlet of every channel. -/
lemma emits_resetFiles {m : Machine} {channel : StdChannel} {o : Console.Outlet}
    (h : m.outlet? channel = some o) :
    ∃ p, m.resetFiles.outlet? channel = some p ∧ o.Emits [] p := by
  refine ⟨o.reset.2, ?_, .reset⟩
  have hreset : m.resetFiles.outlet? channel = m.state.channels.reset.2.outlet? channel :=
    congrFun ((touches_endSession _).outlet? rfl) channel
  rw [hreset, Console.Channels.outlet?_reset]
  exact congrArg (Option.map fun o => o.reset.2) h

end Machine

end Hostcall
