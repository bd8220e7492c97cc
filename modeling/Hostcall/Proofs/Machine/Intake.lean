import Hostcall.Proofs.Machine.Frame

/-!
# Where input comes from

The intake of a machine is the part that decides what a request for input gives: the front ends and the
one that is set, the setting for modal prompts, the console's reader and what is left of the static
field. Calls that ask for no input leave the intake as it is (`World.intake_call`), apart from those that
set a front end, exchange the state or end the session.
-/

namespace Hostcall

open Pane

/-- The part of a machine that decides what a request for input gives. -/
structure Intake where
  front : Option FrontEndId
  fronts : List FrontEnd
  popup : Bool
  input : Console.Input
  fieldRest : Option (List UInt8)
  deriving Repr, DecidableEq

namespace Machine

def intake (m : Machine) : Intake where
  front := m.front
  fronts := m.fronts
  popup := m.settings.popup
  input := m.state.channels.input
  fieldRest := m.fieldRest

/-- Who is attached is a matter of the front ends and the one that is set. -/
lemma attached?_congr {m n : Machine} (hfront : n.front = m.front) (hfronts : n.fronts = m.fronts) :
    n.attached? = m.attached? := by
  simp only [attached?, hfront, hfronts]

/-- Whoever is attached is one of the front ends there are. -/
lemma fronts_of_attached? {m : Machine} {id : FrontEndId} {f : FrontEnd}
    (h : m.attached? = some (id, f)) : m.fronts[id]? = some f := by
  obtain ⟨set, -, hset⟩ := Option.bind_eq_some_iff.mp h
  cases hf : m.fronts[set]? with
  | none => simp [hf] at hset
  | some g =>
    by_cases hg : g.attached <;> simp only [hf, hg] at hset <;> cases hset
    exact hf

/-- What is left of the static field is a matter of the front ends and of what was kept. -/
lemma fieldBytes_congr {m n : Machine} (hfronts : n.fronts = m.fronts)
    (hrest : n.fieldRest = m.fieldRest) (id : FrontEndId) : n.fieldBytes id = m.fieldBytes id := by
  simp only [fieldBytes, hfronts, hrest]

/-! ## While no front end is attached -/

section

variable {m : Machine} (h : m.attached? = none)
include h

/-- A line is then one of the console. -/
lemma obtainLine_of_detached (standIn prompt : String) (limit : Int) :
    m.obtainLine standIn prompt limit =
      (.ok (m.readConsoleLine standIn).1, (m.readConsoleLine standIn).2) := by
  have hsource : m.valueSource = .console := by simp [valueSource, h]
  simp [obtainLine, hsource]

/-- A byte is then one of the console. -/
lemma obtainByte_of_detached (prompt : String) :
    m.obtainByte prompt = (.ok m.readConsoleByte.1, m.readConsoleByte.2) := by
  have hsource : m.valueSource = .console := by simp [valueSource, h]
  simp [obtainByte, hsource]

/-- Bytes are then what the channels give. -/
lemma obtainBytes_of_detached (count : Nat) :
    m.obtainBytes count =
      (.ok ((m.state.channels.read count).1.map fun bytes => { bytes }),
        m.setChannels (m.state.channels.read count).2) := by
  have hsource : m.byteSource = .console := by simp [byteSource, h]
  simp [obtainBytes, hsource]

/-- What is written to an output then goes to its channel. -/
lemma writeStandard_of_detached (channel : StdChannel) (bytes : List UInt8) :
    m.writeStandard channel bytes =
      ((m.state.channels.write channel bytes).1,
        m.setChannels (m.state.channels.write channel bytes).2) := by
  simp [writeStandard, h]

end

/-! ## What leaves the intake alone -/

/-- What touches none of its parts leaves the intake alone. -/
lemma Touches.intake {m n : Machine} {a : List Part} (h : m.Touches a n)
    (hp : [.front, .fronts, .settings, .input, .fieldRest].any a.contains = false) : n.intake = m.intake := by
  have hparts := h.parts hp
  have hfront : n.front = m.front := hparts .front (by decide)
  have hfronts : n.fronts = m.fronts := hparts .fronts (by decide)
  have hsettings : n.settings = m.settings := hparts .settings (by decide)
  have hinput : n.state.channels.input = m.state.channels.input := hparts .input (by decide)
  have hrest : n.fieldRest = m.fieldRest := hparts .fieldRest (by decide)
  simp only [Machine.intake, hfront, hfronts, hsettings, hinput, hrest]

end Machine

/-- Whether a call asks for input or a front end, or ends the session. All other calls work on what the
intake is apart from. -/
def Call.usesIntake : Call → Bool
  | .readFrom fd _ => fd = StdChannel.input.fd
  | .openFile .. | .writeTo .. | .seek .. | .closeFile _ | .print _ | .flush _ | .takeHandle
  | .flushThrough .. | .parkNew _ => false
  | _ => true

namespace World

/-- A call that does not use the intake leaves it alone. -/
lemma intake_call {w : World} (b : w.machine.state.table.Bound) {c : Call}
    (hc : c.usesIntake = false) : (w.call c).2.machine.intake = w.machine.intake := by
  cases c with
  | readFrom fd buffer =>
    exact (Machine.touches_readFrom_file b (by simpa [Call.usesIntake] using hc) buffer).intake rfl
  | _ => first | exact (w.touches_call _).intake rfl | cases hc

end World

end Hostcall
