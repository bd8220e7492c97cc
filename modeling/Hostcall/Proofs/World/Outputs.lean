import Hostcall.Proofs.Machine.Outlets
import Hostcall.Proofs.World.Streams

/-!
# Everything that is written arrives

While no front end is attached, whatever a call shows has arrived in the right sink when the call returns,
behind everything that arrived there earlier (`emits_call`). Between two calls of a run nothing is held back
by a writer of any state (`Settled.run`), so that a sink has received exactly what was written to it, in the
order of the calls (`output_accounted`).
-/

namespace Hostcall

open Pane

/-- The bytes that a call has for a standard output. -/
def Call.bytesFor (channel : StdChannel) : Call → List UInt8
  | .print text => if .output = channel then Utf8.encode text else []
  | .writeTo fd bytes => if fd = channel.fd then bytes else []
  | _ => []

namespace World

/-- The bytes that a call brings to a standard output of the active state: those that it has for it, unless
they are shown to a front end. -/
def emitted (w : World) (channel : StdChannel) (c : Call) : List UInt8 :=
  if w.machine.attached? = none then c.bytesFor channel else []

/-- The bytes that the calls of a run bring to a standard output, in order. -/
def emittedAll (w : World) (channel : StdChannel) : List (Time × Call) → List UInt8
  | [] => []
  | (now, c) :: calls =>
    (w.atTime now).emitted channel c ++ ((w.atTime now).call c).2.emittedAll channel calls

variable {w : World} {c : Call} {channel : StdChannel} {o : Console.Outlet}

/-! ## One call -/

/-- A call that has nothing for a channel brings nothing there. -/
lemma emitted_of_none (h : c.bytesFor channel = []) : w.emitted channel c = [] := by
  simp [emitted, h]

/-- A call that leaves the outlets alone brings nothing there. -/
lemma emits_of_rest {m : Machine} (h : w.machine.outlet? channel = some o)
    (hm : m.outlet? = w.machine.outlet?) (hc : w.emitted channel c = []) :
    ∃ p, m.outlet? channel = some p ∧ o.Emits (w.emitted channel c) p :=
  ⟨o, hm ▸ h, hc ▸ .rest⟩

/-- Printing brings the text to the standard output, or to a front end. -/
lemma emits_print (h : w.machine.outlet? channel = some o) (text : String) :
    ∃ p, (w.machine.print text).outlet? channel = some p ∧
      o.Emits (w.emitted channel (.print text)) p := by
  simp only [Machine.print]
  split
  · next ha => exact emits_of_rest h ((Machine.touches_deliver _ _ _).outlet? rfl) (by simp [emitted, ha])
  · next ha =>
    obtain ⟨p, hp, e⟩ := Machine.emits_write h .output (Utf8.encode text)
    have hbytes : w.emitted channel (.print text) =
        if .output = channel then Utf8.encode text else [] := by
      simp [emitted, ha, Call.bytesFor]
    rw [hbytes]
    split <;> exact ⟨p, hp, e⟩

/-- A write to an output brings the bytes there, or to a front end. -/
lemma emits_writeStandard (h : w.machine.outlet? channel = some o) {dest : StdChannel}
    {bytes : List UInt8}
    (hbytes : (Call.writeTo dest.fd bytes).bytesFor channel = if dest = channel then bytes else []) :
    ∃ p, (w.machine.writeStandard dest bytes).2.outlet? channel = some p ∧
      o.Emits (w.emitted channel (.writeTo dest.fd bytes)) p := by
  simp only [Machine.writeStandard]
  split
  · next ha => exact emits_of_rest h ((Machine.touches_deliver _ _ _).outlet? rfl) (by simp [emitted, ha])
  · next ha =>
    rw [emitted, if_pos ha, hbytes]
    exact Machine.emits_write h dest bytes

/-- A write brings its bytes to an output exactly if it is to that output's descriptor. -/
lemma emits_writeTo (b : w.machine.state.table.Bound) (h : w.machine.outlet? channel = some o)
    (fd : Int) (bytes : List UInt8) :
    ∃ p, (w.machine.writeTo fd bytes).2.outlet? channel = some p ∧
      o.Emits (w.emitted channel (.writeTo fd bytes)) p := by
  have hchannel : channel ≠ .input := by
    rintro rfl
    cases h
  by_cases hfd : fd = StdChannel.output.fd ∨ fd = StdChannel.error.fd
  · obtain rfl | rfl := hfd
    · simp only [Machine.writeTo, b.require_write (c := .output) (by decide), if_true]
      rw [(Machine.touches_endWrite _ _ _ _).outlet? rfl]
      refine emits_writeStandard h ?_
      cases channel <;> simp [Call.bytesFor, StdChannel.fd]
    · have hne : StdChannel.error.fd ≠ StdChannel.output.fd := by decide
      simp only [Machine.writeTo, b.require_write (c := .error) (by decide), if_neg hne, if_true]
      rw [(Machine.touches_endWrite _ _ _ _).outlet? rfl]
      refine emits_writeStandard h ?_
      cases channel <;> simp [Call.bytesFor, StdChannel.fd]
  · obtain ⟨hout, herr⟩ := not_or.mp hfd
    have hother : fd ≠ channel.fd := by
      cases channel with
      | input => exact absurd rfl hchannel
      | output => exact hout
      | error => exact herr
    have hnone : w.emitted channel (.writeTo fd bytes) = [] := emitted_of_none (if_neg hother)
    exact emits_of_rest h ((Machine.touches_writeTo_file b hout herr bytes).outlet? rfl) hnone

/-- A call that keeps the active state brings to an outlet what it has for it and nothing else. -/
lemma emits_call (b : w.machine.state.table.Bound) (hc : c.exchanges = false)
    (h : w.machine.outlet? channel = some o) :
    ∃ p, (w.call c).2.machine.outlet? channel = some p ∧ o.Emits (w.emitted channel c) p := by
  cases c with
  | print text => exact emits_print h text
  | writeTo fd bytes => exact emits_writeTo b h fd bytes
  | resetFiles =>
    rw [emitted_of_none (c := .resetFiles) rfl]
    exact Machine.emits_resetFiles h
  | swap => cases hc
  | _ => exact emits_of_rest h ((w.touches_call _).outlet? rfl) (emitted_of_none rfl)

/-! ## Runs -/

/-- In every state the sinks of the outputs have room, and nothing is held back from them. -/
def Settled (w : World) : Prop :=
  ∀ id s, (id, s) ∈ w.states → ∀ channel o, s.channels.outlet? channel = some o →
    ∃ given, o.Settled given

/-- The outlets of channels in memory are settled. -/
lemma settled_memory {input : List UInt8} (h : (Console.Channels.memory input).outlet? channel = some o) :
    o.Settled [] := by
  cases channel with
  | input => cases h
  | output => cases h; exact ⟨⟨[], rfl⟩, rfl, rfl⟩
  | error => cases h; exact ⟨⟨[], rfl⟩, rfl, rfl⟩

/-- A call leaves nothing held back, in any state. -/
lemma Settled.call (h : w.Settled) (b : w.machine.state.table.Bound) (c : Call) : (w.call c).2.Settled := by
  intro id s hs channel o ho
  obtain hs | ⟨input, rfl⟩ | ⟨hc, rfl, rfl⟩ := mem_states_call c hs
  · exact h id s hs channel o ho
  · exact ⟨[], settled_memory ho⟩
  · -- The outlet of the active state is the one from before the call, and what the call brought to it.
    have hbefore : ∃ p, w.machine.outlet? channel = some p := by
      cases channel with
      | input => cases ho
      | output => exact ⟨_, rfl⟩
      | error => exact ⟨_, rfl⟩
    obtain ⟨p, hp⟩ := hbefore
    obtain ⟨given, hsettled⟩ := h _ _ (.head _) channel p hp
    obtain ⟨q, hq, e⟩ := emits_call b hc hp
    obtain rfl : o = q := Option.some.inj (ho.symm.trans hq)
    exact ⟨_, hsettled.emits e⟩

/-- A run leaves nothing held back, in any state. -/
lemma Settled.run (h : w.Settled) (b : w.Bound) (calls : List (Time × Call)) : (w.run calls).2.Settled := by
  have hboth : (w.run calls).2.Bound ∧ (w.run calls).2.Settled :=
    run_keeps (I := fun w => w.Bound ∧ w.Settled) (fun now h => ⟨h.1.atTime now, h.2⟩)
      (fun c h => ⟨h.1.call c, h.2.call h.1.active c⟩) ⟨b, h⟩ calls
  exact hboth.2

/-- While one state is active, its sinks receive exactly what the calls bring there, in their order. -/
lemma settled_emittedAll (b : w.Bound) {given : List UInt8} (h : w.machine.outlet? channel = some o)
    (settled : o.Settled given) {calls : List (Time × Call)}
    (hcalls : ∀ entry ∈ calls, entry.2.exchanges = false) :
    ∃ p, (w.run calls).2.machine.outlet? channel = some p ∧
      p.Settled (given ++ w.emittedAll channel calls) := by
  induction calls generalizing w o given with
  | nil => exact ⟨o, h, by simpa [emittedAll] using settled⟩
  | cons entry calls ih =>
    obtain ⟨now, c⟩ := entry
    have bound := b.atTime now
    obtain ⟨p, hp, e⟩ := emits_call (w := w.atTime now) bound.active (hcalls _ (.head _)) h
    obtain ⟨q, hq, hsettled⟩ := ih (bound.call c) hp (settled.emits e) fun f hf => hcalls f (.tail _ hf)
    exact ⟨q, hq, by simpa [emittedAll, List.append_assoc] using hsettled⟩

open Console in
/-- Output is accounted for, on the channels alone and in a machine.

Whatever is done to channels in memory, by writes that are flushed or left in a writer, reads and resets in
any order and of any length: the sink of an output and what its writer holds back make up exactly the bytes
that were handed to that output, in order. A write and a reset leave nothing held back, and a write to the
input fails and changes nothing.

In a machine whose sinks have room, and which holds nothing back at first, nothing is held back between two
calls of any run, in any state; and from there on a sink of the active state receives exactly what the calls
bring to it while no front end is attached, each before it returns, until another state is made the active
one. -/
theorem output_accounted (fresh : w.Fresh) (settled : w.Settled) :
    (∀ input ops, let channels := (Channels.memory input).applyAll ops
      (∀ channel ≠ StdChannel.input, ∃ o, channels.outlet? channel = some o ∧
        o.sink.received ++ o.held = Channels.handed channel ops ∧
        (∀ bytes, ∃ p, channels.write channel bytes = (.ok (), channels.setOutlet channel p) ∧
          p.held = [] ∧ p.sink.received = Channels.handed channel ops ++ bytes) ∧
        ∃ p, channels.reset.2.outlet? channel = some p ∧ p.held = [] ∧
          p.sink.received = Channels.handed channel ops) ∧
      ∀ bytes, channels.write .input bytes = (.error .inputNotWritable, channels)) ∧
    ∀ calls, let v := (w.run calls).2
      (∀ id s channel o, (id, s) ∈ v.states → s.channels.outlet? channel = some o → o.held = []) ∧
      ∀ channel o later, v.machine.outlet? channel = some o →
        (∀ entry ∈ later, entry.2.exchanges = false) →
        ∃ p, (v.run later).2.machine.outlet? channel = some p ∧ p.held = [] ∧
          p.sink.received = o.sink.received ++ v.emittedAll channel later := by
  constructor
  · intro input ops channels
    refine ⟨fun channel hchannel => ?_, fun bytes => channels.write_input bytes⟩
    obtain ⟨o, ho, took⟩ := (Channels.took_memory input hchannel).applyAll ops
    rw [List.nil_append] at took
    refine ⟨o, ho, took.accepted, fun bytes => ?_, ?_⟩
    · obtain ⟨hok, settled⟩ := took.writeThrough bytes
      exact ⟨_, by rw [Channels.write_eq ho, hok], settled.held, settled.received⟩
    · obtain ⟨-, settled⟩ := took.reset
      exact ⟨_, by rw [Channels.outlet?_reset, ho]; rfl, settled.held, settled.received⟩
  · intro calls v
    have after : v.Settled := settled.run fresh.bound calls
    refine ⟨fun id s channel o hs ho => ?_, fun channel o later ho hlater => ?_⟩
    · obtain ⟨given, h⟩ := after id s hs channel o ho
      exact h.held
    · obtain ⟨given, h⟩ := after _ _ (.head _) channel o ho
      obtain ⟨p, hp, hsettled⟩ := settled_emittedAll (fresh.bound.run calls) ho h hlater
      exact ⟨p, hp, hsettled.held, by rw [hsettled.received, h.received]⟩

open Console in
/-- A writer is filled to one byte below its capacity and then beyond it; a text for a front end is shown
there, and what is written after it was detached is in the sink. -/
theorem output_accounted_detached :
    let ops : List Channels.Operation :=
      [.hold .output (List.replicate 8191 97), .write .error [98], .hold .output [99, 100], .read 1]
    let calls : List (Time × Call) :=
      [(0, .attachNew { interactive := true }), (1, .print "shown"), (2, .attach none),
        (3, .writeTo 1 [104, 105]), (4, .writeTo 2 [63]), (5, .print "!")]
    scratch.Fresh ∧ scratch.Settled ∧
    (∃ o, ((Channels.memory []).applyAll ops).outlet? .output = some o ∧
      o.sink.received ++ o.held = List.replicate 8191 97 ++ [99, 100]) ∧
    (∀ entry ∈ calls, entry.2.exchanges = false) ∧
    ∃ p, (scratch.run calls).2.machine.outlet? .output = some p ∧ p.held = [] ∧
      p.sink.received = [104, 105, 33] := by
  intro ops calls
  have settled : scratch.Settled := by
    intro id s hs channel o ho
    obtain rfl : s = scratch.machine.state := congrArg Prod.snd (List.mem_singleton.mp hs)
    exact ⟨[], settled_memory ho⟩
  have hcalls : ∀ entry ∈ calls, entry.2.exchanges = false := by decide
  obtain ⟨channels, runs⟩ := output_accounted fresh_scratch settled
  obtain ⟨o, ho, haccount, -⟩ := (channels [] ops).1 .output (by decide)
  obtain ⟨p, hp, hheld, hreceived⟩ := (runs []).2 .output _ calls rfl hcalls
  have hemitted : scratch.emittedAll .output calls = [104, 105, 33] := by decide +kernel
  refine ⟨fresh_scratch, settled, ⟨o, ho, haccount.trans ?_⟩, hcalls, p, hp, hheld, ?_⟩
  · rfl
  · exact hreceived.trans hemitted

end World

end Hostcall
