import Hostcall.Proofs.Console.Nesting
import Hostcall.Proofs.Machine.Intake

/-!
# Machines over other channels

Nothing that a machine does depends on whether its channels are those of the process or lie in memory, nor on
what the sink of the standard output received before; and of its reader it learns nothing but the answers to
what it asks for. So while no front end is attached a machine over other channels gives the same answers, as
long as its reader does, and the channels stay those that they are (the `*_rewired` lemmas).
-/

namespace Hostcall

open Pane

namespace Console

/-- The sink with other bytes before everything that it received. -/
def Sink.after (earlier : List UInt8) : Sink → Sink
  | .roomy taken => .roomy (taken ++ earlier.reverse)
  | .full line => .full line

def Outlet.after (earlier : List UInt8) (o : Outlet) : Outlet :=
  { o with sink := o.sink.after earlier }

/-- In what channels differ that give the same answers. -/
structure Wiring where
  /-- Where the channels lie. -/
  origin : Origin
  /-- What the sink of the standard output received before. -/
  earlier : List UInt8
  /-- The reader of the standard input. -/
  input : Input
  deriving Repr, DecidableEq

/-- What is left of a wiring when its reader has been asked. -/
def Wiring.asked (w : Wiring) (demands : List Demand) : Wiring :=
  { w with input := w.input.left demands }

/-- What is asked in turn can be asked in two parts. -/
lemma Wiring.asked_append (w : Wiring) (first second : List Demand) :
    w.asked (first ++ second) = (w.asked first).asked second := by
  simp only [asked, Input.left, List.foldl_append]

/-- The channels with another wiring. -/
def Channels.rewired (w : Wiring) (c : Channels) : Channels where
  origin := w.origin
  input := w.input
  output := c.output.after w.earlier
  error := c.error

section

variable (earlier : List UInt8)

/-- What a sink takes does not depend on what it received before. -/
lemma Sink.put_after (s : Sink) (bytes : List UInt8) :
    (s.after earlier).put bytes = (s.put bytes).map (Sink.after earlier) := by
  cases s with
  | roomy taken => simp [Sink.after, Sink.put, Except.map]
  | full line =>
    simp only [Sink.after, Sink.put]
    split
    · rfl
    · split
      · rfl
      · split <;> rfl

namespace Outlet

/-- An outlet hands on what it holds in the same way, whatever its sink received before. -/
lemma spill_after (o : Outlet) : (o.after earlier).spill = Prod.map id (after earlier) o.spill := by
  have hput := o.sink.put_after earlier o.held
  have hheld : (o.after earlier).held = o.held := rfl
  simp only [spill, hheld]
  simp only [after, hput]
  cases o.sink.put o.held <;> rfl

/-- An outlet is filled in the same way, whatever its sink received before. -/
lemma fill_after (o : Outlet) (bytes : List UInt8) :
    (o.after earlier).fill bytes = Prod.map id (after earlier) (o.fill bytes) := by
  have hput := o.sink.put_after earlier bytes
  have hheld : (o.after earlier).held = o.held := rfl
  simp only [fill, hheld]
  split
  · simp only [after, hput]
    cases o.sink.put bytes <;> rfl
  · rfl

/-- An outlet is written to in the same way, whatever its sink received before. -/
lemma write_after (o : Outlet) (bytes : List UInt8) :
    (o.after earlier).write bytes = Prod.map id (after earlier) (o.write bytes) := by
  have hheld : (o.after earlier).held = o.held := rfl
  simp only [write, hheld]
  split
  · rfl
  · split
    · rw [spill_after]
      cases o.spill with
      | mk outcome p =>
        cases outcome with
        | error cause => rfl
        | ok => exact p.fill_after earlier bytes
    · exact o.fill_after earlier bytes

/-- An outlet is flushed in the same way, whatever its sink received before. -/
lemma flush_after (o : Outlet) : (o.after earlier).flush = Prod.map id (after earlier) o.flush := by
  simp only [flush, spill_after]
  cases o.spill with
  | mk outcome p =>
    cases outcome with
    | error cause => rfl
    | ok =>
      obtain ⟨sink, pending⟩ := p
      cases sink with
      | roomy taken => rfl
      | full line => rfl

/-- Bytes go through an outlet in the same way, whatever its sink received before. -/
lemma writeThrough_after (o : Outlet) (bytes : List UInt8) :
    (o.after earlier).writeThrough bytes = Prod.map id (after earlier) (o.writeThrough bytes) := by
  simp only [writeThrough, write_after]
  cases o.write bytes with
  | mk outcome p =>
    cases outcome with
    | error cause => rfl
    | ok => exact p.flush_after earlier

/-- An outlet is reset in the same way, whatever its sink received before. -/
lemma reset_after (o : Outlet) : (o.after earlier).reset = Prod.map id (after earlier) o.reset := by
  obtain ⟨sink, pending⟩ := o
  cases pending with
  | none => rfl
  | some held =>
    have hflush := flush_after earlier ⟨sink, some held⟩
    simp only [reset, after] at hflush ⊢
    rw [hflush]
    rfl

end Outlet

end

namespace Channels

variable (w : Wiring) (c : Channels)

/-- Channels are wired as they are. -/
lemma rewired_self : c.rewired ⟨c.origin, [], c.input⟩ = c := by
  obtain ⟨origin, input, ⟨sink, pending⟩, error⟩ := c
  cases sink <;> simp [rewired, Outlet.after, Sink.after]

/-- Channels are written to in the same way however they are wired. -/
lemma write_rewired (channel : StdChannel) (bytes : List UInt8) :
    (c.rewired w).write channel bytes = Prod.map id (rewired w) (c.write channel bytes) := by
  cases channel with
  | input => rfl
  | output =>
    have hwrite := c.output.writeThrough_after w.earlier bytes
    simp only [write, outlet?, rewired, hwrite]
    rfl
  | error => rfl

/-- Channels are reset in the same way however they are wired. -/
lemma reset_rewired : (c.rewired w).reset = Prod.map id (rewired w) c.reset := by
  have hreset := c.output.reset_after w.earlier
  simp only [reset, rewired, hreset]
  rfl

variable {w c}

/-- A reader that gives the same bytes is left with what it has still to give. -/
lemma read_rewired {count : Nat}
    (h : w.input.answers [.bytes count] = c.input.answers [.bytes count]) :
    (c.rewired w).read count = Prod.map id (rewired (w.asked [.bytes count])) (c.read count) :=
  Prod.ext (List.cons.inj h).1 rfl

/-- A reader that gives the same line is left with what it has still to give. -/
lemma readLine_rewired (h : w.input.answers [.line] = c.input.answers [.line]) :
    (c.rewired w).readLine = Prod.map id (rewired (w.asked [.line])) c.readLine := by
  have hline : w.input.readLine.1 = c.input.readLine.1 := (List.cons.inj h).1
  exact Prod.ext (congrArg (Except.map _) hline) rfl

end Channels

end Console

namespace Machine

open Console (Wiring)

/-- The machine over channels with another wiring. -/
def rewired (w : Wiring) (m : Machine) : Machine :=
  m.setChannels (m.state.channels.rewired w)

variable {w : Wiring} {m : Machine}

/-- A machine is wired as it is. -/
lemma rewired_self (m : Machine) :
    m.rewired ⟨m.state.channels.origin, [], m.state.channels.input⟩ = m := by
  rw [rewired, Console.Channels.rewired_self]
  rfl

/-! ## Input -/

/-- A line is the same if the reader gives the same line. -/
lemma obtainLine_rewired (ha : m.attached? = none)
    (h : w.input.answers [.line] = m.state.channels.input.answers [.line]) (standIn prompt : String)
    (limit : Int) :
    (m.rewired w).obtainLine standIn prompt limit =
      Prod.map id (rewired (w.asked [.line])) (m.obtainLine standIn prompt limit) := by
  have ha' : (m.rewired w).attached? = none := ha
  have hchannels : (m.rewired w).state.channels = m.state.channels.rewired w := rfl
  rw [obtainLine_of_detached ha', obtainLine_of_detached ha]
  simp only [readConsoleLine, hchannels, Console.Channels.readLine_rewired h]
  cases m.state.channels.readLine with
  | mk outcome channels => cases outcome <;> rfl

/-- A byte is the same if the reader gives the same byte. -/
lemma obtainByte_rewired (ha : m.attached? = none)
    (h : w.input.answers [.bytes 1] = m.state.channels.input.answers [.bytes 1]) (prompt : String) :
    (m.rewired w).obtainByte prompt =
      Prod.map id (rewired (w.asked [.bytes 1])) (m.obtainByte prompt) := by
  have ha' : (m.rewired w).attached? = none := ha
  have hchannels : (m.rewired w).state.channels = m.state.channels.rewired w := rfl
  rw [obtainByte_of_detached ha', obtainByte_of_detached ha]
  simp only [readConsoleByte, hchannels, Console.Channels.read_rewired h]
  cases m.state.channels.read 1 with
  | mk outcome channels => cases outcome <;> rfl

/-- A character is the same if its byte is. -/
lemma readChar_rewired (ha : m.attached? = none)
    (h : w.input.answers [.bytes 1] = m.state.channels.input.answers [.bytes 1]) (service : Nat) :
    (m.rewired w).readChar service =
      Prod.map id (rewired (w.asked [.bytes 1])) (m.readChar service) := by
  simp only [readChar, obtainByte_rewired ha h]
  rfl

/-- A string is the same if its line is. -/
lemma readString_rewired (ha : m.attached? = none)
    (h : w.input.answers [.line] = m.state.channels.input.answers [.line]) (service : Nat) (limit : Int) :
    (m.rewired w).readString service limit =
      Prod.map id (rewired (w.asked [.line])) (m.readString service limit) := by
  simp only [readString, obtainLine_rewired ha h]
  rfl

/-- A value is the same if its line is. -/
lemma readValue_rewired (ha : m.attached? = none)
    (h : w.input.answers [.line] = m.state.channels.input.answers [.line]) {α ε : Type} (what : String)
    (service : Nat) (parse : String → Except ε α) (message : ε → String) :
    (m.rewired w).readValue what service parse message =
      Prod.map id (rewired (w.asked [.line])) (m.readValue what service parse message) := by
  simp only [readValue, obtainLine_rewired ha h]
  cases m.obtainLine "0" s!"Enter {what} (syscall {service})" (-1) with
  | mk outcome n =>
    cases outcome with
    | error c => rfl
    | ok line => cases h : parse (Text.trim line) <;> simp only [Prod.map, id, h]

/-- The end of a read has nothing to do with the channels. -/
lemma endRead_rewired (fd : Int) (buffer : List UInt8) (outcome : Except HostError Transfer) :
    (m.rewired w).endRead fd buffer outcome = Prod.map id (rewired w) (m.endRead fd buffer outcome) := by
  cases outcome <;> rfl

/-- A read of the standard input is the same if the reader gives the same bytes. -/
lemma readFrom_input_rewired (b : m.state.table.Bound) (ha : m.attached? = none) {buffer : List UInt8}
    (h : w.input.answers [.bytes buffer.length] = m.state.channels.input.answers [.bytes buffer.length]) :
    (m.rewired w).readFrom StdChannel.input.fd buffer =
      Prod.map id (rewired (w.asked [.bytes buffer.length])) (m.readFrom StdChannel.input.fd buffer) := by
  have ha' : (m.rewired w).attached? = none := ha
  have hreq : (m.rewired w).state.table.require StdChannel.input.fd .read = .ok () := b.require_read
  have hchannels : (m.rewired w).state.channels = m.state.channels.rewired w := rfl
  simp only [readFrom, hreq, b.require_read, if_true, obtainBytes_of_detached ha', obtainBytes_of_detached ha,
    hchannels, Console.Channels.read_rewired h]
  exact endRead_rewired (m := m.setChannels (m.state.channels.read buffer.length).2) StdChannel.input.fd buffer _

/-- A read of anything else does not ask the reader. -/
lemma readFrom_rewired (b : m.state.table.Bound) {fd : Int} (hfd : fd ≠ StdChannel.input.fd)
    (buffer : List UInt8) :
    (m.rewired w).readFrom fd buffer = Prod.map id (rewired w) (m.readFrom fd buffer) := by
  have hreq' : (m.rewired w).state.table.require fd .read = m.state.table.require fd .read := rfl
  have hstream' : (m.rewired w).state.table.stream? fd = m.state.table.stream? fd := rfl
  simp only [readFrom, hreq', if_neg hfd]
  cases hreq : m.state.table.require fd .read with
  | error fault => rfl
  | ok =>
    obtain ⟨he, -⟩ | ⟨i, s, f, -, -, -, hstream, -⟩ := b.stream?_of_read hreq
    · exact absurd he hfd
    · have hread : (m.rewired w).disk.read f buffer.length = m.disk.read f buffer.length := rfl
      simp only [readStream, hstream', hstream, hread]
      cases m.disk.read f buffer.length with
      | error cause => exact endRead_rewired fd buffer _
      | ok result =>
        exact endRead_rewired (m := m.setTable (m.state.table.bind fd (.file result.2)).2) fd buffer _

/-! ## Output -/

/-- The end of a write has nothing to do with the channels. -/
lemma endWrite_rewired (fd : Int) (bytes : List UInt8) (outcome : Except HostError Unit) :
    (m.rewired w).endWrite fd bytes outcome = Prod.map id (rewired w) (m.endWrite fd bytes outcome) := by
  cases outcome <;> rfl

/-- A write to an output is taken in the same way by whatever the channels lead to. -/
lemma writeStandard_rewired (ha : m.attached? = none) (channel : StdChannel) (bytes : List UInt8) :
    (m.rewired w).writeStandard channel bytes =
      Prod.map id (rewired w) (m.writeStandard channel bytes) := by
  have ha' : (m.rewired w).attached? = none := ha
  have hchannels : (m.rewired w).state.channels = m.state.channels.rewired w := rfl
  rw [writeStandard_of_detached ha', writeStandard_of_detached ha]
  simp only [hchannels, Console.Channels.write_rewired]
  rfl

/-- A write through a stream is the same, to a host file as well as to a channel. -/
lemma writeStream_rewired (fd : Int) (bytes : List UInt8) :
    (m.rewired w).writeStream fd bytes =
      (m.writeStream fd bytes).map (Prod.map id (rewired w)) := by
  have hchannels : (m.rewired w).state.channels = m.state.channels.rewired w := rfl
  have hstream : (m.rewired w).state.table.stream? fd = m.state.table.stream? fd := rfl
  simp only [writeStream, hstream]
  cases m.state.table.stream? fd with
  | none => rfl
  | some stream =>
    cases stream with
    | standard channel =>
      simp only [hchannels, Console.Channels.write_rewired]
      rfl
    | file f =>
      have hwrite : (m.rewired w).disk.write f bytes = m.disk.write f bytes := rfl
      simp only [hwrite]
      cases m.disk.write f bytes <;> rfl

/-- A write is the same, whatever its descriptor leads to. -/
lemma writeTo_rewired (ha : m.attached? = none) (fd : Int) (bytes : List UInt8) :
    (m.rewired w).writeTo fd bytes = Prod.map id (rewired w) (m.writeTo fd bytes) := by
  have hreq : (m.rewired w).state.table.require fd .write = m.state.table.require fd .write := rfl
  simp only [writeTo, hreq]
  cases m.state.table.require fd .write with
  | error fault => rfl
  | ok =>
    dsimp only
    split
    · simp only [writeStandard_rewired ha]
      exact endWrite_rewired fd bytes _
    · split
      · simp only [writeStandard_rewired ha]
        exact endWrite_rewired fd bytes _
      · rw [writeStream_rewired]
        cases m.writeStream fd bytes with
        | none => rfl
        | some result => exact endWrite_rewired fd bytes _

/-- Printing is the same, even if the console fails. -/
lemma print_rewired (ha : m.attached? = none) (text : String) :
    (m.rewired w).print text = (m.print text).rewired w := by
  have ha' : (m.rewired w).attached? = none := ha
  have hchannels : (m.rewired w).state.channels = m.state.channels.rewired w := rfl
  simp only [print, ha', ha, hchannels, Console.Channels.write_rewired]
  cases m.state.channels.write .output (Utf8.encode text) with
  | mk outcome channels => cases outcome <;> rfl

/-! ## Files -/

/-- Opening a file has nothing to do with the channels. -/
lemma openFile_rewired (name : String) (flags : OpenFlags) :
    (m.rewired w).openFile name flags =
      Prod.map id (rewired w) (m.openFile name flags) := by
  have htry : (m.rewired w).tryOpen name flags =
      Prod.map id (rewired w) (m.tryOpen name flags) := by
    have ht : (m.rewired w).state.table = m.state.table := rfl
    have hdisk : (m.rewired w).disk = m.disk := rfl
    have hsettings : (m.rewired w).settings = m.settings := rfl
    simp only [tryOpen, ht, log_disk, log_settings, hdisk, hsettings]
    cases m.state.table.reserve name flags with
    | error fault => rfl
    | ok reserved =>
      dsimp only
      cases m.disk.openPath (m.settings.resolve name) flags.access <;> rfl
  simp only [openFile, htry]
  cases m.tryOpen name flags with
  | mk outcome n => cases outcome <;> rfl

/-- Seeking has nothing to do with the channels. -/
lemma seek_rewired (fd offset whence : Int) :
    (m.rewired w).seek fd offset whence =
      Prod.map id (rewired w) (m.seek fd offset whence) := by
  have htry : (m.rewired w).trySeek fd offset whence =
      (m.trySeek fd offset whence).map (Prod.map id (rewired w)) := by
    have hreq : (m.rewired w).state.table.require fd .read = m.state.table.require fd .read := rfl
    have ht : (m.rewired w).state.table.stream? fd = m.state.table.stream? fd := rfl
    simp only [trySeek, hreq, ht]
    cases m.state.table.require fd .read with
    | error fault => rfl
    | ok =>
      cases Whence.ofGuest? whence with
      | none => rfl
      | some base =>
        cases m.state.table.stream? fd with
        | none => rfl
        | some stream =>
          cases stream with
          | standard channel => rfl
          | file f =>
            have hdisk : (m.rewired w).disk = m.disk := rfl
            simp only [hdisk]
            cases base <;> dsimp only <;> split <;> rfl
  simp only [seek, htry]
  cases m.trySeek fd offset whence <;> rfl

/-- Releasing a descriptor has nothing to do with the channels. -/
lemma closeFile_rewired (fd : Int) :
    (m.rewired w).closeFile fd = (m.closeFile fd).rewired w := rfl

/-- The end of a session is the same, since nothing is held back for a front end. -/
lemma endSession_rewired (ha : m.attached? = none) : (m.rewired w).endSession = m.endSession.rewired w := by
  have ha' : (m.rewired w).attached? = none := ha
  simp only [endSession, flush, ha', ha]
  rfl

/-- A reset does the same, and leaves the wiring as it is. -/
lemma resetFiles_rewired (ha : m.attached? = none) :
    (m.rewired w).resetFiles = m.resetFiles.rewired w := by
  have hreset := m.state.channels.reset_rewired w
  have hchannels (n : Machine) (t : Table) (es : List LogEntry) :
      ((n.log es).setTable t).state.channels = n.state.channels := rfl
  have hrewired : (m.rewired w).state.channels = m.state.channels.rewired w := rfl
  have ht : (m.rewired w).state.table = m.state.table := rfl
  simp only [resetFiles, hchannels, hrewired, ht, hreset]
  generalize m.state.channels.reset = result
  generalize m.state.table.reset = t
  let n := ((m.log m.state.table.resetEntries).setTable t).log result.1
  exact endSession_rewired (m := n.setChannels result.2) ha

end Machine

end Hostcall
