import Hostcall.Machine.Basic

/-!
# Sources of input

Every request for input uses exactly one source: the console, a modal prompt, the run pane, or the
static field. Which one is settled by whether a front end is attached, by its mode, and by the setting
for modal prompts, to which plain byte reads do not listen.
-/

namespace Hostcall

open Pane

/-- Where a request for input goes. -/
inductive Source where
  | console
  | popup (front : FrontEndId)
  | pane (front : FrontEndId)
  | field (front : FrontEndId)
  deriving Repr, DecidableEq

/-- Bytes for a guest's buffer, and whether the buffer is cleared behind them. -/
structure Transfer where
  bytes : List UInt8
  clearRest : Bool := false
  deriving Repr, DecidableEq

/-- A buffer with the bytes at its front. -/
def Transfer.into (t : Transfer) (buffer : List UInt8) : List UInt8 :=
  let rest := buffer.length - t.bytes.length
  t.bytes ++ if t.clearRest then List.replicate rest 0 else buffer.drop t.bytes.length

namespace Machine

/-- The source of plain bytes. -/
def byteSource (m : Machine) : Source :=
  match m.attached? with
  | none => .console
  | some (id, f) => if f.interactive then .pane id else .field id

/-- The source of values, lines and characters. -/
def valueSource (m : Machine) : Source :=
  match m.attached? with
  | none => .console
  | some (id, f) =>
    if m.settings.popup then .popup id else if f.interactive then .pane id else .field id

/-- Takes the next answer of a front end. -/
def takeAnswer (m : Machine) (id : FrontEndId) : Except Cancelled String × Machine :=
  match m.fronts[id]? with
  | none => (.error .cancelled, m)
  | some f =>
    let (answer, f) := f.answer
    let m := { m with fronts := m.fronts.set id f }
    match answer with
    | none => (.error .cancelled, m)
    | some text => (.ok text, m)

/-- Asks by a modal prompt; held output is shown first. -/
def askPopup (m : Machine) (id : FrontEndId) (prompt : String) : Except Cancelled String × Machine :=
  let m := m.deliver id (.flush true)
  let m := m.trace .channel s!"popup prompt {Text.quote prompt}"
  (m.record (.promptedLine id prompt)).takeAnswer id

/-- Asks in the run pane; held output is shown first. -/
def askPane (m : Machine) (id : FrontEndId) (limit : Int) : Except Cancelled String × Machine :=
  let m := m.deliver id (.flush true)
  let m := m.trace .channel s!"run pane prompt (max_len={limit})"
  (m.record (.promptedBounded id limit)).takeAnswer id

/-- What is left of the static field; its content is taken at the first use in a session. -/
def fieldBytes (m : Machine) (id : FrontEndId) : List UInt8 :=
  m.fieldRest.getD (((m.fronts[id]?).map fun f => Utf8.encode f.field).getD [])

/-- Reads at most `count` bytes of the static field. -/
def readField (m : Machine) (id : FrontEndId) (count : Nat) : List UInt8 × Machine :=
  let bytes := m.fieldBytes id
  (bytes.take count, { m with fieldRest := some (bytes.drop count) })

/-- Reads a line of the static field; the empty text at its end. -/
def readFieldLine (m : Machine) (id : FrontEndId) : String × Machine :=
  let (line, rest) := Line.cut (m.fieldBytes id)
  (Line.text line, { m with fieldRest := some rest })

/-- Reads a line of the console; the empty text at its end, and a stand-in where the console fails. -/
def readConsoleLine (m : Machine) (standIn : String) : String × Machine :=
  let (outcome, channels) := m.state.channels.readLine
  let m := m.setChannels channels
  match outcome with
  | .ok line => (line.getD "", m)
  | .error cause =>
    (standIn, m.log [⟨.warn, .bridge,
      s!"console read failed, using {Text.quote standIn}: {cause.message}"⟩])

/-- Obtains a line for a value. -/
def obtainLine (m : Machine) (standIn prompt : String) (limit : Int) :
    Except Cancelled String × Machine :=
  match m.valueSource with
  | .console => let (line, m) := m.readConsoleLine standIn; (.ok line, m)
  | .popup id => m.askPopup id prompt
  | .pane id => m.askPane id limit
  | .field id => let (line, m) := m.readFieldLine id; (.ok line, m)

/-- Obtains at most `count` bytes for a read of the standard input. -/
def obtainBytes (m : Machine) (count : Nat) :
    Except Cancelled (Except HostError Transfer) × Machine :=
  match m.byteSource with
  | .pane id =>
    match m.askPane id (min count 0x7FFFFFFF) with
    | (.error c, m) => (.error c, m)
    | (.ok text, m) => (.ok (.ok ⟨(Utf8.encode text).take count, true⟩), m)
  | .field id => let (bytes, m) := m.readField id count; (.ok (.ok { bytes }), m)
  | _ =>
    let (outcome, channels) := m.state.channels.read count
    (.ok (outcome.map fun bytes => { bytes }), m.setChannels channels)

/-- Reads one byte of the console; none at its end or where it fails. -/
def readConsoleByte (m : Machine) : Option UInt8 × Machine :=
  let (outcome, channels) := m.state.channels.read 1
  let m := m.setChannels channels
  match outcome with
  | .ok bytes => (bytes.head?, m)
  | .error cause =>
    (none, m.log [⟨.warn, .bridge,
      s!"console read failed, treating as end of input: {cause.message}"⟩])

/-- Obtains one byte for a character; none at the end of input. -/
def obtainByte (m : Machine) (prompt : String) : Except Cancelled (Option UInt8) × Machine :=
  match m.valueSource with
  | .console => let (byte, m) := m.readConsoleByte; (.ok byte, m)
  | .popup id =>
    let (answer, m) := m.askPopup id prompt
    (answer.map fun text => (Utf8.encode text).head?, m)
  | .pane id =>
    let (answer, m) := m.askPane id 1
    (answer.map fun text => (Utf8.encode text).head?, m)
  | .field id => let (bytes, m) := m.readField id 1; (.ok bytes.head?, m)

end Machine

end Hostcall
