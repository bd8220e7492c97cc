import Hostcall.Machine.Prompt

/-!
# File calls

Opening, reading, writing, seeking and closing by descriptor, and printing. A call that fails returns
`-1` and leaves its message; only a cancelled prompt is told apart from that. Reads and writes which the
table refuses are not traced; all other calls are traced once, with their result.
-/

namespace Hostcall

open Pane

/-- The outcome of a read: the number returned, unless a prompt was cancelled, and the guest's buffer. -/
structure ReadReply where
  result : Except Cancelled Int
  buffer : List UInt8

namespace Machine

/-- Reserves a descriptor and opens the host file behind it; a descriptor whose file cannot be opened is
released again. -/
def tryOpen (m : Machine) (name : String) (flags : OpenFlags) : Except Fault Int × Machine :=
  let reserved := m.state.table.reserve name flags
  let m := m.log (Table.reserveEntries name flags reserved)
  match reserved with
  | .error fault => (.error fault, m)
  | .ok (fd, table) =>
    match m.disk.openPath (m.settings.resolve name) flags.access with
    | .ok (disk, f) =>
      (.ok fd, { m with disk }.setTable (table.bind fd (.file f)).2)
    | .error cause =>
      let m := m.log (table.closeEntries fd)
      (.error (.notFound name flags.direction cause), m.setTable (table.close fd))

/-- Opens a file: the descriptor, or `-1`. -/
def openFile (m : Machine) (name : String) (flags : OpenFlags) : Int × Machine :=
  let (result, m) := match m.tryOpen name flags with
    | (.ok fd, m) => (fd, { m with lastError := noError })
    | (.error fault, m) => (-1, m.fail fault)
  (result, m.trace .syscall s!"open({Text.quote name}, {OpenFlags.hex flags.bits}) = {result}")

/-- Reads through the stream of a descriptor; nothing where there is no stream. -/
def readStream (m : Machine) (fd : Int) (count : Nat) :
    Option (Except HostError (List UInt8) × Machine) :=
  match m.state.table.stream? fd with
  | none => none
  | some (.standard .input) =>
    let (outcome, channels) := m.state.channels.read count
    some (outcome, m.setChannels channels)
  | some (.standard _) => some (.error .outputNotReadable, m)
  | some (.file f) =>
    match m.disk.read f count with
    | .error cause => some (.error cause, m)
    | .ok (bytes, f) => some (.ok bytes, m.setTable (m.state.table.bind fd (.file f)).2)

/-- Writes through the stream of a descriptor; nothing where there is no stream. -/
def writeStream (m : Machine) (fd : Int) (bytes : List UInt8) :
    Option (Except HostError Unit × Machine) :=
  match m.state.table.stream? fd with
  | none => none
  | some (.standard channel) =>
    let (outcome, channels) := m.state.channels.write channel bytes
    some (outcome, m.setChannels channels)
  | some (.file f) =>
    match m.disk.write f bytes with
    | .error cause => some (.error cause, m)
    | .ok (disk, f) => some (.ok (), { m with disk }.setTable (m.state.table.bind fd (.file f)).2)

/-- Whether the stream of a descriptor can be repositioned; nothing where there is no stream. -/
def seekable? (m : Machine) (fd : Int) : Option Bool :=
  (m.state.table.stream? fd).map fun
    | .file _ => true
    | .standard _ => false

/-- A number of bytes as a call returns it; one that no register can hold becomes the greatest that it can. -/
def countCode (n : Nat) : Int :=
  min n 0x7FFFFFFF

/-- Ends a read: the buffer with the bytes in it, or the fault. -/
def endRead (m : Machine) (fd : Int) (buffer : List UInt8) :
    Except HostError Transfer → ReadReply × Machine
  | .ok t =>
    let result := countCode t.bytes.length
    (⟨.ok result, t.into buffer⟩,
      m.trace .syscall s!"read({fd}, {buffer.length}) = {result}")
  | .error cause =>
    (⟨.ok (-1), buffer⟩,
      (m.fail (.hostFailed .read fd cause)).trace .syscall s!"read({fd}, {buffer.length}) = -1")

/-- Reads into a buffer: the number of bytes, zero at the end of input, or `-1`. -/
def readFrom (m : Machine) (fd : Int) (buffer : List UInt8) : ReadReply × Machine :=
  match m.state.table.require fd .read with
  | .error fault => (⟨.ok (-1), buffer⟩, m.fail fault)
  | .ok () =>
    if fd = StdChannel.input.fd then
      match m.obtainBytes buffer.length with
      | (.error c, m) => (⟨.error c, buffer⟩, m)
      | (.ok outcome, m) => m.endRead fd buffer outcome
    else
      match m.readStream fd buffer.length with
      | none => (⟨.ok (-1), buffer⟩, m.fail (.notOpen fd .read))
      | some (outcome, m) => m.endRead fd buffer (outcome.map fun bytes => { bytes })

/-- Writes to a standard output: to the front end that is attached, otherwise to the channel. -/
def writeStandard (m : Machine) (channel : StdChannel) (bytes : List UInt8) :
    Except HostError Unit × Machine :=
  match m.attached? with
  | some (id, _) => (.ok (), m.deliver id (.push (Utf8.decode bytes)))
  | none =>
    let (outcome, channels) := m.state.channels.write channel bytes
    (outcome, m.setChannels channels)

/-- Ends a write: the number of bytes, all or none. -/
def endWrite (m : Machine) (fd : Int) (bytes : List UInt8) : Except HostError Unit → Int × Machine
  | .ok () =>
    let result := countCode bytes.length
    (result, m.trace .syscall s!"write({fd}, {bytes.length}) = {result}")
  | .error cause =>
    (-1, (m.fail (.hostFailed .write fd cause)).trace .syscall s!"write({fd}, {bytes.length}) = -1")

/-- Writes all bytes: their number, or `-1`. -/
def writeTo (m : Machine) (fd : Int) (bytes : List UInt8) : Int × Machine :=
  match m.state.table.require fd .write with
  | .error fault => (-1, m.fail fault)
  | .ok () =>
    if fd = StdChannel.output.fd then
      let (outcome, m) := m.writeStandard .output bytes
      m.endWrite fd bytes outcome
    else if fd = StdChannel.error.fd then
      let (outcome, m) := m.writeStandard .error bytes
      m.endWrite fd bytes outcome
    else
      match m.writeStream fd bytes with
      | none => (-1, m.fail (.notOpen fd .write))
      | some (outcome, m) => m.endWrite fd bytes outcome

/-- The greatest position that a seek can return. -/
def greatestPosition : Int := 0x7FFFFFFF

/-- Moves a file to an offset from its start, from where it stands, or from its end. -/
def trySeek (m : Machine) (fd offset whence : Int) : Except Fault (Int × Machine) :=
  match m.state.table.require fd .read with
  | .error fault => .error fault
  | .ok () =>
    match Whence.ofGuest? whence with
    | none => .error (.seekBase fd whence)
    | some whence =>
      match m.state.table.stream? fd with
      | none => .error (.notOpen fd .read)
      | some (.standard _) => .error (.notSeekable fd)
      | some (.file f) =>
        let base : Int := match whence with
          | .start => 0
          | .current => f.position
          | .finish => m.disk.size f
        let target := base + offset
        if 0 ≤ target ∧ target ≤ greatestPosition then
          .ok (target, m.setTable (m.state.table.bind fd (.file (f.moveTo target.toNat))).2)
        else .error (.seekTarget fd target)

/-- Repositions a descriptor: its new position, or `-1`. -/
def seek (m : Machine) (fd offset whence : Int) : Int × Machine :=
  let (result, m) := match m.trySeek fd offset whence with
    | .ok (position, m) => (position, m)
    | .error fault => (-1, m.fail fault)
  (result, m.trace .syscall s!"seek({fd}, {offset}, {whence}) = {result}")

/-- Releases a descriptor; this never fails. -/
def closeFile (m : Machine) (fd : Int) : Machine :=
  let m := m.trace .syscall s!"close({fd})"
  (m.log (m.state.table.closeEntries fd)).setTable (m.state.table.close fd)

/-- Shows a text: in the pane of the front end that is attached, otherwise on the console. -/
def print (m : Machine) (text : String) : Machine :=
  match m.attached? with
  | some (id, _) => m.deliver id (.push text)
  | none =>
    let (outcome, channels) := m.state.channels.write .output (Utf8.encode text)
    let m := m.setChannels channels
    match outcome with
    | .ok () => m
    | .error cause => m.log [⟨.warn, .bridge, s!"console print failed: {cause.message}"⟩]

end Machine

end Hostcall
