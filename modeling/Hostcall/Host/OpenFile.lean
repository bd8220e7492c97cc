import Hostcall.Access
import Hostcall.Host.Disk

/-!
# Open files

A file that the host has opened: what it leads to, what may be done with it, and where the next byte is
read or written. Access is decided by single bits of the flags, apart from the mode that the whole word
names.
-/

namespace Hostcall

/-- What a host file was opened for. -/
inductive Access where
  | read
  | write
  /-- Every write goes to the end. -/
  | append
  deriving Repr, DecidableEq

/-- The access that single bits ask for: without the bit for writing, a file is read. -/
def OpenFlags.access (f : OpenFlags) : Access :=
  if f.asksWrite then (if f.asksAppend then .append else .write) else .read

/-- The access that a mode needs. -/
def Mode.access : Mode → Access
  | .read => .read
  | .write => .write
  | .append => .append

/-- The bits and the whole word agree on the three words that name a mode. -/
theorem Mode.access_flags (m : Mode) : m.flags.access = m.access := by
  cases m <;> rfl

/-- What stands behind an open file. -/
inductive Backing where
  | regular (id : FileId)
  | null
  | full
  deriving Repr, DecidableEq

structure OpenFile where
  backing : Backing
  access : Access
  position : Nat := 0
  deriving Repr, DecidableEq

/-- The backing of a node; a directory has none. -/
def Node.backing? : Node → Option Backing
  | .directory => none
  | .file id => some (.regular id)
  | .null => some .null
  | .full => some .full

/-- Moves an open file to a position; devices have none. -/
def OpenFile.moveTo (f : OpenFile) (position : Nat) : OpenFile :=
  match f.backing with
  | .regular _ => { f with position }
  | _ => f

namespace Disk

/-- Empties a file that was opened to be written from its start. -/
def truncate (d : Disk) : Backing → Disk
  | .regular id => d.setBody id []
  | _ => d

/-- Opens a path. Writing creates the file; writing without appending empties it. -/
def openPath (d : Disk) (path : String) (access : Access) : Except HostError (Disk × OpenFile) :=
  match access with
  | .read =>
    match d.lookup path with
    | .error e => .error e
    | .ok node =>
      match node.backing? with
      | none => .error (.directoryAt path)
      | some backing => .ok (d, { backing, access })
  | .write =>
    match d.lookupOrCreate path with
    | .error e => .error e
    | .ok (d, node) =>
      match node.backing? with
      | none => .error .isDirectory
      | some backing => .ok (d.truncate backing, { backing, access })
  | .append =>
    match d.lookupOrCreate path with
    | .error e => .error e
    | .ok (d, node) =>
      match node.backing? with
      | none => .error .isDirectory
      | some backing => .ok (d, { backing, access })

/-- The number of bytes behind an open file. -/
def size (d : Disk) (f : OpenFile) : Nat :=
  match f.backing with
  | .regular id => (d.body id).length
  | _ => 0

/-- Reads up to `count` bytes from where the file stands. -/
def read (d : Disk) (f : OpenFile) (count : Nat) : Except HostError (List UInt8 × OpenFile) :=
  if f.access ≠ .read then .error .badDescriptor
  else match f.backing with
    | .regular id =>
      let bytes := ((d.body id).drop f.position).take count
      .ok (bytes, { f with position := f.position + bytes.length })
    | .null => .ok ([], f)
    | .full => .ok (List.replicate count 0, f)

/-- A content with bytes put over it from a position on; a gap before the position is filled with zeros. -/
def overwrite (content : List UInt8) (position : Nat) (bytes : List UInt8) : List UInt8 :=
  content.take position ++
    (List.replicate (position - content.length) 0 ++ (bytes ++ content.drop (position + bytes.length)))

/-- Writes all bytes; writing none never reaches the file. -/
def write (d : Disk) (f : OpenFile) (bytes : List UInt8) : Except HostError (Disk × OpenFile) :=
  if bytes = [] then .ok (d, f)
  else if f.access = .read then .error .badDescriptor
  else match f.backing with
    | .regular id =>
      let content := d.body id
      let start := if f.access = .append then content.length else f.position
      .ok (d.setBody id (overwrite content start bytes), { f with position := start + bytes.length })
    | .null => .ok (d, f)
    | .full => .error .noSpace

/-- The content of the file at a path. -/
def contentAt (d : Disk) (path : String) : Except HostError (List UInt8) :=
  match d.lookup path with
  | .error e => .error e
  | .ok (.file id) => .ok (d.body id)
  | .ok .directory => .error .isDirectory
  | .ok _ => .ok []

/-- Writes a file as a whole. -/
def putContent (d : Disk) (path : String) (bytes : List UInt8) : Except HostError Disk :=
  match d.openPath path .write with
  | .error e => .error e
  | .ok (d, f) => (d.write f bytes).map (·.1)

end Disk

end Hostcall
