import Hostcall.Console.Channels
import Hostcall.Fault
import Hostcall.Host.OpenFile

/-!
# The descriptor table

Thirty-two slots; a descriptor is the number of a slot. The first three are the standard channels and
are never handed out or released. Opening reserves the lowest free slot for a name, and no name is held
twice; the stream is bound afterwards.
-/

namespace Hostcall

/-- The stream behind a slot. A standard slot only says which channel it stands for. -/
inductive Stream where
  | standard (channel : StdChannel)
  | file (f : OpenFile)
  deriving Repr, DecidableEq

/-- An allocated slot; it has no stream between opening and binding. -/
structure Slot where
  name : String
  mode : Mode
  stream : Option Stream
  deriving Repr, DecidableEq

/-- The number of slots. -/
abbrev tableSize : Nat := 32

/-- The first descriptor that is handed out. -/
def firstUserFd : Nat := 3

/-- The size of the buffer in which a guest passes file bytes. -/
def callBufferSize : Nat := 128

namespace StdChannel

def slotName : StdChannel → String
  | .input => "STDIN"
  | .output => "STDOUT"
  | .error => "STDERR"

def mode : StdChannel → Mode
  | .input => .read
  | .output => .write
  | .error => .write

/-- The slot reserved for a channel. -/
def slot (c : StdChannel) : Slot :=
  ⟨c.slotName, c.mode, some (.standard c)⟩

/-- The number of the slot reserved for a channel. -/
def index : StdChannel → Fin tableSize
  | .input => 0
  | .output => 1
  | .error => 2

end StdChannel

structure Table where
  slots : Vector (Option Slot) tableSize
  deriving DecidableEq

namespace Table

/-- The slot that a descriptor numbers, if it numbers one. -/
def index? (fd : Int) : Option (Fin tableSize) :=
  if h : 0 ≤ fd ∧ fd.toNat < tableSize then some ⟨fd.toNat, h.2⟩ else none

/-- The descriptor of a slot. -/
def fdOf (i : Fin tableSize) : Int := i.val

def slotAt (t : Table) (i : Fin tableSize) : Option Slot :=
  t.slots[i]

def setSlot (t : Table) (i : Fin tableSize) (s : Option Slot) : Table :=
  ⟨t.slots.set i s⟩

/-- A slot that is set is as it was set. -/
@[simp] theorem slotAt_setSlot_self (t : Table) (i : Fin tableSize) (s : Option Slot) :
    (t.setSlot i s).slotAt i = s := by
  simp [slotAt, setSlot]

/-- All other slots are as they were. -/
theorem slotAt_setSlot_of_ne (t : Table) {i j : Fin tableSize} (s : Option Slot) (h : i ≠ j) :
    (t.setSlot i s).slotAt j = t.slotAt j := by
  simp only [slotAt, setSlot]
  exact Vector.getElem_set_ne i.isLt j.isLt fun e => h (Fin.ext e)

/-- Tables are told apart by their slots. -/
theorem ext_slotAt {t u : Table} (h : ∀ i, t.slotAt i = u.slotAt i) : t = u := by
  obtain ⟨ts⟩ := t
  obtain ⟨us⟩ := u
  congr 1
  ext i hi
  have hs : ts[i] = us[i] := h ⟨i, hi⟩
  rw [hs]

/-- Puts the standard channels into their slots. -/
def setStandard (t : Table) : Table :=
  [StdChannel.input, .output, .error].foldl (fun t c => t.setSlot c.index (some c.slot)) t

/-- The table in which only the standard channels are open. -/
def initial : Table :=
  setStandard ⟨Vector.replicate tableSize none⟩

/-- The allocated slot of a descriptor. -/
def slot? (t : Table) (fd : Int) : Option Slot :=
  (index? fd).bind t.slotAt

def nameInUse (t : Table) (name : String) : Bool :=
  (List.finRange tableSize).any fun i => (t.slotAt i).any (·.name = name)

/-- The lowest free slot that may be handed out. -/
def lowestFree? (t : Table) : Option (Fin tableSize) :=
  (List.finRange tableSize).find? fun i => firstUserFd ≤ i.val && (t.slotAt i).isNone

/-- Reserves the lowest free slot for a name. A name in use is refused before the flags are looked at,
and the flags before the room. -/
def reserve (t : Table) (name : String) (flags : OpenFlags) : Except Fault (Int × Table) :=
  if t.nameInUse name then .error (.alreadyOpen name)
  else match flags.mode? with
    | none => .error (.unsupportedMode name flags)
    | some mode =>
      match t.lowestFree? with
      | none => .error (.tableFull name tableSize)
      | some i => .ok (fdOf i, t.setSlot i (some ⟨name, mode, none⟩))

/-- What is logged when a slot is reserved. -/
def reserveEntries (name : String) (flags : OpenFlags) : Except Fault (Int × Table) → List LogEntry
  | .ok (fd, _) =>
    let mode := (flags.mode?.map Mode.name).getD ""
    [⟨.debug, .table, s!"fd {fd} allocated for {Text.quote name} ({mode})"⟩]
  | .error _ => []

/-- Attaches a stream to an allocated slot; on a free one nothing happens. -/
def bind (t : Table) (fd : Int) (stream : Stream) : Bool × Table :=
  match index? fd with
  | none => (false, t)
  | some i =>
    match t.slotAt i with
    | none => (false, t)
    | some s => (true, t.setSlot i (some { s with stream := some stream }))

/-- What is logged when a stream is attached. -/
def bindEntries (fd : Int) : Bool → List LogEntry
  | true => []
  | false => [⟨.warn, .table, s!"bind on unallocated fd {fd}"⟩]

/-- Whether a descriptor is open in a mode that allows something. -/
def isOpenFor (t : Table) (fd : Int) (need : Capability) : Bool :=
  (t.slot? fd).any (·.mode.allows need)

/-- The fault of a descriptor that does not allow something. -/
def require (t : Table) (fd : Int) (need : Capability) : Except Fault Unit :=
  if t.isOpenFor fd need then .ok () else .error (.notOpen fd need)

/-- The stream behind a descriptor. -/
def stream? (t : Table) (fd : Int) : Option Stream :=
  (t.slot? fd).bind (·.stream)

def name? (t : Table) (fd : Int) : Option String :=
  (t.slot? fd).map (·.name)

def mode? (t : Table) (fd : Int) : Option Mode :=
  (t.slot? fd).map (·.mode)

/-- The number of allocated slots. -/
def openCount (t : Table) : Nat :=
  (List.finRange tableSize).countP fun i => (t.slotAt i).isSome

/-- The slot of a descriptor that can be released: allocated and not a standard one. -/
def releasable? (t : Table) (fd : Int) : Option (Fin tableSize × Slot) :=
  (index? fd).bind fun i =>
    if firstUserFd ≤ i.val then (t.slotAt i).map (i, ·) else none

/-- Releases a descriptor; one that cannot be released is left alone. -/
def close (t : Table) (fd : Int) : Table :=
  match t.releasable? fd with
  | none => t
  | some (i, _) => t.setSlot i none

/-- What is logged when a descriptor is released. -/
def closeEntries (t : Table) (fd : Int) : List LogEntry :=
  match t.releasable? fd with
  | none => []
  | some (_, s) => [⟨.debug, .table, s!"fd {fd} released ({Text.quote s.name})"⟩]

/-- The descriptors that can be handed out. -/
def userFds : List Int :=
  (List.range (tableSize - firstUserFd)).map fun n => ((n + firstUserFd : Nat) : Int)

/-- Releases every descriptor that was handed out and puts the standard channels back. -/
def reset (t : Table) : Table :=
  (userFds.foldl close t).setStandard

/-- What is logged on a reset. -/
def resetEntries (t : Table) : List LogEntry :=
  userFds.flatMap t.closeEntries

/-- The allocated descriptors in order, with their names and modes. -/
def allocated (t : Table) : List (Int × String × Mode) :=
  (List.finRange tableSize).filterMap fun i => (t.slotAt i).map fun s => (fdOf i, s.name, s.mode)

end Table

end Hostcall
