import Hostcall.Machine.Session
import Hostcall.Machine.Values

/-!
# Runs of calls

A world is a machine with the I/O states that are parked beside it and the handles that were taken for
flushing from outside. A run is a list of calls, each made at some reading of the clock.
-/

namespace Hostcall

open Pane

/-- Anything that can be done to a world, by the guest or by its host. -/
inductive Call where
  | openFile (name : String) (flags : OpenFlags)
  | readFrom (fd : Int) (buffer : List UInt8)
  | writeTo (fd : Int) (bytes : List UInt8)
  | seek (fd offset whence : Int)
  | closeFile (fd : Int)
  | print (text : String)
  | readChar (service : Nat)
  | readString (service : Nat) (limit : Int)
  | readInteger (service : Nat)
  | readLong (service : Nat)
  | readSingle (service : Nat)
  | readDouble (service : Nat)
  | flush (force : Bool)
  | resetFiles
  /-- Creates a front end and attaches it. -/
  | attachNew (front : FrontEnd)
  | attach (front : Option FrontEndId)
  /-- Changes how a front end answers; its queue of answers stays. -/
  | adjustFront (front : FrontEndId) (attached interactive : Bool) (field : String)
  | takeHandle
  | flushThrough (handle : Nat) (force : Bool)
  /-- Parks a new state over channels in memory. -/
  | parkNew (input : List UInt8)
  | swap (state : Nat)
  | setSettings (settings : Settings)
  deriving Repr, DecidableEq

/-- The answer to a call. -/
inductive Reply where
  | done
  | code (n : Int)
  | read (r : ReadReply)
  | char (outcome : Except Cancelled Int)
  | text (outcome : Except Cancelled String)
  | integer (outcome : Except ReadValueError Int)
  | long (outcome : Except ReadValueError Int)
  | single (outcome : Except ReadValueError Nat)
  | double (outcome : Except ReadValueError Nat)
  | front (id : FrontEndId)
  | handle (taken : Bool)
  | state (id : Nat)
  /-- The number of open descriptors of the state that was put aside. -/
  | swapped (previousOpen : Nat)

structure World where
  machine : Machine
  /-- The number of the active state. -/
  active : Nat := 0
  /-- The other states, by number. -/
  parked : List (Nat × IoState) := []
  /-- The front ends for which handles were taken, in order; none where no front end was attached. -/
  handles : List (Option FrontEndId) := []
  deriving DecidableEq

namespace World

/-- Exchanges the active state for a parked one. -/
def swap (w : World) (id : Nat) : Reply × World :=
  match w.parked.lookup id with
  | none => (.done, w)
  | some state =>
    let (previous, machine) := w.machine.swap state
    (.swapped previous.table.openCount,
      { w with machine, active := id, parked := (w.active, previous) :: w.parked.filter (·.1 ≠ id) })

/-- Makes a call. -/
def call (w : World) : Call → Reply × World
  | .openFile name flags =>
    let (n, machine) := w.machine.openFile name flags
    (.code n, { w with machine })
  | .readFrom fd buffer =>
    let (r, machine) := w.machine.readFrom fd buffer
    (.read r, { w with machine })
  | .writeTo fd bytes =>
    let (n, machine) := w.machine.writeTo fd bytes
    (.code n, { w with machine })
  | .seek fd offset whence =>
    let (n, machine) := w.machine.seek fd offset whence
    (.code n, { w with machine })
  | .closeFile fd => (.done, { w with machine := w.machine.closeFile fd })
  | .print text => (.done, { w with machine := w.machine.print text })
  | .readChar service =>
    let (r, machine) := w.machine.readChar service
    (.char r, { w with machine })
  | .readString service limit =>
    let (r, machine) := w.machine.readString service limit
    (.text r, { w with machine })
  | .readInteger service =>
    let (r, machine) := w.machine.readInteger service
    (.integer r, { w with machine })
  | .readLong service =>
    let (r, machine) := w.machine.readLong service
    (.long r, { w with machine })
  | .readSingle service =>
    let (r, machine) := w.machine.readSingle service
    (.single r, { w with machine })
  | .readDouble service =>
    let (r, machine) := w.machine.readDouble service
    (.double r, { w with machine })
  | .flush force => (.done, { w with machine := w.machine.flush force })
  | .resetFiles => (.done, { w with machine := w.machine.resetFiles })
  | .attachNew front =>
    let id := w.machine.fronts.length
    let machine := { w.machine with fronts := w.machine.fronts ++ [front] }
    (.front id, { w with machine := machine.attach (some id) })
  | .attach front => (.done, { w with machine := w.machine.attach front })
  | .adjustFront id attached interactive field =>
    let fronts := w.machine.fronts.modify id fun f => { f with attached, interactive, field }
    (.done, { w with machine := { w.machine with fronts } })
  | .takeHandle =>
    let handle := w.machine.handle?
    (.handle handle.isSome, { w with handles := w.handles ++ [handle] })
  | .flushThrough handle force =>
    match (w.handles[handle]?).join with
    | none => (.done, w)
    | some id => (.done, { w with machine := w.machine.flushThrough id force })
  | .parkNew input =>
    let id := w.parked.length + 1
    (.state id, { w with parked := (id, .memory input) :: w.parked })
  | .swap id => w.swap id
  | .setSettings settings => (.done, { w with machine := { w.machine with settings } })

/-- Sets the clock. -/
def atTime (w : World) (now : Time) : World :=
  { w with machine := { w.machine with clock := now } }

/-- Makes calls in order, each at its reading of the clock. -/
def run (w : World) : List (Time × Call) → List Reply × World
  | [] => ([], w)
  | (now, c) :: calls =>
    let (reply, w) := (w.atTime now).call c
    let (replies, w) := w.run calls
    (reply :: replies, w)

/-- All states with their numbers, the active one among them. -/
def states (w : World) : List (Nat × IoState) :=
  (w.active, w.machine.state) :: w.parked

end World

end Hostcall
