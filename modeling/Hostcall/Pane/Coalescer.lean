import Hostcall.Text.Utf8

/-!
# Coalesced output

Text on its way to a message pane is held back so that deliveries lie at least an interval apart. What
arrives in between waits and goes out, in order, with the next delivery. The first window opens with
the first chunk. Times are readings of a clock that need not be monotone.
-/

namespace Hostcall.Pane

/-- A time, in microseconds from an arbitrary origin. -/
abbrev Time := Int

structure Coalescer where
  interval : Int
  pending : String := ""
  /-- The end of the current window, absent until a first chunk opens one. -/
  windowEnd : Option Time := none
  deriving Repr, DecidableEq

/-- What is asked of a coalescer: to take a chunk, or to let go of what it holds. -/
inductive Action where
  | push (chunk : String)
  | flush (force : Bool)
  deriving Repr, DecidableEq

namespace Coalescer

/-- Takes a chunk: the text to deliver, if the window is over. -/
def push (c : Coalescer) (chunk : String) (now : Time) : Option String × Coalescer :=
  let windowEnd := c.windowEnd.getD (now + c.interval)
  if now < windowEnd then
    (none, { c with pending := c.pending ++ chunk, windowEnd := some windowEnd })
  else
    (some (c.pending ++ chunk), { c with pending := "", windowEnd := some (now + c.interval) })

/-- Lets go of what is held if that is forced or the window is over: the text to deliver, if any. -/
def flush (c : Coalescer) (force : Bool) (now : Time) : Option String × Coalescer :=
  if c.pending = "" then (none, c)
  else if !force && c.windowEnd.any (now < ·) then (none, c)
  else (some c.pending, { c with pending := "", windowEnd := some (now + c.interval) })

/-- What a push delivers, and what is pending after it, is what was pending and the chunk. -/
theorem push_conserves (c : Coalescer) (chunk : String) (now : Time) :
    (c.push chunk now).1.getD "" ++ (c.push chunk now).2.pending = c.pending ++ chunk := by
  simp only [push]
  split <;> simp

/-- What a flush delivers, and what is pending after it, is what was pending. -/
theorem flush_conserves (c : Coalescer) (force : Bool) (now : Time) :
    (c.flush force now).1.getD "" ++ (c.flush force now).2.pending = c.pending := by
  simp only [flush]
  split
  · simp
  · split <;> simp

/-- A forced flush leaves nothing pending. -/
theorem pending_flush_force (c : Coalescer) (now : Time) : (c.flush true now).2.pending = "" := by
  simp only [flush]
  split
  · assumption
  · simp

/-- Forgets what is held and closes the window. -/
def clear (c : Coalescer) : Coalescer :=
  { c with pending := "", windowEnd := none }

def apply (c : Coalescer) (now : Time) : Action → Option String × Coalescer
  | .push chunk => c.push chunk now
  | .flush force => c.flush force now

/-- The number of bytes of a text. -/
def byteCount (text : String) : Nat :=
  text.utf8ByteSize

/-- What is traced about an action, given what it released and the coalescer after it. -/
def note (after : Coalescer) : Action → Option String → Option String
  | .push chunk, none =>
    some s!"held {byteCount chunk} bytes, {byteCount after.pending} pending"
  | .flush force, some text => some s!"flush {byteCount text} bytes (force={force})"
  | _, _ => none

end Coalescer

end Hostcall.Pane
