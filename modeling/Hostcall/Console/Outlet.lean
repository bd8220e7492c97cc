import Hostcall.Console.Input

/-!
# Buffered output

A standard output behind a writer that holds bytes back until it is full or flushed. The writer is made
on first use and dropped on reset; what it holds has not reached the sink yet. A sink with room takes
everything in order (`write_roomy`), and has it all after a flush (`flush_roomy`, `writeThrough_roomy`).
-/

namespace Hostcall.Console

/-- The most bytes that a line-buffered device holds back. -/
def lineCapacity : Nat := 1024

/-- Where output goes. -/
inductive Sink where
  /-- Takes everything; the bytes that arrived, latest first. -/
  | roomy (taken : List UInt8)
  /-- A device without room behind a line buffer, which still takes bytes. -/
  | full (line : List UInt8)
  deriving Repr, DecidableEq

namespace Sink

/-- The bytes that arrived, in order. -/
def received : Sink → List UInt8
  | .roomy taken => taken.reverse
  | .full _ => []

/-- The bytes that arrived after an earlier state of the sink. -/
def arrivedSince (s earlier : Sink) : List UInt8 :=
  match s, earlier with
  | .roomy taken, .roomy before => (taken.take (taken.length - before.length)).reverse
  | _, _ => []

/-- Hands bytes over. A full device refuses whole lines, and keeps the beginning of a line while its
buffer has room for it. -/
def put (s : Sink) (bytes : List UInt8) : Except HostError Sink :=
  match s with
  | .roomy taken => .ok (.roomy (bytes.reverse ++ taken))
  | .full line =>
    if bytes = [] then .ok s
    else if Line.newline ∈ bytes then .error .noSpace
    else if bytes.length + line.length ≤ lineCapacity ∧ bytes.length < lineCapacity then
      .ok (.full (line ++ bytes))
    else .error .noSpace

/-- Whether everything handed over can be brought to the device. -/
def sync (s : Sink) : Except HostError Unit :=
  match s with
  | .full (_ :: _) => .error .noSpace
  | _ => .ok ()

end Sink

/-- A sink and its writer's bytes, absent while there is no writer. -/
structure Outlet where
  sink : Sink
  pending : Option (List UInt8) := none
  deriving Repr, DecidableEq

namespace Outlet

/-- The bytes that the writer holds back. -/
def held (o : Outlet) : List UInt8 :=
  o.pending.getD []

/-- All bytes handed over, in the sink or still held back. -/
def accepted (o : Outlet) : List UInt8 :=
  o.sink.received ++ o.held

/-- Brings the held bytes to the sink; they stay where the sink refuses them. -/
def spill (o : Outlet) : Except HostError Unit × Outlet :=
  match o.sink.put o.held with
  | .ok sink => (.ok (), ⟨sink, some []⟩)
  | .error cause => (.error cause, ⟨o.sink, some o.held⟩)

/-- A sink with room takes all that is held back. -/
theorem spill_roomy {o : Outlet} {taken : List UInt8} (h : o.sink = .roomy taken) :
    o.spill = (.ok (), ⟨.roomy (o.held.reverse ++ taken), some []⟩) := by
  simp [spill, h, Sink.put]

/-- Puts bytes into a writer that has room, or past it if they would fill it alone. -/
def fill (o : Outlet) (bytes : List UInt8) : Except HostError Unit × Outlet :=
  if capacity ≤ bytes.length then
    match o.sink.put bytes with
    | .ok sink => (.ok (), ⟨sink, some o.held⟩)
    | .error cause => (.error cause, ⟨o.sink, some o.held⟩)
  else (.ok (), ⟨o.sink, some (o.held ++ bytes)⟩)

/-- Filling a writer whose sink has room takes all the bytes; bytes that go past it must find it empty. -/
theorem fill_roomy {o : Outlet} {taken bytes : List UInt8} (h : o.sink = .roomy taken)
    (hfit : bytes.length < capacity ∨ o.held = []) :
    (o.fill bytes).1 = .ok () ∧ (∃ r, (o.fill bytes).2.sink = .roomy r) ∧
      (o.fill bytes).2.accepted = o.accepted ++ bytes := by
  by_cases hc : capacity ≤ bytes.length
  · have he : o.held = [] := hfit.resolve_left (by omega)
    simp only [held] at he
    simp [fill, hc, h, he, Sink.put, accepted, held, Sink.received]
  · simp [fill, hc, h, accepted, held, Sink.received]

/-- Hands bytes to the writer, which spills what it holds first if they do not fit beside it. -/
def write (o : Outlet) (bytes : List UInt8) : Except HostError Unit × Outlet :=
  if o.held.length + bytes.length < capacity then (.ok (), ⟨o.sink, some (o.held ++ bytes)⟩)
  else if capacity < o.held.length + bytes.length then
    match o.spill with
    | (.error cause, o) => (.error cause, o)
    | (.ok (), o) => o.fill bytes
  else o.fill bytes

/-- A writer whose sink has room takes all bytes, in order and behind what was there. -/
theorem write_roomy {o : Outlet} {taken : List UInt8} (bytes : List UInt8)
    (h : o.sink = .roomy taken) :
    (o.write bytes).1 = .ok () ∧ (∃ r, (o.write bytes).2.sink = .roomy r) ∧
      (o.write bytes).2.accepted = o.accepted ++ bytes := by
  unfold write
  split
  · exact ⟨rfl, ⟨taken, h⟩, by simp [accepted, held]⟩
  · split
    · rw [spill_roomy h]
      have hf := @fill_roomy ⟨.roomy (o.held.reverse ++ taken), some []⟩ _ bytes rfl (.inr rfl)
      refine ⟨hf.1, hf.2.1, hf.2.2.trans ?_⟩
      simp [accepted, held, h, Sink.received]
    · refine fill_roomy h ?_
      by_cases hb : bytes.length < capacity
      · exact .inl hb
      · exact .inr (List.eq_nil_of_length_eq_zero (by omega))

/-- Spills what is held and asks the sink to bring it to the device. -/
def flush (o : Outlet) : Except HostError Unit × Outlet :=
  match o.spill with
  | (.error cause, o) => (.error cause, o)
  | (.ok (), o) => (o.sink.sync, o)

/-- Flushing into a sink with room brings everything there. -/
theorem flush_roomy {o : Outlet} {taken : List UInt8} (h : o.sink = .roomy taken) :
    o.flush = (.ok (), ⟨.roomy (o.held.reverse ++ taken), some []⟩) := by
  simp [flush, spill_roomy h, Sink.sync]

/-- Writes and flushes. -/
def writeThrough (o : Outlet) (bytes : List UInt8) : Except HostError Unit × Outlet :=
  match o.write bytes with
  | (.error cause, o) => (.error cause, o)
  | (.ok (), o) => o.flush

/-- A write that is flushed brings everything to a sink with room. -/
theorem writeThrough_roomy {o : Outlet} {taken : List UInt8} (bytes : List UInt8)
    (h : o.sink = .roomy taken) :
    o.writeThrough bytes = (.ok (), ⟨.roomy (o.accepted ++ bytes).reverse, some []⟩) := by
  obtain ⟨hok, ⟨r, hr⟩, hacc⟩ := write_roomy bytes h
  have hw : o.write bytes = (.ok (), (o.write bytes).2) := Prod.ext hok rfl
  rw [writeThrough, hw]
  simp only [flush_roomy hr]
  rw [← hacc, accepted, hr, Sink.received]
  simp

/-- Flushes and drops the writer, if there is one. -/
def reset (o : Outlet) : Except HostError Unit × Outlet :=
  match o.pending with
  | none => (.ok (), o)
  | some _ =>
    let (outcome, o) := o.flush
    (outcome, ⟨o.sink, none⟩)

end Outlet

end Hostcall.Console
