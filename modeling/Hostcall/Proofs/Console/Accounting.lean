import Hostcall.Console.Channels
import Mathlib.Tactic.Lemma

/-!
# Output is accounted for

The account of an outlet is what its sink has received, followed by what its writer holds back. Where the
sink has room, every operation on the channels adds to the account exactly the bytes that it hands to that
channel (`Took.apply`, `Took.applyAll`), and nothing is held back after a write that is flushed or after a
reset (`Took.writeThrough`, `Took.reset`).
-/

namespace Hostcall.Console

namespace Outlet

/-- The sink has room, and all bytes handed over so far are `given`, in order. -/
structure Took (o : Outlet) (given : List UInt8) : Prop where
  room : ∃ taken, o.sink = .roomy taken
  accepted : o.accepted = given

/-- The sink has room, has received `given`, and nothing is held back. -/
structure Settled (o : Outlet) (given : List UInt8) : Prop where
  room : ∃ taken, o.sink = .roomy taken
  held : o.held = []
  received : o.sink.received = given

variable {o : Outlet} {given : List UInt8}

/-- An outlet that holds nothing back has all it took in its sink. -/
lemma Took.settled (h : o.Took given) (hheld : o.held = []) : o.Settled given where
  room := h.room
  held := hheld
  received := by simpa [Outlet.accepted, hheld] using h.accepted

/-- What is in the sink was taken. -/
lemma Settled.took (h : o.Settled given) : o.Took given where
  room := h.room
  accepted := by simp [Outlet.accepted, h.held, h.received]

/-- A writer takes all bytes that it is handed, however many they are and whether or not they fit. -/
lemma Took.write (h : o.Took given) (bytes : List UInt8) :
    (o.write bytes).1 = .ok () ∧ (o.write bytes).2.Took (given ++ bytes) := by
  obtain ⟨taken, hsink⟩ := h.room
  obtain ⟨hok, hroom, haccepted⟩ := write_roomy bytes hsink
  exact ⟨hok, hroom, by rw [haccepted, h.accepted]⟩

/-- A write that is flushed brings everything to the sink, what was held back before it first. -/
lemma Took.writeThrough (h : o.Took given) (bytes : List UInt8) :
    (o.writeThrough bytes).1 = .ok () ∧ (o.writeThrough bytes).2.Settled (given ++ bytes) := by
  obtain ⟨taken, hsink⟩ := h.room
  rw [writeThrough_roomy bytes hsink, h.accepted]
  exact ⟨rfl, ⟨_, rfl⟩, rfl, by simp [Sink.received]⟩

/-- A reset brings to the sink whatever the writer held back. -/
lemma Took.reset (h : o.Took given) : o.reset.1 = .ok () ∧ o.reset.2.Settled given := by
  obtain ⟨taken, hsink⟩ := h.room
  unfold Outlet.reset
  split
  -- Where there is no writer, nothing was held back.
  · next hnone => exact ⟨rfl, h.settled (by simp [held, hnone])⟩
  · rw [flush_roomy hsink]
    refine ⟨rfl, ⟨_, rfl⟩, rfl, ?_⟩
    rw [← h.accepted]
    simp [Outlet.accepted, hsink, Sink.received]

end Outlet

namespace Channels

/-- Something that can be done to the channels. -/
inductive Operation where
  /-- Writes and flushes. -/
  | write (channel : StdChannel) (bytes : List UInt8)
  /-- Hands bytes to a writer and does not flush it. -/
  | hold (channel : StdChannel) (bytes : List UInt8)
  | read (count : Nat)
  | readLine
  | reset
  deriving Repr, DecidableEq

/-- The channels after an operation. -/
def apply (c : Channels) : Operation → Channels
  | .write channel bytes => (c.write channel bytes).2
  | .hold channel bytes => (c.hold channel bytes).2
  | .read count => (c.read count).2
  | .readLine => c.readLine.2
  | .reset => c.reset.2

/-- The channels after several operations in order. -/
def applyAll (c : Channels) (ops : List Operation) : Channels :=
  ops.foldl apply c

/-- The bytes that an operation hands to a channel. -/
def Operation.handed (channel : StdChannel) : Operation → List UInt8
  | .write dest bytes => if dest = channel then bytes else []
  | .hold dest bytes => if dest = channel then bytes else []
  | _ => []

/-- The bytes that several operations hand to a channel, in order. -/
def handed (channel : StdChannel) (ops : List Operation) : List UInt8 :=
  ops.flatMap (·.handed channel)

/-! ## Outlets -/

/-- An outlet that is put in a channel's place is that channel's, and no other's. -/
lemma outlet?_setOutlet {c : Channels} {channel : StdChannel} {o : Outlet}
    (h : c.outlet? channel = some o) (p : Outlet) (other : StdChannel) :
    (c.setOutlet channel p).outlet? other = if channel = other then some p else c.outlet? other := by
  cases channel with
  | input => cases h
  | output => cases other <;> rfl
  | error => cases other <;> rfl

/-- A reset resets every outlet. -/
lemma outlet?_reset (c : Channels) (channel : StdChannel) :
    c.reset.2.outlet? channel = (c.outlet? channel).map fun o => o.reset.2 := by
  cases channel <;> rfl

/-- Reading does not touch the outlets. -/
lemma outlet?_read (c : Channels) (count : Nat) (channel : StdChannel) :
    (c.read count).2.outlet? channel = c.outlet? channel := by
  cases channel <;> rfl

/-- Reading a line does not touch the outlets. -/
lemma outlet?_readLine (c : Channels) (channel : StdChannel) :
    c.readLine.2.outlet? channel = c.outlet? channel := by
  cases channel <;> rfl

/-- What changes the outlet of one channel, if that has one, leaves the others as they are. -/
lemma outlet?_of_change {c d : Channels} {channel other : StdChannel} {o : Outlet} {f : Outlet → Outlet}
    (hnone : c.outlet? channel = none → d = c)
    (hsome : ∀ p, c.outlet? channel = some p → d = c.setOutlet channel (f p))
    (h : c.outlet? other = some o) :
    d.outlet? other = some (if channel = other then f o else o) := by
  cases hchannel : c.outlet? channel with
  | none =>
    have hne : channel ≠ other := by
      rintro rfl
      cases hchannel.symm.trans h
    rw [hnone hchannel, if_neg hne, h]
  | some p =>
    rw [hsome p hchannel, outlet?_setOutlet hchannel]
    by_cases hsame : channel = other
    · subst hsame
      cases hchannel.symm.trans h
      simp
    · simp only [if_neg hsame, h]

/-- A write is flushed by the outlet of its channel. -/
lemma write_eq {c : Channels} {channel : StdChannel} {o : Outlet} (h : c.outlet? channel = some o)
    (bytes : List UInt8) :
    c.write channel bytes = ((o.writeThrough bytes).1, c.setOutlet channel (o.writeThrough bytes).2) := by
  simp only [write, h]

/-- Input is not writable, and an attempt leaves everything as it was. -/
lemma write_input (c : Channels) (bytes : List UInt8) :
    c.write .input bytes = (.error .inputNotWritable, c) := rfl

/-- A write goes to the outlet of its channel and to no other. -/
lemma outlet?_write {c : Channels} {channel other : StdChannel} {o : Outlet}
    (h : c.outlet? other = some o) (bytes : List UInt8) :
    (c.write channel bytes).2.outlet? other =
      some (if channel = other then (o.writeThrough bytes).2 else o) := by
  refine outlet?_of_change (f := fun o => (o.writeThrough bytes).2) ?_ ?_ h
  · intro hnone
    simp only [write, hnone]
  · intro p hp
    rw [write_eq hp]

/-- What is held back is with the outlet of its channel and with no other. -/
lemma outlet?_hold {c : Channels} {channel other : StdChannel} {o : Outlet}
    (h : c.outlet? other = some o) (bytes : List UInt8) :
    (c.hold channel bytes).2.outlet? other =
      some (if channel = other then (o.write bytes).2 else o) := by
  refine outlet?_of_change (f := fun o => (o.write bytes).2) ?_ ?_ h
  · intro hnone
    simp only [hold, hnone]
  · intro p hp
    simp only [hold, hp]

/-! ## Accounts -/

/-- The outlet of a channel took what is said. -/
def Took (c : Channels) (channel : StdChannel) (given : List UInt8) : Prop :=
  ∃ o, c.outlet? channel = some o ∧ o.Took given

variable {c : Channels} {channel : StdChannel} {given : List UInt8}

/-- Every operation adds to a channel's account what it hands to that channel, and nothing else. -/
lemma Took.apply (h : c.Took channel given) (op : Operation) :
    (c.apply op).Took channel (given ++ op.handed channel) := by
  obtain ⟨o, ho, took⟩ := h
  cases op with
  | write dest bytes =>
    refine ⟨_, outlet?_write ho bytes, ?_⟩
    by_cases hdest : dest = channel
    · simpa [hdest, Operation.handed] using (took.writeThrough bytes).2.took
    · simpa [hdest, Operation.handed] using took
  | hold dest bytes =>
    refine ⟨_, outlet?_hold ho bytes, ?_⟩
    by_cases hdest : dest = channel
    · simpa [hdest, Operation.handed] using (took.write bytes).2
    · simpa [hdest, Operation.handed] using took
  | read count =>
    refine ⟨o, (c.outlet?_read count channel).trans ho, ?_⟩
    simpa [Operation.handed] using took
  | readLine =>
    refine ⟨o, (c.outlet?_readLine channel).trans ho, ?_⟩
    simpa [Operation.handed] using took
  | reset =>
    refine ⟨o.reset.2, by simp [Channels.apply, outlet?_reset, ho], ?_⟩
    simpa [Operation.handed] using took.reset.2.took

/-- Several operations add to a channel's account what they hand to it, in their order. -/
lemma Took.applyAll (h : c.Took channel given) (ops : List Operation) :
    (c.applyAll ops).Took channel (given ++ handed channel ops) := by
  induction ops generalizing c given with
  | nil => simpa [Channels.applyAll, handed] using h
  | cons op ops ih =>
    -- What the first operation hands over belongs to the account that the others start from.
    have next := ih (h.apply op)
    simpa [Channels.applyAll, handed, List.append_assoc] using next

/-- Channels in memory have taken nothing yet. -/
lemma took_memory (input : List UInt8) (hchannel : channel ≠ .input) :
    (memory input).Took channel [] := by
  cases channel with
  | input => exact absurd rfl hchannel
  | output => exact ⟨_, rfl, ⟨[], rfl⟩, rfl⟩
  | error => exact ⟨_, rfl, ⟨[], rfl⟩, rfl⟩

end Channels

end Hostcall.Console
