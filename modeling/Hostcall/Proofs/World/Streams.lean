import Hostcall.Proofs.World.Runs

/-!
# Streams agree with the table

Between any two calls of a run all states are bound: the active one and every one that was put aside
(`Bound.run`). A descriptor that passes the capability check therefore has a stream that can do what was
checked (`Machine.StreamsAnswer`), and the faults for a missing or unusable stream never show
(`streams_agree`).
-/

namespace Hostcall

open Pane

/-- Every descriptor that passes the capability check has a stream that can do what was checked. Reads of
the standard input and writes to the outputs do not go through these streams. -/
structure Machine.StreamsAnswer (m : Machine) : Prop where
  read {fd : Int} : m.state.table.require fd .read = .ok () → fd ≠ StdChannel.input.fd →
    ∀ count, ∃ bytes n, m.readStream fd count = some (.ok bytes, n)
  write {fd : Int} : m.state.table.require fd .write = .ok () →
    fd ≠ StdChannel.output.fd → fd ≠ StdChannel.error.fd →
    ∀ bytes, ∃ outcome n, m.writeStream fd bytes = some (outcome, n) ∧
      (outcome = .ok () ∨ outcome = .error .noSpace)
  seek {fd : Int} : m.state.table.require fd .read = .ok () →
    ∀ offset whence, m.trySeek fd offset whence ≠ .error (.notOpen fd .read)

/-- Where the table is bound, the streams answer. -/
lemma Table.Bound.streamsAnswer {m : Machine} (b : m.state.table.Bound) : m.StreamsAnswer where
  read {fd} h hfd count := by
    obtain ⟨rfl, -⟩ | ⟨i, s, f, -, -, -, hstream, ha⟩ := b.stream?_of_read h
    · exact absurd rfl hfd
    · obtain ⟨bytes, g, hr⟩ := Disk.read_of_access ha m.disk count
      exact ⟨bytes, _, by simp only [Machine.readStream, hstream, hr]; rfl⟩
  write {fd} h hout herr bytes := by
    obtain ⟨f, hstream, ha⟩ := b.file_of_write h hout herr
    simp only [Machine.writeStream, hstream]
    split
    · next cause hw => exact ⟨_, _, rfl, .inr (Disk.write_error ha hw ▸ rfl)⟩
    · exact ⟨_, _, rfl, .inl rfl⟩
  seek {fd} h offset whence := by
    simp only [Machine.trySeek, h]
    obtain ⟨-, hstream⟩ | ⟨i, s, f, -, -, -, hstream, -⟩ := b.stream?_of_read h
    · rw [hstream]
      split <;> simp
    · rw [hstream]
      split
      · simp
      · dsimp only
        split <;> split <;> simp

namespace World

/-- All states are bound, the active one and those that were put aside. -/
def Bound (w : World) : Prop :=
  ∀ id s, (id, s) ∈ w.states → s.table.Bound

variable {w : World}

/-- Before its first call a world is bound. -/
lemma Fresh.bound (fresh : w.Fresh) : w.Bound :=
  fun _ _ h => fresh.table h ▸ Table.bound_initial

/-- In a bound world the active state is bound. -/
lemma Bound.active (b : w.Bound) : w.machine.state.table.Bound :=
  b _ _ (.head _)

/-- The clock does not unbind a state. -/
lemma Bound.atTime (b : w.Bound) (now : Time) : (w.atTime now).Bound :=
  b

/-- A call keeps a world bound. -/
lemma Bound.call (b : w.Bound) (c : Call) : (w.call c).2.Bound := by
  intro id s h
  obtain hnew | ⟨r, hr, ch⟩ := derived_call c h
  · exact hnew ▸ Table.bound_initial
  · exact (b id r hr).change ch

/-- A run keeps a world bound. -/
lemma Bound.run (b : w.Bound) (calls : List (Time × Call)) : (w.run calls).2.Bound :=
  run_keeps (I := Bound) (fun now b => b.atTime now) (fun c b => b.call c) b calls

/-- After every run, in the active state and in every one that was put aside, the reserved slots are
bound to their channels and every other allocated slot to a host file that was opened for what the slot's
mode names. So no call meets a descriptor that passes the capability check and has no stream, or one that
cannot do what was checked. -/
theorem streams_agree (fresh : w.Fresh) (calls : List (Time × Call)) :
    (∀ id s, (id, s) ∈ (w.run calls).2.states →
      (∀ c : StdChannel, s.table.slotAt c.index = some c.slot) ∧
      ∀ i slot, firstUserFd ≤ i.val → s.table.slotAt i = some slot →
        ∃ f, slot.stream = some (.file f) ∧ f.access = slot.mode.access) ∧
    (w.run calls).2.machine.StreamsAnswer := by
  have bound : (w.run calls).2.Bound := fresh.bound.run calls
  constructor
  · intro id s h
    have b := bound id s h
    exact ⟨b.standard, fun _ _ => b.user⟩
  · exact bound.active.streamsAnswer

/-- A file is opened to be written, and its state put aside for a new one. -/
theorem streams_agree_aside :
    scratch.Fresh ∧
    (let w := (scratch.run [(0, .openFile "notes" .writeOnly), (0, .parkNew []), (0, .swap 1)]).2
     w.states.map (fun p => (p.1, (p.2.table.slotAt 3).map (·.mode))) =
        [(1, none), (0, some .write)] ∧
      (∀ id s slot, (id, s) ∈ w.states → s.table.slotAt 3 = some slot →
        ∃ f, slot.stream = some (.file f) ∧ f.access = slot.mode.access) ∧
      w.machine.StreamsAnswer) := by
  refine ⟨fresh_scratch, by decide +kernel, ?_, ?_⟩
  · intro id s slot hs
    exact ((streams_agree fresh_scratch _).1 id s hs).2 3 slot (by decide)
  · exact (streams_agree fresh_scratch _).2

end World

end Hostcall
