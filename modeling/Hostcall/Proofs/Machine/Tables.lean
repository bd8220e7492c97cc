import Hostcall.Proofs.Machine.Frame
import Hostcall.Proofs.Table.Touch

/-!
# Calls and the descriptor table

Of the calls that touch the descriptor table, opening and resetting do to it one of the things that
`Table.Change` lists (`openFile_change`, `resetFiles_change`); reading, writing, seeking and releasing touch
one descriptor (`readFrom_touch` to `closeFile_touch`).
-/

namespace Hostcall.Machine

open Pane

/-- Trying to open a file adds one bound slot or leaves the table as it was. -/
lemma tryOpen_change (m : Machine) (name : String) (flags : OpenFlags) :
    m.state.table.Change (m.tryOpen name flags).2.state.table := by
  simp only [tryOpen]
  split
  · exact .same
  · next fd t hreserve =>
    obtain ⟨mode, i, hname, hmode, hfree, rfl, rfl⟩ := Table.reserve_eq_ok_iff.mp hreserve
    -- The slot is without a stream only until the host has answered.
    split
    · next disk f hopen =>
      simp only [setTable_table, Table.bind_fdOf (Table.slotAt_setSlot_self _ i _),
        Table.setSlot_setSlot]
      exact .opened hname hmode hfree (Disk.access_of_openPath hopen)
    · simp only [setTable_table, Table.close_reserve hreserve]
      exact .same

/-- Opening a file adds one bound slot or leaves the table as it was. -/
lemma openFile_change (m : Machine) (name : String) (flags : OpenFlags) :
    m.state.table.Change (m.openFile name flags).2.state.table := by
  have ch := m.tryOpen_change name flags
  simp only [openFile]
  split <;> rename_i h <;> rw [h] at ch <;> exact ch

/-- A read through a stream moves at most the file behind it. -/
lemma readStream_touch {m n : Machine} {fd : Int} {count : Nat}
    {outcome : Except HostError (List UInt8)} (h : m.readStream fd count = some (outcome, n)) :
    m.state.table.Touch fd n.state.table := by
  simp only [readStream] at h
  split at h
  · cases h
  · cases h; exact .same
  · cases h; exact .same
  · next f hf =>
    split at h
    · cases h; exact .same
    · next bytes g hr =>
      cases h
      exact .moved hf (Disk.read_keeps hr)

/-- A write through a stream moves at most the file behind it. -/
lemma writeStream_touch {m n : Machine} {fd : Int} {bytes : List UInt8}
    {outcome : Except HostError Unit} (h : m.writeStream fd bytes = some (outcome, n)) :
    m.state.table.Touch fd n.state.table := by
  simp only [writeStream] at h
  split at h
  · cases h
  · cases h; exact .same
  · next f hf =>
    split at h
    · cases h; exact .same
    · next disk g hw =>
      cases h
      exact .moved hf (Disk.write_keeps hw)

/-- Reading touches its descriptor. -/
lemma readFrom_touch (m : Machine) (fd : Int) (buffer : List UInt8) :
    m.state.table.Touch fd (m.readFrom fd buffer).2.state.table := by
  simp only [readFrom]
  split
  · exact .same
  · split
    · have hs := (m.touches_obtainBytes buffer.length).table rfl
      split <;> rename_i h <;> rw [h] at hs
      · exact hs ▸ .same
      · rw [(touches_endRead _ _ _ _).table rfl, hs]
        exact .same
    · split
      · exact .same
      · next h =>
        rw [(touches_endRead _ _ _ _).table rfl]
        exact readStream_touch h

/-- Writing touches its descriptor. -/
lemma writeTo_touch (m : Machine) (fd : Int) (bytes : List UInt8) :
    m.state.table.Touch fd (m.writeTo fd bytes).2.state.table := by
  have hstandard (channel : StdChannel) :
      let result := m.writeStandard channel bytes
      m.state.table.Touch fd (result.2.endWrite fd bytes result.1).2.state.table := by
    intro result
    rw [(touches_endWrite _ _ _ _).table rfl, (m.touches_writeStandard channel bytes).table rfl]
    exact .same
  simp only [writeTo]
  split
  · exact .same
  · split
    · exact hstandard .output
    · split
      · exact hstandard .error
      · split
        · exact .same
        · next h =>
          rw [(touches_endWrite _ _ _ _).table rfl]
          exact writeStream_touch h

/-- A seek that succeeds moves the file behind the descriptor. -/
lemma trySeek_touch {m n : Machine} {fd offset whence position : Int}
    (h : m.trySeek fd offset whence = .ok (position, n)) :
    m.state.table.Touch fd n.state.table := by
  simp only [trySeek] at h
  split at h
  · cases h
  · split at h
    · cases h
    · split at h
      · cases h
      · cases h
      · next f hf =>
        split at h <;> split at h <;> cases h
        all_goals exact .moved hf (f.moveTo_keeps _)

/-- Seeking touches its descriptor. -/
lemma seek_touch (m : Machine) (fd offset whence : Int) :
    m.state.table.Touch fd (m.seek fd offset whence).2.state.table := by
  simp only [seek]
  split <;> rename_i h
  · have touch := trySeek_touch h
    exact touch
  · exact .same

/-- Releasing touches its descriptor. -/
lemma closeFile_touch (m : Machine) (fd : Int) :
    m.state.table.Touch fd (m.closeFile fd).state.table :=
  .closed

/-- After a reset nothing is open but the standard channels. -/
@[simp] lemma resetFiles_table (m : Machine) : m.resetFiles.state.table = .initial := by
  rw [← Table.reset_eq_initial m.state.table]
  exact (touches_endSession _).table rfl

/-- A reset is one of the changes. -/
lemma resetFiles_change (m : Machine) : m.state.table.Change m.resetFiles.state.table := by
  rw [resetFiles_table, ← Table.reset_eq_initial m.state.table]
  exact .reset

end Hostcall.Machine
