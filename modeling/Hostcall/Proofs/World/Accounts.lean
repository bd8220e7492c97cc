import Hostcall.Proofs.Machine.Confinement
import Hostcall.Proofs.World.Runs

/-!
# Open files are there

In every world that a run comes to, the host's files are numbered as they were made, names lead to files
that are there, and so do all descriptors of all states (`Accounted.run`).
-/

namespace Hostcall

namespace Disk

/-- A new host has no files yet. -/
lemma sound_ofHome (home : Location) : (ofHome home).Sound where
  once := .nil
  numbered := nofun
  named {p id} h := by
    obtain ⟨before, after, hnodes, -⟩ := List.lookup_eq_some_iff.mp h
    have hmem : (p, Node.file id) ∈ (ofHome home).nodes := by simp [hnodes]
    simp [ofHome] at hmem

end Disk

namespace World

open Pane

/-- The disk is sound, and every file that a state has open is there. -/
structure Accounted (w : World) : Prop where
  sound : w.machine.disk.Sound
  files {id : Nat} {s : IoState} {file : FileId} : (id, s) ∈ w.states → file ∈ s.table.files →
    file ∈ w.machine.disk.files

variable {w : World}

/-- At the start of a run nothing is open. -/
lemma Fresh.accounted_of_sound (fresh : w.Fresh) (sound : w.machine.disk.Sound) : w.Accounted where
  sound := sound
  files hs hfile := by
    rw [fresh.table hs, Table.files_initial] at hfile
    cases hfile

/-- At the start of a run nothing is open, and an empty directory is sound. -/
lemma Fresh.accounted {home : Location} (fresh : w.Fresh) (h : w.machine.disk = .ofHome home) :
    w.Accounted :=
  fresh.accounted_of_sound (h ▸ Disk.sound_ofHome home)

/-- Everything that is open lies somewhere. -/
lemma Accounted.within (h : w.Accounted) : w.machine.Within .whole :=
  ⟨h.sound, fun hid => ⟨trivial, h.files (.head _) hid⟩⟩

/-- A call that keeps the state active works on its machine. -/
lemma kept_call {c : Call} (hc : c.keepsState = true) :
    (w.call c).2.active = w.active ∧ (w.call c).2.parked = w.parked := by
  cases c with
  | flushThrough handle force =>
    simp only [call]
    split <;> exact ⟨rfl, rfl⟩
  | swap | parkNew | setSettings => cases hc
  | _ => exact ⟨rfl, rfl⟩

/-- Every call keeps the files that are open. -/
lemma Accounted.call (h : w.Accounted) (c : Call) : (w.call c).2.Accounted := by
  by_cases hc : c.keepsState = true
  · have confined := confined_call h.within hc (c.staysIn_whole _ _) (Region.whole_spans _ _)
    refine ⟨confined.disk.sound h.sound, fun {id s file} hs hfile => ?_⟩
    rw [states, (kept_call hc).1, (kept_call hc).2] at hs
    obtain hs | hs := List.mem_cons.mp hs
    · cases hs
      exact ((h.within.confined confined).files hfile).2
    · exact confined.disk.grows.files (h.files (.tail _ hs) hfile)
  cases c with
  | swap n =>
    have hdisk : (w.swap n).2.machine.disk = w.machine.disk := disk_call (c := .swap n) rfl
    refine ⟨?_, fun hs hfile => ?_⟩ <;> rw [show (w.call (.swap n)).2 = (w.swap n).2 from rfl, hdisk]
    · exact h.sound
    · exact h.files (mem_states_of_swap hs) hfile
  | parkNew input =>
    refine ⟨h.sound, fun hs hfile => ?_⟩
    obtain hs | hs := List.mem_cons.mp hs
    · cases hs
      exact h.files (.head _) hfile
    · obtain hs | hs := List.mem_cons.mp hs
      · cases hs
        rw [show (IoState.memory input).table = .initial from rfl, Table.files_initial] at hfile
        cases hfile
      · exact h.files (.tail _ hs) hfile
  | setSettings settings => exact ⟨h.sound, h.files⟩
  | _ => exact absurd rfl hc

/-- Whatever a call does to the host's files, it is one of the changes that are listed. -/
lemma change_disk_call (h : w.Accounted) (c : Call) :
    w.machine.disk.Change .whole (w.call c).2.machine.disk := by
  by_cases hdisk : c.usesDisk = true
  · have hc : c.keepsState = true := by cases c <;> first | rfl | cases hdisk
    exact (confined_call h.within hc (c.staysIn_whole _ _) (Region.whole_spans _ _)).disk
  · rw [disk_call (by simpa using hdisk)]
    exact .same

/-- Every run keeps the files that are open. -/
lemma Accounted.run (h : w.Accounted) (calls : List (Time × Call)) : (w.run calls).2.Accounted :=
  run_keeps (fun _ h => ⟨h.sound, h.files⟩) (fun c h => h.call c) h calls

end World

end Hostcall
