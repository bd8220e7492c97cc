import Hostcall.Host.OpenFile
import Mathlib.Tactic.Lemma

/-!
# Access of open files

An open file keeps what it leads to and what it was opened for, whatever is done with it
(`read_keeps`, `write_keeps`, `moveTo_keeps`). Opened for reading it can be read (`read_of_access`);
opened for anything else, only a device without room refuses a write (`write_error`).
-/

namespace Hostcall

/-- Both files lead to the same place and were opened for the same. -/
def OpenFile.SameHandle (f g : OpenFile) : Prop :=
  g.backing = f.backing ∧ g.access = f.access

/-- The access that single bits ask for is that of the mode which the whole word names. -/
lemma OpenFlags.access_of_mode? {flags : OpenFlags} {mode : Mode} (h : flags.mode? = some mode) :
    flags.access = mode.access := by
  obtain rfl := mode?_eq_some_iff.mp h
  exact mode.access_flags

/-- Moving a file keeps its handle. -/
lemma OpenFile.moveTo_keeps (f : OpenFile) (position : Nat) : f.SameHandle (f.moveTo position) := by
  unfold moveTo
  split <;> exact ⟨rfl, rfl⟩

namespace Disk

/-- A path is opened for what was asked for. -/
lemma access_of_openPath {d e : Disk} {path : String} {access : Access} {f : OpenFile}
    (h : d.openPath path access = .ok (e, f)) : f.access = access := by
  cases access <;> simp only [openPath] at h <;> repeat' split at h
  all_goals cases h
  all_goals rfl

/-- Reading keeps the handle. -/
lemma read_keeps {d : Disk} {f g : OpenFile} {count : Nat} {bytes : List UInt8}
    (h : d.read f count = .ok (bytes, g)) : f.SameHandle g := by
  unfold read at h
  repeat' split at h
  all_goals cases h
  all_goals exact ⟨rfl, rfl⟩

/-- Writing keeps the handle. -/
lemma write_keeps {d e : Disk} {f g : OpenFile} {bytes : List UInt8}
    (h : d.write f bytes = .ok (e, g)) : f.SameHandle g := by
  unfold write at h
  repeat' split at h
  all_goals cases h
  all_goals exact ⟨rfl, rfl⟩

/-- A file that was opened for reading can be read. -/
lemma read_of_access {f : OpenFile} (h : f.access = .read) (d : Disk) (count : Nat) :
    ∃ bytes g, d.read f count = .ok (bytes, g) := by
  unfold read
  simp only [h, ne_eq, not_true_eq_false, if_false]
  split <;> exact ⟨_, _, rfl⟩

/-- Where a file was not opened for reading, a write fails only for want of room. -/
lemma write_error {d : Disk} {f : OpenFile} {bytes : List UInt8} {cause : HostError}
    (hf : f.access ≠ .read) (h : d.write f bytes = .error cause) : cause = .noSpace := by
  unfold write at h
  split at h
  · cases h
  · split at h <;> cases h
    rfl

end Disk

end Hostcall
