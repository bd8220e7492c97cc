import Hostcall.Proofs.Machine.Failures
import Hostcall.Proofs.World.Streams

/-!
# Repositioning

A seek that is refused leaves nothing but the message of what stood in its way (`Refuses`, `seek_refused`); one
that succeeds moves a single descriptor (`seek_file`). The mode of the descriptor, the word for the base and
the target settle which of them it is (`seek_exact`).
-/

namespace Hostcall

open Pane

/-- The number of a reference point names it. -/
@[simp] lemma Whence.ofGuest?_toGuest (base : Whence) : ofGuest? base.toGuest = some base := by
  cases base <;> rfl

/-- There are three such numbers. -/
lemma Whence.exists_toGuest {register : Int} (h : register ∈ [0, 1, 2]) :
    ∃ base : Whence, register = base.toGuest := by
  simp only [List.mem_cons, List.not_mem_nil, or_false] at h
  obtain rfl | rfl | rfl := h
  · exact ⟨.start, rfl⟩
  · exact ⟨.current, rfl⟩
  · exact ⟨.finish, rfl⟩

/-- Any other number names none. -/
lemma Whence.ofGuest?_eq_none {register : Int} (h : register ∉ [0, 1, 2]) : ofGuest? register = none := by
  simp only [List.mem_cons, List.not_mem_nil, or_false, not_or] at h
  simp [ofGuest?, h]

/-- What may be read is what is open for reading. -/
lemma Table.require_read_iff {t : Table} {fd : Int} :
    t.require fd .read = .ok () ↔ t.mode? fd = some .read := by
  rw [require_eq_ok_iff, isOpenFor, mode?, Option.any_eq_true]
  simp only [Option.map_eq_some_iff]
  refine exists_congr fun s => and_congr_right fun _ => ?_
  cases s.mode <;> simp [Mode.allows]

namespace World

variable {w : World} {fd offset whence : Int} {i : Fin tableSize} {s : Slot} {f : OpenFile}

/-- A call gives `-1`, and all that is left of it is the message of a fault, apart from what was logged. -/
def Refuses (w : World) (c : Call) (fault : Fault) : Prop :=
  ∃ entries, w.call c = (.code (-1), { w with
    machine := { w.machine with lastError := fault.message, journal := w.machine.journal ++ entries } })

/-- A seek that meets a fault is refused. -/
lemma seek_refused {fault : Fault} (h : w.machine.trySeek fd offset whence = .error fault) :
    w.Refuses (.seek fd offset whence) fault := by
  simp only [Refuses, call, Machine.seek, h, Machine.fail, Machine.trace, Machine.log, List.append_assoc]
  exact ⟨_, rfl⟩

/-- A seek in a regular file to a position that can be returned moves its descriptor there. -/
lemma seek_file {base : Whence} {id : FileId} (hs : w.machine.state.table.slotAt i = some s)
    (hmode : s.mode = .read) (hstream : s.stream = some (.file f)) (hregular : f.backing = .regular id)
    (hlow : 0 ≤ f.base w.machine.disk base + offset)
    (hhigh : f.base w.machine.disk base + offset ≤ Machine.greatestPosition) :
    let target := f.base w.machine.disk base + offset
    ∃ entries, w.call (.seek (Table.fdOf i) offset base.toGuest) =
      (.code target, { w with
        machine := { w.machine with
          state := { w.machine.state with
            table := w.machine.state.table.setSlot i
              (some { s with stream := some (.file { f with position := target.toNat }) }) }
          journal := w.machine.journal ++ entries } }) := by
  intro target
  have hreq : w.machine.state.table.require (Table.fdOf i) .read = .ok () :=
    Table.require_read_iff.mpr (by simp [Table.mode?, hs, hmode])
  have htry := Machine.trySeek_file offset hreq base.ofGuest?_toGuest
    (by simp [Table.stream?, hs, hstream] : w.machine.state.table.stream? (Table.fdOf i) = some (.file f))
  simp only [if_pos (And.intro hlow hhigh), Table.bind_fdOf hs] at htry
  simp only [call, Machine.seek, htry, Machine.trace, Machine.log, Machine.setTable, OpenFile.moveTo,
    hregular]
  exact ⟨_, rfl⟩

/-- A seek is exact, and it either moves its descriptor or does nothing.

After any run, in the order of precedence: a descriptor that is not open for reading, a base that is none of
the three and the standard input are refused. Any other descriptor is that of a file, and the target is the
sum of the base and the offset as integers. A target that is negative or does not fit the register is refused
by its value; with any other the seek gives the target, and the descriptor stands there. -/
theorem seek_exact (fresh : w.Fresh) (calls : List (Time × Call)) (now : Time) (fd offset whence : Int) :
    let v := (w.run calls).2.atTime now
    let table := v.machine.state.table
    let seek : Call := .seek fd offset whence
    (table.mode? fd ≠ some .read → v.Refuses seek (.notOpen fd .read)) ∧
    (table.mode? fd = some .read →
      (whence ∉ [0, 1, 2] → v.Refuses seek (.seekBase fd whence)) ∧
      (whence ∈ [0, 1, 2] → fd = 0 → v.Refuses seek (.notSeekable fd)) ∧
      (whence ∈ [0, 1, 2] → fd ≠ 0 →
        ∃ i s f, fd = Table.fdOf i ∧ firstUserFd ≤ i.val ∧ table.slotAt i = some s ∧
          s.stream = some (.file f) ∧
          let base : Int :=
            if whence = 0 then 0 else if whence = 1 then f.position else v.machine.disk.size f
          let target := base + offset
          (¬(0 ≤ target ∧ target ≤ 2147483647) → v.Refuses seek (.seekTarget fd target)) ∧
          ∀ id, f.backing = .regular id → 0 ≤ target → target ≤ 2147483647 →
            ∃ entries, v.call seek =
              (.code target, { v with
                machine := { v.machine with
                  state := { v.machine.state with
                    table := table.setSlot i
                      (some { s with stream := some (.file { f with position := target.toNat }) }) }
                  journal := v.machine.journal ++ entries } }))) := by
  intro v table seek
  have b : v.machine.state.table.Bound := ((fresh.bound.run calls).atTime now).active
  refine ⟨fun hmode => ?_, fun hmode => ?_⟩
  · have hreq : v.machine.state.table.require fd .read = .error (.notOpen fd .read) := by
      cases h : v.machine.state.table.require fd .read with
      | ok => exact absurd (Table.require_read_iff.mp h) hmode
      | error fault => rw [(Table.require_eq_error_iff.mp h).2]
    exact seek_refused (by simp only [Machine.trySeek, hreq])
  have hreq : v.machine.state.table.require fd .read = .ok () := Table.require_read_iff.mpr hmode
  refine ⟨fun hwhence => ?_, fun hwhence hfd => ?_, fun hwhence hfd => ?_⟩
  · exact seek_refused (by simp only [Machine.trySeek, hreq, Whence.ofGuest?_eq_none hwhence])
  · obtain ⟨base, rfl⟩ := Whence.exists_toGuest hwhence
    have hstream : v.machine.state.table.stream? fd = some (.standard .input) :=
      hfd ▸ b.stream?_standard .input
    exact seek_refused (by simp only [Machine.trySeek, hreq, Whence.ofGuest?_toGuest, hstream])
  · obtain ⟨base, rfl⟩ := Whence.exists_toGuest hwhence
    obtain ⟨hinput, -⟩ | ⟨i, s, f, rfl, hs, hf, hstream, -⟩ := b.stream?_of_read hreq
    · exact absurd hinput hfd
    have huser : firstUserFd ≤ i.val := b.le_of_file hs hf
    have hread : s.mode = .read := by simpa [Table.mode?, table, hs] using hmode
    refine ⟨i, s, f, rfl, huser, hs, hf, ?_⟩
    -- The base as it is written out is that of the file.
    have hbase : (if base.toGuest = 0 then 0 else if base.toGuest = 1 then (f.position : Int)
        else v.machine.disk.size f) = f.base v.machine.disk base := by
      cases base <;> rfl
    simp only [hbase]
    refine ⟨fun hrange => ?_, fun id hregular hlow hhigh => ?_⟩
    · have htry := Machine.trySeek_file offset hreq base.ofGuest?_toGuest hstream
      exact seek_refused (htry.trans (if_neg hrange))
    · exact seek_file hs hread hf hregular hlow hhigh

/-- In a file of three bytes, one byte before the end is the position two, and there is nothing four bytes
before the end. -/
theorem seek_exact_finish :
    let calls : List (Time × Call) :=
      [(0, .openFile "f" .writeOnly), (0, .writeTo 3 [97, 98, 99]), (0, .closeFile 3),
        (0, .openFile "f" .readOnly)]
    let v := (scratch.run calls).2.atTime 0
    scratch.Fresh ∧ (v.call (.seek 3 (-1) 2)).1 = .code 2 ∧
      (v.call (.seek 3 (-1) 2)).2.machine.state.table.stream? 3 =
        some (.file ⟨.regular ⟨["scratch", "f"], 0⟩, .read, 2⟩) ∧
      v.Refuses (.seek 3 (-4) 2) (.seekTarget 3 (-1)) ∧ v.Refuses (.seek 0 0 2) (.notSeekable 0) := by
  intro calls v
  have hmode : v.machine.state.table.mode? 3 = some .read := by decide +kernel
  have hslot : v.machine.state.table.slotAt 3 =
      some ⟨"f", .read, some (.file ⟨.regular ⟨["scratch", "f"], 0⟩, .read, 0⟩)⟩ := by decide +kernel
  have hsize : v.machine.disk.size ⟨.regular ⟨["scratch", "f"], 0⟩, .read, 0⟩ = 3 := by decide +kernel
  have hinput : v.machine.state.table.mode? 0 = some .read := by decide +kernel
  obtain ⟨i, s, f, hi, -, hs, hf, -, hmoves⟩ :=
    ((seek_exact fresh_scratch calls 0 3 (-1) 2).2 hmode).2.2 (by decide) (by decide)
  obtain ⟨j, r, g, hj, -, hr, hg, hrefused, -⟩ :=
    ((seek_exact fresh_scratch calls 0 3 (-4) 2).2 hmode).2.2 (by decide) (by decide)
  obtain rfl : i = 3 := Table.fdOf_inj.mp hi.symm
  obtain rfl : j = 3 := Table.fdOf_inj.mp hj.symm
  cases hslot.symm.trans hs
  cases hslot.symm.trans hr
  cases hf
  cases hg
  simp only [v] at hsize
  simp only [hsize] at hmoves hrefused
  obtain ⟨entries, hcall⟩ := hmoves _ rfl (by decide) (by decide)
  refine ⟨fresh_scratch, ?_, ?_, hrefused (by decide), ?_⟩
  · rw [hcall]
    rfl
  · rw [hcall]
    rfl
  · exact ((seek_exact fresh_scratch calls 0 0 0 2).2 hinput).2.1 (by decide) rfl

end World

end Hostcall
