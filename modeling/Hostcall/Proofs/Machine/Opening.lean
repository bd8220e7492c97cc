import Hostcall.Proofs.Host.Handles
import Hostcall.Proofs.Machine.Tables

/-!
# Opening is all or nothing

A slot is reserved before the host is asked for the file. `Refusal` lists why a file is not opened; in
each of these cases the machine is what it was, down to the files of the host, apart from the text of the
last error and the log. Otherwise the lowest free slot is filled and nothing else of the table changes
(`openFile_atomic`).
-/

namespace Hostcall.Machine

/-- Why a file is not opened. The name is looked at before the flags, the flags before the room, and
the host is asked last. -/
inductive Refusal (m : Machine) (name : String) (flags : OpenFlags) : Fault → Prop where
  | inUse :
    m.state.table.nameInUse name = true →
    Refusal m name flags (.alreadyOpen name)
  | mode :
    m.state.table.nameInUse name = false →
    flags.mode? = none →
    Refusal m name flags (.unsupportedMode name flags)
  | full {mode} :
    m.state.table.nameInUse name = false →
    flags.mode? = some mode →
    m.state.table.lowestFree? = none →
    Refusal m name flags (.tableFull name tableSize)
  | host {mode i cause} :
    m.state.table.nameInUse name = false →
    flags.mode? = some mode →
    m.state.table.lowestFree? = some i →
    m.disk.openPath (m.settings.resolve name) flags.access = .error cause →
    Refusal m name flags (.notFound name flags.direction cause)

/-- Entries that are logged one after the other are logged together. -/
lemma log_log (m : Machine) (es fs : List LogEntry) : (m.log es).log fs = m.log (es ++ fs) := by
  simp only [log, List.append_assoc]

/-- A reservation that fails does so for one of the reasons that have nothing to do with the host. -/
lemma Refusal.of_reserve {m : Machine} {name : String} {flags : OpenFlags} {fault : Fault}
    (h : m.state.table.reserve name flags = .error fault) : m.Refusal name flags fault := by
  simp only [Table.reserve] at h
  split at h
  · next hname =>
    cases h
    exact .inUse hname
  · next hname =>
    have hname : m.state.table.nameInUse name = false := by simpa using hname
    split at h
    · next hmode =>
      cases h
      exact .mode hname hmode
    · next mode hmode =>
      split at h
      · next hfull =>
        cases h
        exact .full hname hmode hfull
      · cases h

/-- An attempt that fails gives back whatever it had reserved. -/
lemma tryOpen_error {m n : Machine} {name : String} {flags : OpenFlags} {fault : Fault}
    (h : m.tryOpen name flags = (.error fault, n)) :
    m.Refusal name flags fault ∧ ∃ es, n = m.log es := by
  simp only [tryOpen] at h
  split at h
  · next hreserve =>
    cases h
    exact ⟨.of_reserve hreserve, _, rfl⟩
  · next fd t hreserve =>
    obtain ⟨mode, i, hname, hmode, hfree, -, -⟩ := Table.reserve_eq_ok_iff.mp hreserve
    split at h
    · cases h
    · next cause hopen =>
      cases h
      refine ⟨.host hname hmode hfree hopen, ?_⟩
      -- The slot was reserved just before, so that releasing it restores the table.
      rw [Table.close_reserve hreserve, log_log]
      exact ⟨_, rfl⟩

/-- An attempt that has a reason to fail fails for it. -/
lemma tryOpen_of_refusal {m : Machine} {name : String} {flags : OpenFlags} {fault : Fault}
    (h : m.Refusal name flags fault) : (m.tryOpen name flags).1 = .error fault := by
  cases h with
  | inUse hname => simp [tryOpen, Table.reserve, hname]
  | mode hname hmode => simp [tryOpen, Table.reserve, hname, hmode]
  | full hname hmode hfull => simp [tryOpen, Table.reserve, hname, hmode, hfull]
  | host hname hmode hfree hopen => simp [tryOpen, Table.reserve, hname, hmode, hfree, hopen]

/-- An attempt that succeeds binds the file in the lowest free slot. -/
lemma tryOpen_ok {m n : Machine} {name : String} {flags : OpenFlags} {fd : Int}
    (h : m.tryOpen name flags = (.ok fd, n)) :
    ∃ i mode disk f es,
      m.state.table.lowestFree? = some i ∧ flags.mode? = some mode ∧
      m.disk.openPath (m.settings.resolve name) flags.access = .ok (disk, f) ∧
      fd = Table.fdOf i ∧
      n = ({ m with disk }.setTable
        (m.state.table.setSlot i (some ⟨name, mode, some (.file f)⟩))).log es := by
  simp only [tryOpen] at h
  split at h
  · cases h
  · next fd t hreserve =>
    obtain ⟨mode, i, -, hmode, hfree, rfl, rfl⟩ := Table.reserve_eq_ok_iff.mp hreserve
    split at h
    · next disk f hopen =>
      cases h
      rw [Table.bind_fdOf (Table.slotAt_setSlot_self _ i _), Table.setSlot_setSlot]
      exact ⟨i, mode, disk, f, _, hfree, hmode, hopen, rfl, rfl⟩
    · cases h

/-- No descriptor is `-1`. -/
lemma fdOf_ne (i : Fin tableSize) : Table.fdOf i ≠ -1 := by
  simp only [Table.fdOf]
  omega

/-- A call that gives no descriptor leaves the files of the host and the I/O state alone. -/
lemma openFile_refused {m n : Machine} {name : String} {flags : OpenFlags}
    (h : m.openFile name flags = (-1, n)) : n.disk = m.disk ∧ n.state = m.state := by
  simp only [openFile] at h
  split at h
  · next fd l hopen =>
    obtain ⟨i, mode, disk, f, es, -, -, -, rfl, rfl⟩ := tryOpen_ok hopen
    exact absurd (congrArg Prod.fst h) (fdOf_ne i)
  · next fault l hopen =>
    obtain ⟨-, es, rfl⟩ := tryOpen_error hopen
    cases h
    exact ⟨rfl, rfl⟩

/-- A call that gives a descriptor has filled the lowest free slot. -/
lemma openFile_opened {m n : Machine} {name : String} {flags : OpenFlags} {fd : Int}
    (h : m.openFile name flags = (fd, n)) (hfd : fd ≠ -1) :
    ∃ i mode disk f,
      m.state.table.lowestFree? = some i ∧ flags.mode? = some mode ∧
      m.disk.openPath (m.settings.resolve name) flags.access = .ok (disk, f) ∧
      fd = Table.fdOf i ∧ n.disk = disk ∧
      n.state.table = m.state.table.setSlot i (some ⟨name, mode, some (.file f)⟩) := by
  simp only [openFile] at h
  split at h
  · next hopen =>
    obtain ⟨i, mode, disk, f, es, hfree, hmode, hdisk, rfl, rfl⟩ := tryOpen_ok hopen
    cases h
    exact ⟨i, mode, disk, f, hfree, hmode, hdisk, rfl, rfl, rfl⟩
  · cases h
    exact absurd rfl hfd

/-- A file is opened or nothing happens. Where the call gives `-1`, the machine is what it was, apart from
the text of the last error and the log. Otherwise the call gives the lowest free descriptor; its slot
holds the name, the mode that the flags name and the host's file, opened for that mode, and no other slot
has changed. -/
theorem openFile_atomic (m : Machine) (name : String) (flags : OpenFlags) :
    (∃ fault es, m.Refusal name flags fault ∧
      m.openFile name flags = (-1, { m with lastError := fault.message }.log es)) ∨
    ∃ i mode disk f es,
      (firstUserFd ≤ i.val ∧ m.state.table.slotAt i = none ∧
        ∀ j : Fin tableSize, firstUserFd ≤ j.val → j < i → m.state.table.slotAt j ≠ none) ∧
      flags = mode.flags ∧ f.access = mode.access ∧
      m.disk.openPath (m.settings.resolve name) mode.access = .ok (disk, f) ∧
      m.openFile name flags =
        (Table.fdOf i,
          { m with
            disk
            state := { m.state with
              table := m.state.table.setSlot i (some ⟨name, mode, some (.file f)⟩) }
            lastError := noError }.log es) := by
  simp only [openFile]
  split
  · next fd n hopen =>
    obtain ⟨i, mode, disk, f, es, hfree, hmode, hdisk, rfl, rfl⟩ := tryOpen_ok hopen
    rw [OpenFlags.access_of_mode? hmode] at hdisk
    refine .inr ⟨i, mode, disk, f, es ++ ?_, Table.lowestFree?_eq_some_iff.mp hfree,
      OpenFlags.mode?_eq_some_iff.mp hmode, Disk.access_of_openPath hdisk, hdisk, ?_⟩
    rotate_left
    · rw [← log_log]
      rfl
  · next fault n hopen =>
    obtain ⟨hrefused, es, rfl⟩ := tryOpen_error hopen
    refine .inl ⟨fault, es ++ (?_ ++ ?_), hrefused, ?_⟩
    rotate_left 2
    · rw [← log_log, ← log_log]
      rfl

end Hostcall.Machine
