import Hostcall.Proofs.Host.Handles
import Hostcall.Proofs.Table.Slots
import Mathlib.Tactic.ByContra

/-!
# Bound tables

In a table between two calls every reserved slot is bound to its channel, and every other allocated
slot to a host file that was opened for what the slot's mode names (`Bound`). `Change` lists what one
call can do to a table; each of these keeps a table bound (`Bound.change`). The capability check of a
bound table settles which stream stands behind a descriptor (`Bound.stream?_of_read`,
`Bound.stream?_of_write`).
-/

namespace Hostcall.Table

/-- Every reserved slot is bound to its channel, and every other allocated slot to a host file that was
opened for what the slot's mode names. -/
structure Bound (t : Table) : Prop where
  standard (c : StdChannel) : t.slotAt c.index = some c.slot
  user {i : Fin tableSize} {s : Slot} : firstUserFd ≤ i.val → t.slotAt i = some s →
    ∃ f, s.stream = some (.file f) ∧ f.access = s.mode.access

/-- What one call can do to a table. -/
inductive Change (t : Table) : Table → Prop where
  | same :
    Change t t
  | opened {i name mode f} {flags : OpenFlags} :
    t.nameInUse name = false →
    flags.mode? = some mode →
    t.lowestFree? = some i →
    f.access = flags.access →
    Change t (t.setSlot i (some ⟨name, mode, some (.file f)⟩))
  | moved {i s f g} :
    t.slotAt i = some s →
    s.stream = some (.file f) →
    f.SameHandle g →
    Change t (t.setSlot i (some { s with stream := some (.file g) }))
  | closed {fd} :
    Change t (t.close fd)
  | reset :
    Change t t.reset

/-- A table that is the same has undergone a change of nothing. -/
lemma Change.of_eq {t u : Table} (h : u = t) : Change t u :=
  h ▸ .same

/-- The initial table is bound. -/
lemma bound_initial : initial.Bound where
  standard c := slotAt_setStandard_index _ c
  user hi hs := by
    rw [slotAt_initial_user hi] at hs
    cases hs

/-- A slot that can be handed out may be bound to a file opened for the slot's mode. -/
lemma Bound.setSlot_file {t : Table} (b : t.Bound) {i : Fin tableSize} (hi : firstUserFd ≤ i.val)
    {s : Slot} {f : OpenFile} (hs : s.stream = some (.file f)) (hf : f.access = s.mode.access) :
    (t.setSlot i (some s)).Bound where
  standard c := by
    have hne : i ≠ c.index := by
      rintro rfl
      exact absurd hi (Nat.not_le.mpr (index_lt c))
    rw [slotAt_setSlot_of_ne _ _ hne, b.standard]
  user {j u} hj hu := by
    by_cases hij : i = j
    · subst hij
      rw [slotAt_setSlot_self] at hu
      cases hu
      exact ⟨f, hs, hf⟩
    · rw [slotAt_setSlot_of_ne _ _ hij] at hu
      exact b.user hj hu

/-- Releasing a descriptor keeps a table bound. -/
lemma Bound.close {t : Table} (b : t.Bound) (fd : Int) : (t.close fd).Bound where
  standard c := by
    rw [slotAt_close, if_neg fun h => absurd h.1 (Nat.not_le.mpr (index_lt c)), b.standard]
  user hj hu := by
    rw [slotAt_close] at hu
    split at hu
    · cases hu
    · exact b.user hj hu

/-- In a bound table a slot with a file can be handed out. -/
lemma Bound.le_of_file {t : Table} (b : t.Bound) {i : Fin tableSize} {s : Slot} {f : OpenFile}
    (hs : t.slotAt i = some s) (hf : s.stream = some (.file f)) : firstUserFd ≤ i.val := by
  by_contra hi
  obtain ⟨c, rfl⟩ := exists_eq_index hi
  rw [b.standard] at hs
  cases hs
  cases hf

/-- In a bound table a file behind a descriptor was opened for what the slot's mode names. -/
lemma Bound.access_of_slot? {t : Table} (b : t.Bound) {fd : Int} {s : Slot} {f : OpenFile}
    (hs : t.slot? fd = some s) (hf : s.stream = some (.file f)) : f.access = s.mode.access := by
  obtain ⟨i, -, hs⟩ := Option.bind_eq_some_iff.mp hs
  obtain ⟨g, hg, ha⟩ := b.user (b.le_of_file hs hf) hs
  obtain rfl : f = g := by simpa [hf] using hg
  exact ha

/-- In a bound table the descriptor of a file is open for what the file was opened for. -/
lemma Bound.require_of_access {t : Table} (b : t.Bound) {fd : Int} {s : Slot} {f : OpenFile}
    (hs : t.slot? fd = some s) (hf : s.stream = some (.file f)) {need : Capability}
    (hneed : need = .read ↔ f.access = .read) : t.require fd need = .ok () := by
  have haccess := b.access_of_slot? hs hf
  have hallows : s.mode.allows need = true := by
    cases hm : s.mode <;> cases need <;> simp_all [Mode.allows, Mode.access]
  simp [require, isOpenFor, hs, hallows]

/-- Nothing that one call does to a table unbinds it. -/
lemma Bound.change {t u : Table} (b : t.Bound) (ch : Change t u) : u.Bound := by
  cases ch with
  | same => exact b
  | opened _ hmode hfree hf =>
    obtain ⟨hi, -, -⟩ := lowestFree?_eq_some_iff.mp hfree
    exact b.setSlot_file hi rfl (hf.trans (OpenFlags.access_of_mode? hmode))
  | moved hs hf same =>
    -- The file that is put back is the one that was there, as far as its access goes.
    have hi := b.le_of_file hs hf
    obtain ⟨f', hf', ha⟩ := b.user hi hs
    obtain rfl : _ = f' := by simpa [hf] using hf'
    exact b.setSlot_file hi rfl (same.2.trans ha)
  | closed => exact b.close _
  | reset => exact reset_eq_initial t ▸ bound_initial

/-- The slot behind a descriptor that passes a capability check. -/
lemma require_eq_ok_iff {t : Table} {fd : Int} {need : Capability} :
    t.require fd need = .ok () ↔ t.isOpenFor fd need = true := by
  simp only [require]
  split <;> simp [*]

/-- A capability is refused where the descriptor is not open for it, and for no other reason. -/
lemma require_eq_error_iff {t : Table} {fd : Int} {need : Capability} {fault : Fault} :
    t.require fd need = .error fault ↔ t.isOpenFor fd need = false ∧ fault = .notOpen fd need := by
  simp only [require]
  split
  · simp [*]
  · next h => simp [h, eq_comm]

/-- A descriptor that passes has a slot whose mode allows what is needed. -/
lemma exists_slot_of_require {t : Table} {fd : Int} {need : Capability}
    (h : t.require fd need = .ok ()) :
    ∃ i s, fd = fdOf i ∧ t.slotAt i = some s ∧ s.mode.allows need = true := by
  simp only [require] at h
  split at h
  · next ho =>
    simp only [isOpenFor, slot?, Option.any_eq_true, Option.bind_eq_some_iff] at ho
    obtain ⟨s, ⟨i, hi, hs⟩, hm⟩ := ho
    exact ⟨i, s, index?_eq_some_iff.mp hi, hs, hm⟩
  · cases h

/-- A descriptor of a bound table that may be read is the standard input or a file opened for reading. -/
lemma Bound.stream?_of_read {t : Table} (b : t.Bound) {fd : Int}
    (h : t.require fd .read = .ok ()) :
    (fd = StdChannel.input.fd ∧ t.stream? fd = some (.standard .input)) ∨
      ∃ i s f, fd = fdOf i ∧ t.slotAt i = some s ∧ s.stream = some (.file f) ∧
        t.stream? fd = some (.file f) ∧ f.access = .read := by
  obtain ⟨i, s, rfl, hs, hm⟩ := exists_slot_of_require h
  by_cases hi : firstUserFd ≤ i.val
  · obtain ⟨f, hf, ha⟩ := b.user hi hs
    refine .inr ⟨i, s, f, rfl, hs, hf, by simp [stream?, hs, hf], ?_⟩
    rw [ha]
    cases hmode : s.mode <;> simp_all [Mode.allows, Mode.access]
  · obtain ⟨c, rfl⟩ := exists_eq_index hi
    rw [b.standard] at hs
    cases hs
    cases c with
    | input => exact .inl ⟨rfl, by simp [stream?, b.standard, StdChannel.slot]⟩
    | output => cases hm
    | error => cases hm

/-- A descriptor of a bound table that may be written is an output or a file not opened for reading. -/
lemma Bound.stream?_of_write {t : Table} (b : t.Bound) {fd : Int}
    (h : t.require fd .write = .ok ()) :
    (∃ c : StdChannel, c ≠ .input ∧ fd = c.fd ∧ t.stream? fd = some (.standard c)) ∨
      ∃ i s f, fd = fdOf i ∧ t.slotAt i = some s ∧ s.stream = some (.file f) ∧
        t.stream? fd = some (.file f) ∧ f.access ≠ .read := by
  obtain ⟨i, s, rfl, hs, hm⟩ := exists_slot_of_require h
  by_cases hi : firstUserFd ≤ i.val
  · obtain ⟨f, hf, ha⟩ := b.user hi hs
    refine .inr ⟨i, s, f, rfl, hs, hf, by simp [stream?, hs, hf], ?_⟩
    rw [ha]
    cases hmode : s.mode <;> simp_all [Mode.allows, Mode.access]
  · obtain ⟨c, rfl⟩ := exists_eq_index hi
    rw [b.standard] at hs
    cases hs
    have hstream : t.stream? (fdOf c.index) = some (.standard c) := by
      simp [stream?, b.standard, StdChannel.slot]
    cases c with
    | input => cases hm
    | output => exact .inl ⟨.output, by simp, rfl, hstream⟩
    | error => exact .inl ⟨.error, by simp, rfl, hstream⟩

/-- What may be written and is no output is a host file that was not opened for reading. -/
lemma Bound.file_of_write {t : Table} (b : t.Bound) {fd : Int} (h : t.require fd .write = .ok ())
    (hout : fd ≠ StdChannel.output.fd) (herr : fd ≠ StdChannel.error.fd) :
    ∃ f, t.stream? fd = some (.file f) ∧ f.access ≠ .read := by
  obtain ⟨c, hc, rfl, -⟩ | ⟨i, s, f, -, -, -, hstream, ha⟩ := b.stream?_of_write h
  · cases c with
    | input => exact absurd rfl hc
    | output => exact absurd rfl hout
    | error => exact absurd rfl herr
  · exact ⟨f, hstream, ha⟩

/-- In a bound table the standard channels stand behind their descriptors. -/
lemma Bound.stream?_standard {t : Table} (b : t.Bound) (c : StdChannel) :
    t.stream? c.fd = some (.standard c) := by
  have hfd : c.fd = fdOf c.index := by cases c <;> rfl
  simp [stream?, hfd, b.standard, StdChannel.slot]

/-- In a bound table the standard input may be read. -/
lemma Bound.require_read {t : Table} (b : t.Bound) : t.require StdChannel.input.fd .read = .ok () := by
  have hfd : StdChannel.input.fd = fdOf StdChannel.input.index := rfl
  have hallows : StdChannel.input.slot.mode.allows .read = true := rfl
  simp [require, isOpenFor, hfd, b.standard, hallows]

/-- In a bound table the outputs may be written. -/
lemma Bound.require_write {t : Table} (b : t.Bound) {c : StdChannel} (hc : c ≠ .input) :
    t.require c.fd .write = .ok () := by
  have hfd : c.fd = fdOf c.index := by cases c <;> rfl
  have hallows : c.slot.mode.allows .write = true := by
    cases c with
    | input => exact absurd rfl hc
    | output => rfl
    | error => rfl
  simp [require, isOpenFor, hfd, b.standard, hallows]

end Hostcall.Table
