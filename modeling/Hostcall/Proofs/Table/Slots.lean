import Hostcall.Table
import Mathlib.Tactic.Lemma

/-!
# Slots of the descriptor table

How reserving, binding and releasing act on single slots. Reserving takes the lowest free slot
(`lowestFree?_eq_some_iff`, `reserve_eq_ok_iff`), releasing what was just reserved gives the table back
(`close_reserve`), and a reset leaves nothing of the table it starts from (`reset_eq_initial`).
-/

namespace Hostcall.Table

/-- The descriptor of a slot numbers that slot. -/
@[simp] lemma index?_fdOf (i : Fin tableSize) : index? (fdOf i) = some i := by
  simp [index?, fdOf]

/-- A descriptor numbers a slot exactly if it is the descriptor of that slot. -/
lemma index?_eq_some_iff {fd : Int} {i : Fin tableSize} : index? fd = some i ↔ fd = fdOf i := by
  constructor
  · intro h
    simp only [index?] at h
    split at h
    · next hr =>
      cases h
      simp only [fdOf]
      omega
    · cases h
  · rintro rfl
    exact index?_fdOf i

/-- The slot of a descriptor, by its number. -/
@[simp] lemma slot?_fdOf (t : Table) (i : Fin tableSize) : t.slot? (fdOf i) = t.slotAt i := by
  simp [slot?]

/-- The second of two settings of a slot counts. -/
@[simp] lemma setSlot_setSlot (t : Table) (i : Fin tableSize) (a b : Option Slot) :
    (t.setSlot i a).setSlot i b = t.setSlot i b := by
  apply ext_slotAt
  intro j
  by_cases h : i = j
  · subst h; simp
  · simp [slotAt_setSlot_of_ne _ _ h]

/-- Setting a slot to what it holds changes nothing. -/
lemma setSlot_slotAt {t : Table} {i : Fin tableSize} {s : Option Slot} (h : t.slotAt i = s) :
    t.setSlot i s = t := by
  apply ext_slotAt
  intro j
  by_cases hij : i = j
  · subst hij; simp [h]
  · exact slotAt_setSlot_of_ne t s hij

/-- The lowest free slot is free, can be handed out, and has no such slot below it. -/
lemma lowestFree?_eq_some_iff {t : Table} {i : Fin tableSize} :
    t.lowestFree? = some i ↔
      firstUserFd ≤ i.val ∧ t.slotAt i = none ∧
        ∀ j : Fin tableSize, firstUserFd ≤ j.val → j < i → t.slotAt j ≠ none := by
  simp only [lowestFree?, List.find?_eq_some_iff_getElem, Bool.and_eq_true, decide_eq_true_eq,
    Option.isNone_iff_eq_none, List.length_finRange, List.getElem_finRange]
  constructor
  · rintro ⟨⟨h3, hn⟩, n, hn', rfl, hlow⟩
    refine ⟨h3, hn, fun j hj hji hjn => ?_⟩
    have := hlow j.val hji
    simp_all
  · rintro ⟨h3, hn, hlow⟩
    refine ⟨⟨h3, hn⟩, i.val, i.isLt, rfl, fun n hni => ?_⟩
    have hfree := hlow ⟨n, Nat.lt_trans hni i.isLt⟩
    by_cases hn3 : firstUserFd ≤ n
    · simpa [hn3, Option.isSome_iff_ne_none] using hfree hn3 hni
    · simp [hn3]

/-- Reserving succeeds exactly for an unused name, a word that names a mode, and a free slot; it fills
the lowest one and nothing else. -/
lemma reserve_eq_ok_iff {t u : Table} {name : String} {flags : OpenFlags} {fd : Int} :
    t.reserve name flags = .ok (fd, u) ↔
      ∃ mode i, t.nameInUse name = false ∧ flags.mode? = some mode ∧ t.lowestFree? = some i ∧
        fd = fdOf i ∧ u = t.setSlot i (some ⟨name, mode, none⟩) := by
  constructor
  · intro h
    simp only [reserve] at h
    split at h
    · cases h
    · next hname =>
      split at h
      · cases h
      · next mode hmode =>
        split at h
        · cases h
        · next i hfree =>
          cases h
          exact ⟨mode, i, by simpa using hname, hmode, hfree, rfl, rfl⟩
  · rintro ⟨mode, i, hname, hmode, hfree, rfl, rfl⟩
    simp [reserve, hname, hmode, hfree]

/-- Binding fills the stream of an allocated slot. -/
lemma bind_fdOf {t : Table} {i : Fin tableSize} {s : Slot} (h : t.slotAt i = some s)
    (stream : Stream) :
    t.bind (fdOf i) stream = (true, t.setSlot i (some { s with stream := some stream })) := by
  simp [bind, h]

/-- A slot that can be handed out can be released. -/
lemma close_fdOf {t : Table} {i : Fin tableSize} (hi : firstUserFd ≤ i.val) :
    t.close (fdOf i) = t.setSlot i none := by
  simp only [close, releasable?, index?_fdOf, Option.bind_some, if_pos hi]
  cases h : t.slotAt i with
  | none => simp [setSlot_slotAt h]
  | some s => simp

/-- Releasing a descriptor frees its slot if it can be handed out, and else does nothing. -/
lemma slotAt_close (t : Table) (fd : Int) (i : Fin tableSize) :
    (t.close fd).slotAt i = if firstUserFd ≤ i.val ∧ fdOf i = fd then none else t.slotAt i := by
  cases hfd : index? fd with
  | none =>
    have hne : fdOf i ≠ fd := by
      rintro rfl
      simp at hfd
    simp [close, releasable?, hfd, hne]
  | some j =>
    obtain rfl := index?_eq_some_iff.mp hfd
    by_cases hj : firstUserFd ≤ j.val
    · rw [close_fdOf hj]
      by_cases hji : j = i
      · subst hji; simp [hj]
      · have hne : fdOf i ≠ fdOf j := by
          simp only [fdOf, ne_eq, Int.natCast_inj]
          omega
        simp [slotAt_setSlot_of_ne _ _ hji, hne]
    · have hne : ¬(firstUserFd ≤ i.val ∧ fdOf i = fdOf j) := by
        rintro ⟨hi, he⟩
        simp only [fdOf, Int.natCast_inj] at he
        omega
      simp [close, releasable?, hj, hne]

/-- Releasing what was just reserved gives the table back. -/
lemma close_reserve {t u : Table} {name : String} {flags : OpenFlags} {fd : Int}
    (h : t.reserve name flags = .ok (fd, u)) : u.close fd = t := by
  obtain ⟨mode, i, -, -, hfree, rfl, rfl⟩ := reserve_eq_ok_iff.mp h
  obtain ⟨hi, hnone, -⟩ := lowestFree?_eq_some_iff.mp hfree
  rw [close_fdOf hi, setSlot_setSlot, setSlot_slotAt hnone]

/-- Releasing several descriptors frees the slots of those that can be handed out. -/
lemma slotAt_foldl_close (t : Table) (fds : List Int) (i : Fin tableSize) :
    (fds.foldl close t).slotAt i =
      if firstUserFd ≤ i.val ∧ fdOf i ∈ fds then none else t.slotAt i := by
  induction fds generalizing t with
  | nil => simp
  | cons fd fds ih =>
    -- What is left to show is which of `fd` and `fds` the slot belongs to.
    rw [List.foldl_cons, ih, slotAt_close]
    by_cases hi : firstUserFd ≤ i.val <;> by_cases hm : fdOf i ∈ fds <;>
      by_cases he : fdOf i = fd <;> simp [hi, hm, he]

/-- The descriptor of a slot is among those that can be handed out exactly if the slot is. -/
lemma fdOf_mem_userFds {i : Fin tableSize} : fdOf i ∈ userFds ↔ firstUserFd ≤ i.val := by
  revert i
  decide

/-- The slots of the standard channels come before those that can be handed out. -/
lemma index_lt (c : StdChannel) : c.index.val < firstUserFd := by
  cases c <;> decide

/-- Every slot that cannot be handed out is that of a standard channel. -/
lemma exists_eq_index {i : Fin tableSize} (h : ¬firstUserFd ≤ i.val) :
    ∃ c : StdChannel, i = c.index := by
  revert i
  simp only [Fin.forall_iff, firstUserFd]
  intro n hn h
  match n with
  | 0 => exact ⟨.input, rfl⟩
  | 1 => exact ⟨.output, rfl⟩
  | 2 => exact ⟨.error, rfl⟩
  | n + 3 => exact absurd (Nat.le_add_left 3 n) h

/-- Different standard channels have different slots. -/
lemma index_ne {c d : StdChannel} (h : c ≠ d) : c.index ≠ d.index := by
  cases c <;> cases d <;> first | exact absurd rfl h | decide

/-- Putting the standard channels back fills their slots. -/
lemma slotAt_setStandard_index (t : Table) (c : StdChannel) :
    t.setStandard.slotAt c.index = some c.slot := by
  simp only [setStandard, List.foldl_cons, List.foldl_nil]
  cases c with
  | input =>
    rw [slotAt_setSlot_of_ne _ _ (index_ne (by decide)),
      slotAt_setSlot_of_ne _ _ (index_ne (by decide)), slotAt_setSlot_self]
  | output => rw [slotAt_setSlot_of_ne _ _ (index_ne (by decide)), slotAt_setSlot_self]
  | error => rw [slotAt_setSlot_self]

/-- Putting the standard channels back leaves all other slots alone. -/
lemma slotAt_setStandard_user (t : Table) {i : Fin tableSize} (h : firstUserFd ≤ i.val) :
    t.setStandard.slotAt i = t.slotAt i := by
  have hne (c : StdChannel) : c.index ≠ i := by
    rintro rfl
    exact absurd h (Nat.not_le.mpr (index_lt c))
  simp only [setStandard, List.foldl_cons, List.foldl_nil]
  rw [slotAt_setSlot_of_ne _ _ (hne .error), slotAt_setSlot_of_ne _ _ (hne .output),
    slotAt_setSlot_of_ne _ _ (hne .input)]

/-- In the initial table every slot that can be handed out is free. -/
lemma slotAt_initial_user {i : Fin tableSize} (h : firstUserFd ≤ i.val) :
    initial.slotAt i = none := by
  rw [initial, slotAt_setStandard_user _ h]
  simp [slotAt]

/-- A reset gives the initial table, whatever there was before. -/
lemma reset_eq_initial (t : Table) : t.reset = initial := by
  apply ext_slotAt
  intro i
  by_cases hi : firstUserFd ≤ i.val
  · rw [slotAt_initial_user hi, reset, slotAt_setStandard_user _ hi, slotAt_foldl_close,
      if_pos ⟨hi, fdOf_mem_userFds.mpr hi⟩]
  -- Releasing never reaches the other slots; they are filled anew in both tables.
  · obtain ⟨c, rfl⟩ := exists_eq_index hi
    rw [reset, initial, slotAt_setStandard_index, slotAt_setStandard_index]

end Hostcall.Table
