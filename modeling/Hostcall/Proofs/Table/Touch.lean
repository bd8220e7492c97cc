import Hostcall.Proofs.Table.Binding

/-!
# Tables after a call on one descriptor

A call that works on one descriptor does one of three things to the table: nothing, or it moves the file
behind the descriptor, or it releases the descriptor (`Touch`). All other slots are as they were
(`Touch.slotAt_of_ne`), and a slot that is still allocated has its name, its mode and its file
(`Touch.inherits`).
-/

namespace Hostcall.Table

/-- What a call on a descriptor can do to a table. -/
inductive Touch (t : Table) (fd : Int) : Table → Prop where
  | same :
    Touch t fd t
  | moved {f g} :
    t.stream? fd = some (.file f) →
    f.SameHandle g →
    Touch t fd (t.bind fd (.file g)).2
  | closed :
    Touch t fd (t.close fd)

/-- Every file behind a descriptor of `u` is behind the same descriptor of `t`, opened for the same. -/
def Inherits (t u : Table) : Prop :=
  ∀ fd f, u.stream? fd = some (.file f) → ∃ g, t.stream? fd = some (.file g) ∧ g.SameHandle f

variable {t u : Table} {fd : Int} {i : Fin tableSize}

/-- Different slots have different descriptors. -/
lemma fdOf_inj {j : Fin tableSize} : fdOf i = fdOf j ↔ i = j := by
  simp only [fdOf, Int.natCast_inj, Fin.val_inj]

/-- A slot that can be handed out is none of the reserved ones. -/
lemma fdOf_ne_standard (hi : firstUserFd ≤ i.val) (c : StdChannel) : fdOf i ≠ c.fd := by
  have hfd : c.fd = fdOf c.index := by cases c <;> rfl
  rw [hfd]
  intro he
  exact absurd (fdOf_inj.mp he ▸ hi) (Nat.not_le.mpr (index_lt c))

/-- A stream stands behind the descriptor of the slot that holds it. -/
lemma stream?_eq_some_iff {stream : Stream} :
    t.stream? fd = some stream ↔ ∃ i s, fd = fdOf i ∧ t.slotAt i = some s ∧ s.stream = some stream := by
  simp only [stream?, slot?, Option.bind_eq_some_iff, index?_eq_some_iff]
  constructor
  · rintro ⟨s, ⟨i, hi, hs⟩, hstream⟩
    exact ⟨i, s, hi, hs, hstream⟩
  · rintro ⟨i, s, hi, hs, hstream⟩
    exact ⟨s, ⟨i, hi, hs⟩, hstream⟩

/-- Putting a file back behind its descriptor after using it moves that file. -/
lemma change_of_stream? {f g : OpenFile} (h : t.stream? fd = some (.file f)) (same : f.SameHandle g) :
    t.Change (t.bind fd (.file g)).2 := by
  obtain ⟨i, s, rfl, hs, hf⟩ := stream?_eq_some_iff.mp h
  rw [bind_fdOf hs]
  exact .moved hs hf same

/-- What a call does to one descriptor is one of the changes that are listed. -/
lemma Touch.change (touch : t.Touch fd u) : t.Change u := by
  cases touch with
  | same => exact .same
  | moved hf same => exact change_of_stream? hf same
  | closed => exact .closed

/-- A call on one descriptor leaves all other slots alone. -/
lemma Touch.slotAt_of_ne (touch : t.Touch fd u) (h : fdOf i ≠ fd) : u.slotAt i = t.slotAt i := by
  cases touch with
  | same => rfl
  | moved hf _ =>
    obtain ⟨j, s, rfl, hs, -⟩ := stream?_eq_some_iff.mp hf
    rw [bind_fdOf hs]
    exact slotAt_setSlot_of_ne t _ fun he => h (fdOf_inj.mpr he.symm)
  | closed => rw [slotAt_close, if_neg fun hc => h hc.2]

/-- A table inherits everything from itself. -/
lemma Inherits.of_eq (h : u = t) : t.Inherits u :=
  fun _ f hf => ⟨f, h ▸ hf, rfl, rfl⟩

/-- At first no descriptor leads to a file. -/
lemma stream?_initial_ne (fd : Int) (f : OpenFile) : initial.stream? fd ≠ some (.file f) := by
  intro h
  obtain ⟨i, s, -, hs, hf⟩ := stream?_eq_some_iff.mp h
  have hi := bound_initial.le_of_file hs hf
  rw [slotAt_initial_user hi] at hs
  cases hs

/-- The initial table has nothing to inherit. -/
lemma inherits_initial (t : Table) : t.Inherits initial :=
  fun fd f h => absurd h (stream?_initial_ne fd f)

/-- A slot that is set has its stream behind its own descriptor. -/
lemma stream?_setSlot (t : Table) (i j : Fin tableSize) (s : Slot) :
    (t.setSlot i (some s)).stream? (fdOf j) = if i = j then s.stream else t.stream? (fdOf j) := by
  by_cases hij : i = j
  · subst hij
    simp [stream?]
  · simp [stream?, slotAt_setSlot_of_ne _ _ hij, hij]

/-- No descriptor comes to lead to a file by a call on a descriptor. -/
lemma Touch.inherits (touch : t.Touch fd u) : t.Inherits u := by
  intro fd' f h
  cases touch with
  | same => exact Inherits.of_eq rfl fd' f h
  | moved hf same =>
    obtain ⟨i, r, rfl, hr, -⟩ := stream?_eq_some_iff.mp hf
    obtain ⟨j, s, rfl, -, -⟩ := stream?_eq_some_iff.mp h
    rw [bind_fdOf hr, stream?_setSlot] at h
    split at h
    · next hij =>
      cases h
      exact ⟨_, hij ▸ hf, same⟩
    · exact ⟨f, h, rfl, rfl⟩
  | closed =>
    obtain ⟨j, s, rfl, hs, hstream⟩ := stream?_eq_some_iff.mp h
    rw [slotAt_close] at hs
    split at hs
    · cases hs
    · exact ⟨f, stream?_eq_some_iff.mpr ⟨j, s, rfl, hs, hstream⟩, rfl, rfl⟩

end Hostcall.Table
