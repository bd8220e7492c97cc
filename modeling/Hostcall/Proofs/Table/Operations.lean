import Hostcall.Proofs.Table.Slots

/-!
# Operations on the descriptor table

A table can be put through its operations in any order, by callers that check nothing. Every operation
keeps the reserved slots under their names and modes and lets no name be held twice (`Sound`,
`Sound.apply`); what a caller can rely on after any sequence of operations follows from that
(`sound_after_operations`).
-/

namespace Hostcall.Table

/-- Something that can be done to a table. -/
inductive Operation where
  | reserve (name : String) (flags : OpenFlags)
  | bind (fd : Int) (stream : Stream)
  | close (fd : Int)
  | reset
  deriving Repr, DecidableEq

/-- The table after an operation; one that is refused leaves it as it was. -/
def apply (t : Table) : Operation → Table
  | .reserve name flags =>
    match t.reserve name flags with
    | .ok (_, u) => u
    | .error _ => t
  | .bind fd stream => (t.bind fd stream).2
  | .close fd => t.close fd
  | .reset => t.reset

/-- The table after several operations in order. -/
def applyAll (t : Table) (ops : List Operation) : Table :=
  ops.foldl apply t

/-- The name and the mode that a slot is allocated for, whichever stream it has. -/
def label? (t : Table) (i : Fin tableSize) : Option (String × Mode) :=
  (t.slotAt i).map fun s => (s.name, s.mode)

/-- The reserved slots are allocated for their channels, and no name is held twice. -/
structure Sound (t : Table) : Prop where
  reserved (c : StdChannel) : t.label? c.index = some (c.slotName, c.mode)
  distinct {i j : Fin tableSize} {name : String} {m n : Mode} :
    t.label? i = some (name, m) → t.label? j = some (name, n) → i = j

/-! ## Labels -/

/-- A slot that is set has the name and the mode that it is set to. -/
@[simp] lemma label?_setSlot_self (t : Table) (i : Fin tableSize) (s : Option Slot) :
    (t.setSlot i s).label? i = s.map fun s => (s.name, s.mode) := by
  simp [label?]

/-- All other slots keep their names and modes. -/
lemma label?_setSlot_of_ne (t : Table) {i j : Fin tableSize} (s : Option Slot) (h : i ≠ j) :
    (t.setSlot i s).label? j = t.label? j := by
  simp [label?, slotAt_setSlot_of_ne _ _ h]

/-- Binding changes no label, whatever is bound to whichever slot. -/
lemma label?_bind (t : Table) (fd : Int) (stream : Stream) :
    (t.bind fd stream).2.label? = t.label? := by
  funext j
  cases hfd : index? fd with
  | none => simp [bind, hfd]
  | some i =>
    cases hs : t.slotAt i with
    | none => simp [bind, hfd, hs]
    | some s =>
      by_cases hij : i = j
      · subst hij
        simp [bind, hfd, hs, label?]
      · simp [bind, hfd, hs, label?_setSlot_of_ne _ _ hij]

/-- Releasing a descriptor takes the label off its slot at most. -/
lemma label?_close (t : Table) (fd : Int) (i : Fin tableSize) :
    (t.close fd).label? i =
      if firstUserFd ≤ i.val ∧ fdOf i = fd then none else t.label? i := by
  simp only [label?, slotAt_close]
  split <;> rfl

/-- A name that is not in use is on no label. -/
lemma label?_ne_of_nameInUse {t : Table} {name : String} (h : t.nameInUse name = false)
    (i : Fin tableSize) (m : Mode) : t.label? i ≠ some (name, m) := by
  simp only [nameInUse, List.any_eq_false, List.mem_finRange, true_implies] at h
  intro hl
  obtain ⟨s, hs, he⟩ := Option.map_eq_some_iff.mp hl
  have hname : s.name ≠ name := by simpa [hs] using h i
  exact hname (congrArg Prod.fst he)

/-- No slot that can be handed out is that of a standard channel. -/
lemma ne_index {i : Fin tableSize} (h : firstUserFd ≤ i.val) (c : StdChannel) : i ≠ c.index := by
  rintro rfl
  exact absurd h (Nat.not_le.mpr (index_lt c))

/-! ## What every operation keeps -/

/-- The initial table is sound: only the reserved slots are allocated, and their names differ. -/
lemma sound_initial : initial.Sound := by
  have hreserved (c : StdChannel) : initial.label? c.index = some (c.slotName, c.mode) := by
    simp [label?, initial, slotAt_setStandard_index, StdChannel.slot]
  refine ⟨hreserved, fun {i j name m n} hi hj => ?_⟩
  have hchannel {k p} (hk : initial.label? k = some (name, p)) :
      ∃ c : StdChannel, k = c.index ∧ c.slotName = name := by
    by_cases hu : firstUserFd ≤ k.val
    · simp [label?, slotAt_initial_user hu] at hk
    · obtain ⟨c, rfl⟩ := exists_eq_index hu
      rw [hreserved] at hk
      cases hk
      exact ⟨c, rfl, rfl⟩
  obtain ⟨c, rfl, hc⟩ := hchannel hi
  obtain ⟨d, rfl, hd⟩ := hchannel hj
  rw [← hd] at hc
  cases c <;> cases d <;> first | rfl | exact absurd hc (by decide)

/-- Reserving keeps a table sound: the slot was free and the name not in use. -/
lemma Sound.reserve {t u : Table} (h : t.Sound) {name : String} {flags : OpenFlags} {fd : Int}
    (hok : t.reserve name flags = .ok (fd, u)) : u.Sound := by
  obtain ⟨mode, i, hname, -, hfree, -, rfl⟩ := reserve_eq_ok_iff.mp hok
  obtain ⟨hi, -, -⟩ := lowestFree?_eq_some_iff.mp hfree
  have hnew := label?_ne_of_nameInUse hname
  refine ⟨fun c => ?_, fun {j k other m n} hj hk => ?_⟩
  · rw [label?_setSlot_of_ne _ _ (ne_index hi c)]
    exact h.reserved c
  -- Two slots with one name would be the new one and one that held the name before.
  · by_cases hij : i = j <;> by_cases hik : i = k
    · exact hij.symm.trans hik
    · subst hij
      rw [label?_setSlot_self] at hj
      rw [label?_setSlot_of_ne _ _ hik] at hk
      cases hj
      exact absurd hk (hnew k n)
    · subst hik
      rw [label?_setSlot_of_ne _ _ hij] at hj
      rw [label?_setSlot_self] at hk
      cases hk
      exact absurd hj (hnew j m)
    · rw [label?_setSlot_of_ne _ _ hij] at hj
      rw [label?_setSlot_of_ne _ _ hik] at hk
      exact h.distinct hj hk

/-- Releasing keeps a table sound: no reserved slot is freed and no name is added. -/
lemma Sound.close {t : Table} (h : t.Sound) (fd : Int) : (t.close fd).Sound := by
  have hkept {i l} (hi : (t.close fd).label? i = some l) : t.label? i = some l := by
    rw [label?_close] at hi
    split at hi
    · cases hi
    · exact hi
  refine ⟨fun c => ?_, fun hi hj => h.distinct (hkept hi) (hkept hj)⟩
  rw [label?_close, if_neg fun hc => ne_index hc.1 c rfl]
  exact h.reserved c

/-- Every operation keeps a table sound. -/
lemma Sound.apply {t : Table} (h : t.Sound) (op : Operation) : (t.apply op).Sound := by
  cases op with
  | reserve name flags =>
    simp only [Table.apply]
    split
    · next hok => exact h.reserve hok
    · exact h
  | bind fd stream =>
    have hl := t.label?_bind fd stream
    exact ⟨fun c => hl ▸ h.reserved c, fun {i j name m n} => hl ▸ h.distinct⟩
  | close fd => exact h.close fd
  | reset =>
    simp only [Table.apply, reset_eq_initial]
    exact sound_initial

/-- Operations in any number and order keep a table sound. -/
lemma Sound.applyAll {t : Table} (h : t.Sound) (ops : List Operation) : (t.applyAll ops).Sound := by
  induction ops generalizing t with
  | nil => exact h
  | cons op ops ih => exact ih (h.apply op)

/-! ## What a caller can rely on -/

/-- In a sound table the reserved slots are counted. -/
lemma Sound.le_openCount {t : Table} (h : t.Sound) : 3 ≤ t.openCount := by
  have hsub : [StdChannel.input.index, StdChannel.output.index, StdChannel.error.index].Sublist
      (List.finRange tableSize) := by decide
  have hsome (c : StdChannel) : (t.slotAt c.index).isSome = true := by
    have hc := h.reserved c
    simp only [label?, Option.map_eq_some_iff] at hc
    obtain ⟨s, hs, -⟩ := hc
    simp [hs]
  calc 3 = [StdChannel.input.index, StdChannel.output.index, StdChannel.error.index].countP
        fun i => (t.slotAt i).isSome := by simp [hsome]
    _ ≤ t.openCount := hsub.countP_le

/-- There are no more allocated slots than slots. -/
lemma openCount_le (t : Table) : t.openCount ≤ tableSize :=
  Nat.le_trans List.countP_le_length (Nat.le_of_eq List.length_finRange)

/-- Reserving gives a descriptor that can be handed out and was free. -/
lemma free_of_reserve {t u : Table} {name : String} {flags : OpenFlags} {fd : Int}
    (h : t.reserve name flags = .ok (fd, u)) : (3 ≤ fd ∧ fd ≤ 31) ∧ t.slot? fd = none := by
  obtain ⟨mode, i, -, -, hfree, rfl, -⟩ := reserve_eq_ok_iff.mp h
  obtain ⟨hi, hnone, -⟩ := lowestFree?_eq_some_iff.mp hfree
  have hlt := i.isLt
  simp only [firstUserFd, tableSize] at hi hlt
  exact ⟨by simp only [fdOf]; omega, by rw [slot?_fdOf, hnone]⟩

/-- Releasing anything but a descriptor that can be handed out does nothing. -/
lemma close_of_not_user {t : Table} {fd : Int} (h : ¬(3 ≤ fd ∧ fd ≤ 31)) : t.close fd = t := by
  apply ext_slotAt
  intro i
  rw [slotAt_close, if_neg]
  rintro ⟨hi, rfl⟩
  have hlt := i.isLt
  simp only [firstUserFd, tableSize, fdOf] at hi hlt h
  omega

/-- Binding a descriptor that is not allocated does nothing. -/
lemma bind_of_free {t : Table} {fd : Int} (h : t.slot? fd = none) (stream : Stream) :
    t.bind fd stream = (false, t) := by
  cases hfd : index? fd with
  | none => simp [bind, hfd]
  | some i =>
    have hs : t.slotAt i = none := by simpa [slot?, hfd] using h
    simp [bind, hfd, hs]

/-- The label of a slot is what a caller is told about its descriptor. -/
lemma told_of_label? {t : Table} {i : Fin tableSize} {name : String} {mode : Mode}
    (h : t.label? i = some (name, mode)) :
    t.name? (fdOf i) = some name ∧ t.mode? (fdOf i) = some mode := by
  obtain ⟨s, hs, he⟩ := Option.map_eq_some_iff.mp h
  cases he
  simp [name?, mode?, hs]

/-- After any sequence of operations on the initial table there are thirty-two slots; the first three are
allocated for the standard channels; no two allocated slots have one name; between three and thirty-two
slots are allocated. Reserving gives a descriptor from three to thirty-one that was free. Releasing any
other descriptor and binding one that is not allocated do nothing, and a reset gives the initial table. -/
theorem sound_after_operations (ops : List Operation) :
    let t := initial.applyAll ops
    t.slots.toList.length = 32 ∧
    (t.name? 0 = some "STDIN" ∧ t.mode? 0 = some .read) ∧
    (t.name? 1 = some "STDOUT" ∧ t.mode? 1 = some .write) ∧
    (t.name? 2 = some "STDERR" ∧ t.mode? 2 = some .write) ∧
    (∀ i j a b, t.slotAt i = some a → t.slotAt j = some b → a.name = b.name → i = j) ∧
    (3 ≤ t.openCount ∧ t.openCount ≤ 32) ∧
    (∀ name flags fd u, t.reserve name flags = .ok (fd, u) →
      (3 ≤ fd ∧ fd ≤ 31) ∧ t.slot? fd = none) ∧
    (∀ fd, ¬(3 ≤ fd ∧ fd ≤ 31) → t.close fd = t) ∧
    (∀ fd stream, t.slot? fd = none → t.bind fd stream = (false, t)) ∧
    t.reset = initial := by
  intro t
  have sound : t.Sound := sound_initial.applyAll ops
  have hdistinct {i j a b} (ha : t.slotAt i = some a) (hb : t.slotAt j = some b)
      (hab : a.name = b.name) : i = j := by
    have hi : t.label? i = some (b.name, a.mode) := by simp [label?, ha, hab]
    have hj : t.label? j = some (b.name, b.mode) := by simp [label?, hb]
    exact sound.distinct hi hj
  exact ⟨t.slots.length_toList,
    told_of_label? (sound.reserved .input),
    told_of_label? (sound.reserved .output),
    told_of_label? (sound.reserved .error),
    fun _ _ _ _ => hdistinct,
    ⟨sound.le_openCount, t.openCount_le⟩,
    fun _ _ _ _ => free_of_reserve,
    fun _ => close_of_not_user,
    fun _ stream h => bind_of_free h stream,
    reset_eq_initial t⟩

/-- The standard input is bound to a file and its slot survives an attempt to release it; a name in use
is refused. -/
example :
    let t := initial.applyAll [.reserve "notes" .writeOnly, .bind 0 (.file ⟨.null, .read, 0⟩),
      .close 0, .reserve "notes" .readOnly]
    t.openCount = 4 ∧ t.name? 0 = some "STDIN" ∧ t.reset = initial := by
  decide +kernel

end Hostcall.Table
