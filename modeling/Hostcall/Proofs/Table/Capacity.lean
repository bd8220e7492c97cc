import Hostcall.Proofs.Table.Operations

/-!
# Room in the descriptor table

Which slots can still be handed out is a list that rises (`free`). A reservation takes its first slot, if the
name is not held and the flags name a mode, and leaves the others (`reserve_of_free`); so several reservations
take the list from its beginning (`reserveAll_free`), and a table takes exactly as many as it has slots left
(`reserve_decides`).
-/

namespace Hostcall

/-- The words that name a mode: that for reading, that for writing and that for appending. -/
def OpenFlags.Known (f : OpenFlags) : Prop :=
  f.bits = 0 ∨ f.bits = 1 ∨ f.bits = 9

/-- A word has a mode exactly if it is one of the three, whichever other bits are set. -/
lemma OpenFlags.mode?_isSome_iff {f : OpenFlags} : f.mode?.isSome = true ↔ f.Known := by
  have heq (g : OpenFlags) : f = g ↔ f.bits = g.bits := by
    cases f
    cases g
    simp
  rw [Option.isSome_iff_exists, Known]
  constructor
  · rintro ⟨mode, hmode⟩
    obtain rfl := mode?_eq_some_iff.mp hmode
    cases mode with
    | read => exact .inl rfl
    | write => exact .inr (.inl rfl)
    | append => exact .inr (.inr rfl)
  · rintro (h | h | h)
    · exact ⟨.read, mode?_eq_some_iff.mpr ((heq readOnly).mpr h)⟩
    · exact ⟨.write, mode?_eq_some_iff.mpr ((heq writeOnly).mpr h)⟩
    · exact ⟨.append, mode?_eq_some_iff.mpr ((heq writeAppend).mpr h)⟩

namespace Table

/-- An allocated slot has the name. -/
def Held (t : Table) (name : String) : Prop :=
  ∃ i s, t.slotAt i = some s ∧ s.name = name

/-- The slots that can be handed out and are free, the lowest first. -/
def free (t : Table) : List (Fin tableSize) :=
  (List.finRange tableSize).filter fun i => firstUserFd ≤ i.val && (t.slotAt i).isNone

/-- The number of slots that were handed out and are allocated. -/
def userCount (t : Table) : Nat :=
  (List.finRange tableSize).countP fun i => firstUserFd ≤ i.val && (t.slotAt i).isSome

/-- Reserves for several names in order; the first that is refused ends it. -/
def reserveAll (t : Table) : List (String × OpenFlags) → Except Fault (List Int × Table)
  | [] => .ok ([], t)
  | (name, flags) :: requests =>
    match t.reserve name flags with
    | .error fault => .error fault
    | .ok (fd, u) => (u.reserveAll requests).map fun (fds, v) => (fd :: fds, v)

variable {t : Table} {name : String} {flags : OpenFlags} {i : Fin tableSize} {s : Slot}

/-- A name is in use if some slot holds it. -/
lemma nameInUse_iff : t.nameInUse name = true ↔ t.Held name := by
  simp [nameInUse, Held, Option.any_eq_true]

/-- A name is not in use if no slot holds it. -/
lemma nameInUse_eq_false_iff : t.nameInUse name = false ↔ ¬t.Held name := by
  rw [← nameInUse_iff, Bool.not_eq_true]

/-- Filling a free slot makes one more name held. -/
lemma held_setSlot (hfree : t.slotAt i = none) (other : String) :
    (t.setSlot i (some s)).Held other ↔ t.Held other ∨ other = s.name := by
  constructor
  · rintro ⟨j, r, hr, hname⟩
    by_cases hij : i = j
    · subst hij
      rw [slotAt_setSlot_self] at hr
      cases hr
      exact .inr hname.symm
    · rw [slotAt_setSlot_of_ne _ _ hij] at hr
      exact .inl ⟨j, r, hr, hname⟩
  · rintro (⟨j, r, hr, hname⟩ | rfl)
    · have hij : i ≠ j := by
        rintro rfl
        cases hfree.symm.trans hr
      exact ⟨j, r, (slotAt_setSlot_of_ne _ _ hij).trans hr, hname⟩
    · exact ⟨i, s, slotAt_setSlot_self _ _ _, rfl⟩

/-! ## Slots that are left -/

/-- A slot is free if it can be handed out and holds nothing. -/
lemma mem_free : i ∈ t.free ↔ firstUserFd ≤ i.val ∧ t.slotAt i = none := by
  simp [free]

/-- Free slots are listed in order. -/
lemma pairwise_free (t : Table) : t.free.Pairwise (· < ·) :=
  (List.pairwise_lt_finRange tableSize).filter _

/-- The lowest free slot is the first of them. -/
lemma lowestFree?_eq_head? (t : Table) : t.lowestFree? = t.free.head? :=
  List.head?_filter.symm

/-- There are twenty-nine slots that can be handed out, and each is free or was handed out. -/
lemma length_free_add (t : Table) : t.free.length + t.userCount = 29 := by
  let user := (List.finRange tableSize).filter fun i => firstUserFd ≤ i.val
  have hsplit := user.length_eq_countP_add_countP fun i => (t.slotAt i).isNone
  have hlength : user.length = 29 := by decide
  rw [hlength] at hsplit
  rw [hsplit, free, userCount, ← List.countP_eq_length_filter, List.countP_filter, List.countP_filter]
  congr 1
  · exact List.countP_congr fun i _ => by simp [and_comm]
  · exact List.countP_congr fun i _ => by simp [and_comm, Option.isSome_iff_ne_none]

/-- A slot that was filled is no longer left. -/
lemma free_setSlot {rest : List (Fin tableSize)} (h : t.free = i :: rest) (s : Slot) :
    (t.setSlot i (some s)).free = rest := by
  have hlow : ∀ j ∈ rest, i ≠ j := by
    have hpairwise := t.pairwise_free
    rw [h] at hpairwise
    exact fun j hj => Fin.ne_of_lt (List.rel_of_pairwise_cons hpairwise hj)
  calc (t.setSlot i (some s)).free
      = t.free.filter (i ≠ ·) := by
        rw [free, free, List.filter_filter]
        refine List.filter_congr fun j _ => ?_
        by_cases hij : i = j
        · subst hij; simp
        · simp [slotAt_setSlot_of_ne _ _ hij, hij]
    _ = rest := by
        rw [h, List.filter_cons_of_neg (by simp)]
        exact List.filter_eq_self.mpr fun j hj => by simpa using hlow j hj

/-- A reservation takes the first slot that is left. -/
lemma reserve_of_free {rest : List (Fin tableSize)} (hname : ¬t.Held name)
    (hknown : flags.Known) (h : t.free = i :: rest) :
    ∃ mode, mode.flags = flags ∧
      t.reserve name flags = .ok (fdOf i, t.setSlot i (some ⟨name, mode, none⟩)) := by
  obtain ⟨mode, hmode⟩ := Option.isSome_iff_exists.mp (OpenFlags.mode?_isSome_iff.mpr hknown)
  refine ⟨mode, (OpenFlags.mode?_eq_some_iff.mp hmode).symm, ?_⟩
  refine reserve_eq_ok_iff.mpr ⟨mode, i, nameInUse_eq_false_iff.mpr hname, hmode, ?_, rfl, rfl⟩
  rw [lowestFree?_eq_head?, h, List.head?_cons]

/-- Where no slot is left, a name that is not held is refused for that. -/
lemma reserve_of_full (hname : ¬t.Held name) (hknown : flags.Known) (h : t.free = []) :
    t.reserve name flags = .error (.tableFull name tableSize) := by
  obtain ⟨mode, hmode⟩ := Option.isSome_iff_exists.mp (OpenFlags.mode?_isSome_iff.mpr hknown)
  simp [reserve, nameInUse_eq_false_iff.mpr hname, hmode, lowestFree?_eq_head?, h]

/-- Reservations for different names that are not held take the slots that are left in their order. -/
lemma reserveAll_free {requests : List (String × OpenFlags)} (hlen : requests.length ≤ t.free.length)
    (hdistinct : (requests.map (·.1)).Nodup)
    (hnew : ∀ r ∈ requests, ¬t.Held r.1 ∧ r.2.Known) :
    ∃ u, t.reserveAll requests = .ok ((t.free.take requests.length).map fdOf, u) ∧
      u.free = t.free.drop requests.length ∧
      ∀ other, u.Held other ↔ t.Held other ∨ other ∈ requests.map (·.1) := by
  induction requests generalizing t with
  | nil => exact ⟨t, rfl, rfl, by simp⟩
  | cons request requests ih =>
    obtain ⟨name, flags⟩ := request
    obtain ⟨⟨hname, hknown⟩, hothers⟩ := List.forall_mem_cons.mp hnew
    obtain ⟨hnotMem, hrest⟩ := List.nodup_cons.mp hdistinct
    cases hfree : t.free with
    | nil => simp [hfree] at hlen
    | cons i rest =>
      obtain ⟨mode, -, hreserve⟩ := reserve_of_free hname hknown hfree
      have hslot : t.slotAt i = none := (mem_free.mp (by simp [hfree])).2
      have hheld := held_setSlot (s := ⟨name, mode, none⟩) hslot
      have hleft := free_setSlot hfree ⟨name, mode, none⟩
      -- No other request is for the name that is now held.
      have hstill : ∀ r ∈ requests, ¬(t.setSlot i (some ⟨name, mode, none⟩)).Held r.1 ∧ r.2.Known := by
        refine fun r hr => ⟨fun h => ?_, (hothers r hr).2⟩
        obtain h | h := (hheld r.1).mp h
        · exact (hothers r hr).1 h
        · exact hnotMem (List.mem_map.mpr ⟨r, hr, h⟩)
      have hroom : requests.length ≤ (t.setSlot i (some ⟨name, mode, none⟩)).free.length := by
        rw [hleft]
        simpa [hfree] using hlen
      obtain ⟨u, hu, hdrop, hu'⟩ := ih hroom hrest hstill
      refine ⟨u, ?_, ?_, fun other => ?_⟩
      · simp only [reserveAll, hreserve, hu, hleft]
        rfl
      · rw [hdrop, hleft]
        rfl
      · rw [hu', hheld, List.map_cons, List.mem_cons, or_assoc]

/-- A number in range is the descriptor of a slot. -/
lemma exists_eq_fdOf {fd : Int} (hlow : 0 ≤ fd) (hhigh : fd ≤ 31) : ∃ i, fd = fdOf i :=
  ⟨⟨fd.toNat, by simp only [tableSize]; omega⟩, by simp only [fdOf]; omega⟩

/-- The descriptors of the slots that are left. -/
lemma mem_map_fdOf_free {fd : Int} :
    fd ∈ t.free.map fdOf ↔ (3 ≤ fd ∧ fd ≤ 31) ∧ t.slot? fd = none := by
  simp only [List.mem_map, mem_free, firstUserFd]
  constructor
  · rintro ⟨i, ⟨hi, hslot⟩, rfl⟩
    have hlt := i.isLt
    exact ⟨by simp only [tableSize, fdOf] at *; omega, (slot?_fdOf t i).trans hslot⟩
  · rintro ⟨hfd, hslot⟩
    obtain ⟨i, rfl⟩ := exists_eq_fdOf (by omega : 0 ≤ fd) hfd.2
    rw [slot?_fdOf] at hslot
    exact ⟨i, ⟨by simp only [fdOf] at hfd; omega, hslot⟩, rfl⟩

/-- No slot is left exactly if all of those that can be handed out are allocated. -/
lemma free_eq_nil_iff : t.free = [] ↔ ∀ fd, 3 ≤ fd ∧ fd ≤ 31 → t.slot? fd ≠ none := by
  rw [← List.map_eq_nil_iff (f := fdOf), List.eq_nil_iff_forall_not_mem]
  simp only [mem_map_fdOf_free, not_and]

/-! ## Decisions -/

/-- The ways a reservation can end, in the order in which they are checked. -/
lemma reserve_outcome (t : Table) (name : String) (flags : OpenFlags) :
    (t.Held name ∧ t.reserve name flags = .error (.alreadyOpen name)) ∨
    (¬t.Held name ∧ ¬flags.Known ∧ t.reserve name flags = .error (.unsupportedMode name flags)) ∨
    (¬t.Held name ∧ flags.Known ∧ t.free = [] ∧
      t.reserve name flags = .error (.tableFull name tableSize)) ∨
    (¬t.Held name ∧ flags.Known ∧ t.free ≠ [] ∧ ∃ r, t.reserve name flags = .ok r) := by
  by_cases hname : t.Held name
  · refine .inl ⟨hname, ?_⟩
    simp [reserve, nameInUse_iff.mpr hname]
  by_cases hknown : flags.Known
  · cases hfree : t.free with
    | nil => exact .inr (.inr (.inl ⟨hname, hknown, rfl, reserve_of_full hname hknown hfree⟩))
    | cons i rest =>
      obtain ⟨mode, -, hok⟩ := reserve_of_free hname hknown hfree
      exact .inr (.inr (.inr ⟨hname, hknown, by simp, _, hok⟩))
  · have hmode : flags.mode? = none := by simpa [← OpenFlags.mode?_isSome_iff] using hknown
    exact .inr (.inl ⟨hname, hknown, by simp [reserve, nameInUse_eq_false_iff.mpr hname, hmode]⟩)

/-- Setting a slot is not seen through any other descriptor. -/
lemma slot?_setSlot_of_ne {fd : Int} (h : fd ≠ fdOf i) (s : Option Slot) :
    (t.setSlot i s).slot? fd = t.slot? fd := by
  cases hfd : index? fd with
  | none => simp [slot?, hfd]
  | some j =>
    have hij : i ≠ j := by
      rintro rfl
      exact h (index?_eq_some_iff.mp hfd)
    simp [slot?, hfd, slotAt_setSlot_of_ne _ _ hij]

/-- What a reservation that succeeds has done. -/
lemma reserve_ok {u : Table} {fd : Int} (h : t.reserve name flags = .ok (fd, u)) :
    (3 ≤ fd ∧ fd ≤ 31) ∧ t.slot? fd = none ∧
      (∀ lower, 3 ≤ lower → lower < fd → t.slot? lower ≠ none) ∧
      (∃ mode : Mode, mode.flags = flags ∧ u.slot? fd = some ⟨name, mode, none⟩) ∧
      ∀ other, other ≠ fd → u.slot? other = t.slot? other := by
  obtain ⟨hfd, hnone⟩ := free_of_reserve h
  obtain ⟨mode, i, -, hmode, hfree, rfl, rfl⟩ := reserve_eq_ok_iff.mp h
  obtain ⟨-, -, hlow⟩ := lowestFree?_eq_some_iff.mp hfree
  refine ⟨hfd, hnone, fun lower h3 hlt => ?_, ⟨mode, ?_, ?_⟩, fun other hne => ?_⟩
  · obtain ⟨j, rfl⟩ := exists_eq_fdOf (by omega : 0 ≤ lower) (by omega)
    rw [slot?_fdOf]
    simp only [fdOf] at h3 hlt
    exact hlow j (by simp only [firstUserFd]; omega) (Fin.lt_def.mpr (by omega))
  · exact (OpenFlags.mode?_eq_some_iff.mp hmode).symm
  · rw [slot?_fdOf, slotAt_setSlot_self]
  · exact slot?_setSlot_of_ne hne _

/-- A reservation is refused for the name first, for the flags next and for the room last, and then the
table is as it was; else it fills the lowest free slot, and releasing that slot undoes it. A table takes
as many names as it has slots left, in the order of the slots, and not one more. -/
theorem reserve_decides (t : Table) :
    (∀ (name : String) (flags : OpenFlags),
      let outcome := t.reserve name flags
      let full := ∀ fd, 3 ≤ fd ∧ fd ≤ 31 → t.slot? fd ≠ none
      (outcome = .error (.alreadyOpen name) ↔ t.Held name) ∧
      (outcome = .error (.unsupportedMode name flags) ↔ ¬t.Held name ∧ ¬flags.Known) ∧
      (outcome = .error (.tableFull name 32) ↔ ¬t.Held name ∧ flags.Known ∧ full) ∧
      (outcome.isOk = true ↔ ¬t.Held name ∧ flags.Known ∧ ¬full) ∧
      (∀ fd u, outcome = .ok (fd, u) →
        (3 ≤ fd ∧ fd ≤ 31) ∧ t.slot? fd = none ∧
        (∀ lower, 3 ≤ lower → lower < fd → t.slot? lower ≠ none) ∧
        (∃ mode : Mode, mode.flags = flags ∧ u.slot? fd = some ⟨name, mode, none⟩) ∧
        (∀ other, other ≠ fd → u.slot? other = t.slot? other) ∧
        t.apply (.reserve name flags) = u ∧ u.close fd = t) ∧
      (∀ fault, outcome = .error fault → t.apply (.reserve name flags) = t)) ∧
    ∀ requests : List (String × OpenFlags),
      requests.length + t.userCount = 29 →
      (requests.map (·.1)).Nodup →
      (∀ r ∈ requests, ¬t.Held r.1 ∧ r.2.Known) →
      ∃ fds u, t.reserveAll requests = .ok (fds, u) ∧
        fds.Pairwise (· < ·) ∧
        (∀ fd, fd ∈ fds ↔ (3 ≤ fd ∧ fd ≤ 31) ∧ t.slot? fd = none) ∧
        ∀ (name : String) (flags : OpenFlags),
          ¬t.Held name → name ∉ requests.map (·.1) → flags.Known →
          u.reserve name flags = .error (.tableFull name 32) := by
  refine ⟨fun name flags => ?_, fun requests hlen hdistinct hnew => ?_⟩
  · intro outcome full
    have hfull : full ↔ t.free = [] := free_eq_nil_iff.symm
    have hok (fd : Int) (u : Table) (h : t.reserve name flags = .ok (fd, u)) :
        t.apply (.reserve name flags) = u := by
      simp only [apply, h]
    have herror (fault : Fault) (h : t.reserve name flags = .error fault) :
        t.apply (.reserve name flags) = t := by
      simp only [apply, h]
    refine ⟨?_, ?_, ?_, ?_, fun fd u h => ?_, herror⟩
    rotate_left 4
    · obtain ⟨hfd, hnone, hlow, hslot, hother⟩ := reserve_ok h
      exact ⟨hfd, hnone, hlow, hslot, hother, hok fd u h, close_reserve h⟩
    -- The conditions exclude each other, so each is met exactly where its end is.
    all_goals
      simp only [outcome, hfull]
      obtain ⟨hname, h⟩ | ⟨hname, hknown, h⟩ | ⟨hname, hknown, hfree, h⟩ |
        ⟨hname, hknown, hfree, r, h⟩ := t.reserve_outcome name flags
      all_goals simp [*, Except.isOk, Except.toBool]
  · have hfree : requests.length = t.free.length := by
      have := t.length_free_add
      omega
    obtain ⟨u, hu, hdrop, hheld⟩ := reserveAll_free (Nat.le_of_eq hfree) hdistinct hnew
    rw [hfree, List.take_length] at hu
    rw [hfree, List.drop_length] at hdrop
    refine ⟨_, u, hu, ?_, fun fd => mem_map_fdOf_free, fun name flags hname hother hknown => ?_⟩
    · exact List.pairwise_map.mpr (t.pairwise_free.imp fun h => Int.ofNat_lt.mpr h)
    · refine reserve_of_full (fun h => ?_) hknown hdrop
      obtain h | h := (hheld name).mp h
      · exact hname h
      · exact hother h

/-- A table with a hole below a slot in use takes twenty-eight more names, the first into the hole. -/
theorem reserve_decides_hole :
    let t := initial.applyAll [.reserve "a" .readOnly, .reserve "b" .readOnly, .close 3]
    let requests := (List.range 28).map fun n =>
      (String.ofList (List.replicate n 'x'), OpenFlags.writeOnly)
    ∃ fds u, t.reserveAll requests = .ok (fds, u) ∧ fds.Pairwise (· < ·) ∧ 3 ∈ fds ∧ 4 ∉ fds ∧
      u.reserve "a" .writeAppend = .error (.tableFull "a" 32) := by
  intro t requests
  have hslots : t.slot? 3 = none ∧ t.slot? 4 ≠ none := by decide +kernel
  have hnames : ∀ name ∈ "a" :: requests.map (·.1), t.nameInUse name = false := by decide +kernel
  have hfree : ∀ name ∈ "a" :: requests.map (·.1), ¬t.Held name := fun name h =>
    nameInUse_eq_false_iff.mp (hnames name h)
  have hknown : ∀ r ∈ requests, r.2.Known := by
    intro r hr
    obtain ⟨n, -, rfl⟩ := List.mem_map.mp hr
    exact .inr (.inl rfl)
  obtain ⟨fds, u, hu, hrise, hmem, hfull⟩ := (reserve_decides t).2 requests (by decide +kernel)
    (by decide +kernel) fun r hr =>
      ⟨hfree r.1 (List.mem_cons_of_mem _ (List.mem_map_of_mem hr)), hknown r hr⟩
  refine ⟨fds, u, hu, hrise, (hmem 3).mpr ⟨by decide, hslots.1⟩, fun h => hslots.2 ((hmem 4).mp h).2, ?_⟩
  exact hfull "a" .writeAppend (hfree "a" List.mem_cons_self) (by decide +kernel) (.inr (.inr rfl))

end Table

end Hostcall
