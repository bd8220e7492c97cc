import Hostcall.Proofs.Machine.Twins
import Hostcall.Proofs.World.Accounts

/-!
# States do not disturb each other

Several states can take turns on one machine (`World.weave`). As long as no front end is attached and no
file of the host is within reach of two of them, each state sees what it would see if it had the machine
to itself (`states_isolated`).
-/

namespace Hostcall

open Pane

/-- The entries of one state, in their order. -/
def ofState {α : Type} (id : Nat) (entries : List (Nat × α)) : List α :=
  entries.filterMap fun e => if e.1 = id then some e.2 else none

/-- An entry of the state itself is among its own. -/
@[simp] lemma ofState_cons_self {α : Type} (id : Nat) (a : α) (entries : List (Nat × α)) :
    ofState id ((id, a) :: entries) = a :: ofState id entries := by
  simp [ofState]

/-- An entry of another state is not. -/
lemma ofState_cons_of_ne {α : Type} {id other : Nat} (h : other ≠ id) (a : α)
    (entries : List (Nat × α)) : ofState id ((other, a) :: entries) = ofState id entries := by
  simp [ofState, h]

/-- The file that a call opens on a disk, if its path leads to one. -/
def Call.opens? (d : Disk) (settings : Settings) : Call → Option FileId
  | .openFile name _ => d.fileAt? (settings.resolve name)
  | _ => none

namespace World

/-- The state of a number. -/
def state? (w : World) (id : Nat) : Option IoState :=
  w.states.lookup id

/-- Makes a state the active one if it is not. -/
def turnTo (w : World) (id : Nat) : World :=
  if w.active = id then w else (w.swap id).2

/-- Makes calls in order, each in the turn of its state: the replies with the states that they went to. -/
def weave (w : World) : List (Nat × Time × Call) → List (Nat × Reply) × World
  | [] => ([], w)
  | (id, now, c) :: schedule =>
    let (reply, w) := ((w.turnTo id).atTime now).call c
    let (replies, w) := w.weave schedule
    ((id, reply) :: replies, w)

/-- The files that a state can reach: those that it has open, and those to which the paths it opens lead on
a disk. -/
def reach (w : World) (d : Disk) (schedule : List (Nat × Time × Call)) (id : Nat) : List FileId :=
  ((w.state? id).map (·.table.files)).getD [] ++
    (ofState id schedule).filterMap fun e => e.2.opens? d w.machine.settings

/-! ## Turns -/

variable {w v : World} {id : Nat}

/-- A key that is not taken out is found as before. -/
lemma lookup_filter_ne {β : Type} {i j : Nat} (h : j ≠ i) (l : List (Nat × β)) :
    (l.filter (·.1 ≠ i)).lookup j = l.lookup j := by
  induction l with
  | nil => rfl
  | cons e l ih =>
    obtain ⟨k, b⟩ := e
    by_cases hk : k = i
    · have hj : (j == k) = false := by simpa [hk] using h
      rw [List.filter_cons_of_neg (by simp [hk]), ih, List.lookup_cons, hj]
    · rw [List.filter_cons_of_pos (by simp [hk]), List.lookup_cons, List.lookup_cons, ih]

/-- What exchanging states does, where the state asked for is parked. -/
lemma swap_of_parked {s : IoState} (h : w.parked.lookup id = some s) :
    (w.swap id).2 = { w with
      machine := (w.machine.swap s).2
      active := id
      parked := (w.active, w.machine.state) :: w.parked.filter (·.1 ≠ id) } := by
  simp only [swap, h]
  rfl

/-- The active state is that of the machine. -/
lemma state?_active (w : World) : w.state? w.active = some w.machine.state := by
  simp [state?, states]

/-- All other states are parked. -/
lemma state?_of_ne (h : id ≠ w.active) : w.state? id = w.parked.lookup id := by
  have hid : (id == w.active) = false := by simpa using h
  simp [state?, states, List.lookup_cons, hid]

/-- In its turn a state is the active one; everything else is as it was. -/
lemma turnTo_spec (h : (w.state? id).isSome) :
    (w.turnTo id).active = id ∧
      ((w.turnTo id).machine.host = w.machine.host ∧
        (w.turnTo id).machine.attached? = w.machine.attached?) ∧
      ∀ j, (w.turnTo id).state? j = w.state? j := by
  by_cases ha : w.active = id
  · rw [turnTo, if_pos ha]
    exact ⟨ha, ⟨rfl, rfl⟩, fun _ => rfl⟩
  · rw [state?_of_ne (Ne.symm ha)] at h
    obtain ⟨s, hs⟩ := Option.isSome_iff_exists.mp h
    rw [turnTo, if_neg ha, swap_of_parked hs]
    refine ⟨rfl, ⟨rfl, rfl⟩, fun j => ?_⟩
    by_cases hj : j = id
    · subst hj
      rw [state?_of_ne (Ne.symm ha), hs]
      exact state?_active _
    · by_cases hja : j = w.active
      · have hid : (w.active == id) = false := by simpa using ha
        rw [hja, state?_active]
        simp [state?, states, List.lookup_cons, hid]
      · have hid : (j == id) = false := by simpa using hj
        have hact : (j == w.active) = false := by simpa using hja
        rw [state?_of_ne hja]
        simp only [state?, states, List.lookup_cons, hid, hact]
        exact lookup_filter_ne hj w.parked

/-- A guest's call leaves every state but the active one alone. -/
lemma state?_call {c : Call} (hc : c.byGuest = true) (j : Nat) :
    (w.call c).2.state? j =
      if j = w.active then some (w.call c).2.machine.state else w.state? j := by
  obtain ⟨hactive, hparked⟩ := kept_call (w := w) (Call.keepsState_of_byGuest hc)
  split
  · next hj => rw [hj, ← hactive, state?_active]
  · next hj => rw [state?_of_ne (hactive ▸ hj), hparked, state?_of_ne hj]

/-- The world in which a state is about to make a call. -/
abbrev inTurn (w : World) (id : Nat) (now : Time) : World :=
  (w.turnTo id).atTime now

section

variable (h : (w.state? id).isSome) (now : Time)
include h

/-- The state whose turn it is is active. -/
lemma inTurn_active : (w.inTurn id now).active = id :=
  (turnTo_spec h).1

/-- Turns do not touch the files of the host. -/
lemma inTurn_disk : (w.inTurn id now).machine.disk = w.machine.disk :=
  congrArg Prod.fst (turnTo_spec h).2.1.1

/-- Turns do not touch the settings. -/
lemma inTurn_settings : (w.inTurn id now).machine.settings = w.machine.settings :=
  congrArg Prod.snd (turnTo_spec h).2.1.1

/-- Turns attach nothing. -/
lemma inTurn_attached? : (w.inTurn id now).machine.attached? = w.machine.attached? :=
  (turnTo_spec h).2.1.2

/-- Turns lose no state and change none. -/
lemma state?_inTurn (j : Nat) : (w.inTurn id now).state? j = w.state? j :=
  (turnTo_spec h).2.2 j

/-- In its turn a state is the machine's. -/
lemma inTurn_state : w.state? id = some (w.inTurn id now).machine.state := by
  have hactive := state?_active (w.inTurn id now)
  rwa [inTurn_active h now, state?_inTurn h now] at hactive

end

variable {R : Nat → Region} {now : Time} {c : Call}

/-- After its turn the state is the machine's, and all others are as they were. -/
lemma state?_inTurn_call (h : (w.state? id).isSome) (hc : c.byGuest = true) (j : Nat) :
    ((w.inTurn id now).call c).2.state? j =
      if j = id then some ((w.inTurn id now).call c).2.machine.state else w.state? j := by
  rw [state?_call hc, inTurn_active h now, state?_inTurn h now]

/-- No front end is attached, and every state is within its region. -/
structure Parted (R : Nat → Region) (w : World) : Prop where
  detached : w.machine.attached? = none
  sound : w.machine.disk.Sound
  files {id : Nat} {s : IoState} {file : FileId} : w.state? id = some s → file ∈ s.table.files →
    file ∈ (R id).files ∧ file ∈ w.machine.disk.files

/-- In its turn a state is within its region. -/
lemma Parted.within (p : Parted R w) (h : (w.state? id).isSome) (now : Time) :
    (w.inTurn id now).machine.Within (R id) where
  sound := inTurn_disk h now ▸ p.sound
  files hid := by
    rw [inTurn_disk h now]
    exact p.files (inTurn_state h now) hid

/-- What a guest's call in its turn does is confined to the region of its state. -/
lemma Parted.confined (p : Parted R w) (h : (w.state? id).isSome) (now : Time)
    (hc : c.byGuest = true) (stays : c.StaysIn (R id) w.machine.disk w.machine.settings)
    (spans : (R id).Spans w.machine.disk ((w.inTurn id now).call c).2.machine.disk) :
    (w.inTurn id now).machine.Confined (R id) ((w.inTurn id now).call c).2.machine := by
  rw [← inTurn_disk h now, ← inTurn_settings h now] at stays
  rw [← inTurn_disk h now] at spans
  exact confined_call (p.within h now) (Call.keepsState_of_byGuest hc) stays spans

/-- A call that is confined to the region of its state leaves every state within its region. -/
lemma Parted.call (p : Parted R w) (h : (w.state? id).isSome) (hc : c.byGuest = true)
    (confined : (w.inTurn id now).machine.Confined (R id) ((w.inTurn id now).call c).2.machine) :
    Parted R ((w.inTurn id now).call c).2 where
  detached := detached_call ((inTurn_attached? h now).trans p.detached) hc
  sound := confined.disk.sound (p.within h now).sound
  files {j s file} hs hfile := by
    rw [state?_inTurn_call h hc] at hs
    split at hs
    · next hj =>
      cases hs
      rw [hj]
      exact ((p.within h now).confined confined).files hfile
    · obtain ⟨hR, hd⟩ := p.files hs hfile
      rw [← inTurn_disk h now] at hd
      exact ⟨hR, confined.disk.grows.files hd⟩

/-! ## Taking turns -/

/-- Calls of guests, each of a state that there is. -/
def Guests (w : World) (schedule : List (Nat × Time × Call)) : Prop :=
  ∀ e ∈ schedule, e.2.2.byGuest = true ∧ (w.state? e.1).isSome = true

instance (w : World) (schedule : List (Nat × Time × Call)) : Decidable (w.Guests schedule) :=
  inferInstanceAs (Decidable (∀ e ∈ schedule, _))

/-- After the first call the states are the same, as far as their numbers go. -/
lemma Guests.tail {schedule : List (Nat × Time × Call)} (g : w.Guests ((id, now, c) :: schedule)) :
    ((w.inTurn id now).call c).2.Guests schedule := by
  intro e he
  obtain ⟨hc, hid⟩ := g _ (.head _)
  obtain ⟨hguest, hsome⟩ := g e (.tail _ he)
  refine ⟨hguest, ?_⟩
  rw [state?_inTurn_call hid hc]
  split
  · rfl
  · exact hsome

/-- The first call of a schedule is made in the turn of its state, and the others afterwards. -/
lemma weave_cons (w : World) (id : Nat) (now : Time) (c : Call) (schedule : List (Nat × Time × Call)) :
    w.weave ((id, now, c) :: schedule) =
      ((id, ((w.inTurn id now).call c).1) :: (((w.inTurn id now).call c).2.weave schedule).1,
        (((w.inTurn id now).call c).2.weave schedule).2) := by
  simp only [weave]

/-- Taking turns takes nothing off the disk. -/
lemma weave_grows (p : Parted (fun _ => .whole) w) {schedule : List (Nat × Time × Call)}
    (g : w.Guests schedule) : w.machine.disk.Grows (w.weave schedule).2.machine.disk := by
  induction schedule generalizing w with
  | nil => exact .refl _
  | cons e schedule ih =>
    obtain ⟨id, now, c⟩ := e
    obtain ⟨hc, hid⟩ := g _ (.head _)
    have confined := p.confined hid now hc (c.staysIn_whole _ _) (Region.whole_spans _ _)
    have hcall := confined.disk.grows
    rw [inTurn_disk hid] at hcall
    rw [weave_cons]
    exact hcall.trans (ih (p.call hid hc confined) g.tail)

/-- One world is another as a state sees it: the state is its machine's, and what the state can reach is
the same in both. -/
structure Mirrors (R : Region) (a : Nat) (w v : World) : Prop where
  state : w.state? a = some v.machine.state
  detached : v.machine.attached? = none
  settings : v.machine.settings = w.machine.settings
  within : v.machine.Within .whole
  disk : w.machine.disk.Agree R v.machine.disk

/-- What one state does in its turn is not seen by a state whose region is apart. -/
lemma Mirrors.other {a : Nat} (f : Mirrors (R a) a w v) (p : Parted R w) (h : (w.state? id).isSome)
    (hne : id ≠ a) (apart : (R a).ApartFrom (R id)) (hc : c.byGuest = true)
    (confined : (w.inTurn id now).machine.Confined (R id) ((w.inTurn id now).call c).2.machine) :
    Mirrors (R a) a ((w.inTurn id now).call c).2 v where
  state := by
    rw [state?_inTurn_call h hc, if_neg (Ne.symm hne)]
    exact f.state
  detached := f.detached
  settings := by
    rw [confined.settings, inTurn_settings h]
    exact f.settings
  within := f.within
  disk := by
    have hagree := confined.disk.agree (p.within h now).sound apart
    rw [inTurn_disk h] at hagree
    exact hagree.symm.trans f.disk

/-- What a state does in its turn is what it does alone, and the worlds go on as they were. -/
lemma Mirrors.own {a : Nat} (f : Mirrors (R a) a w v) (p : Parted R w) (h : (w.state? a).isSome)
    (hc : c.byGuest = true) (stays : c.StaysIn (R a) w.machine.disk w.machine.settings)
    (spans : (R a).Spans w.machine.disk ((w.inTurn a now).call c).2.machine.disk)
    (confined : (w.inTurn a now).machine.Confined (R a) ((w.inTurn a now).call c).2.machine) :
    ((v.atTime now).call c).1 = ((w.inTurn a now).call c).1 ∧
      Mirrors (R a) a ((w.inTurn a now).call c).2 ((v.atTime now).call c).2 := by
  have within := p.within h now
  have hstate : (v.atTime now).machine.state = (w.inTurn a now).machine.state :=
    Option.some.inj (f.state.symm.trans (inTurn_state h now))
  have hdetached : (v.atTime now).machine.attached? = none := f.detached
  have alone : (v.atTime now).machine.Within .whole := ⟨f.within.sound, f.within.files⟩
  have aside : (v.atTime now).machine.Within (R a) :=
    ⟨alone.sound, fun hid => ⟨(within.files (hstate ▸ hid)).1, (alone.files hid).2⟩⟩
  have twin : (w.inTurn a now).machine.Twin (R a) (v.atTime now).machine := by
    refine ⟨(inTurn_attached? h now).trans p.detached, f.detached, hstate, ?_, ?_⟩
    · rw [inTurn_settings h]
      exact f.settings
    · rw [inTurn_disk h]
      exact f.disk
  rw [← inTurn_disk h now, ← inTurn_settings h now] at stays
  rw [← inTurn_disk h now] at spans
  have alike := alike_call twin within aside hc stays spans
  have free := confined_call alone (Call.keepsState_of_byGuest hc) (c.staysIn_whole _ _)
    (Region.whole_spans _ _)
  refine ⟨alike.reply, ?_, ?_, ?_, alone.confined free, alike.disk⟩
  · rw [state?_inTurn_call h hc, if_pos rfl]
    exact congrArg some alike.state.symm
  · exact detached_call hdetached hc
  · rw [free.settings, confined.settings, inTurn_settings h]
    exact f.settings

/-- A state that takes turns with others gets the answers that it gets alone, and comes to the state that
it comes to alone, if its region is apart from theirs. -/
lemma weave_alone {a : Nat} (p : Parted R w) (pw : Parted (fun _ => .whole) w)
    {schedule : List (Nat × Time × Call)} (g : w.Guests schedule)
    (hapart : ∀ e ∈ schedule, e.1 ≠ a → (R a).ApartFrom (R e.1))
    (hstays : ∀ e ∈ schedule, e.2.2.StaysIn (R e.1) w.machine.disk w.machine.settings)
    (hspans : ∀ e ∈ schedule, (R e.1).Spans w.machine.disk (w.weave schedule).2.machine.disk)
    (f : Mirrors (R a) a w v) :
    ofState a (w.weave schedule).1 = (v.run (ofState a schedule)).1 ∧
      (w.weave schedule).2.state? a = some (v.run (ofState a schedule)).2.machine.state := by
  induction schedule generalizing w v with
  | nil => exact ⟨rfl, f.state⟩
  | cons e schedule ih =>
    obtain ⟨id, now, c⟩ := e
    obtain ⟨hc, hid⟩ := g _ (.head _)
    have hstay : c.StaysIn (R id) w.machine.disk w.machine.settings := hstays _ (.head _)
    -- The call only adds to the disk, and so do all calls behind it.
    have free := pw.confined hid now hc (c.staysIn_whole _ _) (Region.whole_spans _ _)
    have hgrows := free.disk.grows
    rw [inTurn_disk hid] at hgrows
    have pw' := pw.call hid hc free
    have hrest := weave_grows pw' g.tail
    rw [weave_cons] at hspans ⊢
    have hspan := (hspans _ (.head _)).mono (.refl _) hrest
    have confined := p.confined hid now hc hstay hspan
    have hstays' : ∀ e ∈ schedule, e.2.2.StaysIn (R e.1)
        ((w.inTurn id now).call c).2.machine.disk ((w.inTurn id now).call c).2.machine.settings := by
      intro e he
      rw [confined.settings, inTurn_settings hid]
      exact (hstays e (.tail _ he)).grows hgrows
    have hspans' : ∀ e ∈ schedule, (R e.1).Spans ((w.inTurn id now).call c).2.machine.disk
        (((w.inTurn id now).call c).2.weave schedule).2.machine.disk :=
      fun e he => (hspans e (.tail _ he)).mono hgrows (.refl _)
    have ih {u} := ih (v := u) (p.call hid hc confined) pw' g.tail
      (fun e he => hapart e (.tail _ he)) hstays' hspans'
    by_cases ha : id = a
    · subst ha
      obtain ⟨hreply, f'⟩ := f.own p hid hc hstay hspan confined
      obtain ⟨hreplies, hend⟩ := ih f'
      rw [ofState_cons_self, ofState_cons_self, replies_cons, hreply, hreplies]
      exact ⟨rfl, hend⟩
    · rw [ofState_cons_of_ne ha, ofState_cons_of_ne ha]
      exact ih (f.other p hid ha (hapart _ (.head _) ha) hc confined)

/-! ## Reach -/

/-- The entries of a state are those with its number. -/
lemma mem_ofState {α : Type} {entries : List (Nat × α)} {a : α} :
    a ∈ ofState id entries ↔ (id, a) ∈ entries := by
  simp only [ofState, List.mem_filterMap]
  constructor
  · rintro ⟨⟨other, b⟩, hmem, he⟩
    split at he
    · next hid =>
      cases he
      exact hid ▸ hmem
    · cases he
  · exact fun hmem => ⟨_, hmem, if_pos rfl⟩

variable {e : Disk} {schedule : List (Nat × Time × Call)}

/-- A state reaches the files that it has open. -/
lemma mem_reach_of_open {s : IoState} {file : FileId} (hs : w.state? id = some s)
    (hfile : file ∈ s.table.files) : file ∈ w.reach e schedule id := by
  simp [reach, hs, hfile]

/-- What stands at the place of a path that a state opens is within its reach. -/
lemma mem_reach_of_path {name : String} {flags : OpenFlags} {p : Location} {file : FileId}
    (hmem : (id, now, .openFile name flags) ∈ schedule)
    (hp : e.place? (w.machine.settings.resolve name) = some p) (hn : e.node? p = some (.file file)) :
    file ∈ w.reach e schedule id := by
  refine List.mem_append_right _ (List.mem_filterMap.mpr ⟨_, mem_ofState.mpr hmem, ?_⟩)
  exact Disk.fileAt?_of_place? hp hn

/-- The places to which the paths lead that a state opens. -/
def places (w : World) (schedule : List (Nat × Time × Call)) (id : Nat) : Set Location :=
  {p | ∃ now name flags, (id, now, Call.openFile name flags) ∈ schedule ∧
    w.machine.disk.place? (w.machine.settings.resolve name) = some p}

/-- The part of the host that a state comes to in a run that ends with a disk. -/
def region (w : World) (e : Disk) (schedule : List (Nat × Time × Call)) (id : Nat) : Region where
  places := w.places schedule id
  makes := {p | p ∈ w.places schedule id ∧ w.machine.disk.node? p = none ∧ e.node? p ≠ none}
  files := {file | file ∈ w.reach e schedule id}
  makes_subset := fun _ hp => hp.1

/-- The region of a state takes in every file that is made or found at its places. -/
lemma region_spans (hgrows : w.machine.disk.Grows e) :
    (w.region e schedule id).Spans w.machine.disk e where
  made hp hnone hsome := ⟨hp, hnone, hsome⟩
  named := by
    rintro p file ⟨now, name, flags, hmem, hp⟩ hn
    exact mem_reach_of_path hmem ((hgrows.place? _).trans hp) hn

/-- Regions of states that reach no file in common are apart. -/
lemma region_apart (hgrows : w.machine.disk.Grows e) {a : Nat}
    (hfiles : ∀ file ∈ w.reach e schedule id, file ∉ w.reach e schedule a) :
    (w.region e schedule a).ApartFrom (w.region e schedule id) where
  places := by
    rintro p ⟨⟨now, name, flags, hmem, hp⟩, hnone, hsome⟩ ⟨now', name', flags', hmem', hp'⟩
    -- A file was made there, and both come to it by their paths.
    obtain ⟨node, hnode⟩ := Option.ne_none_iff_exists'.mp hsome
    obtain ⟨file, rfl⟩ := hgrows.gained hnode hnone
    exact hfiles file (mem_reach_of_path hmem ((hgrows.place? _).trans hp) hnode)
      (mem_reach_of_path hmem' ((hgrows.place? _).trans hp') hnode)
  files hid := hfiles _ hid

/-- The calls of a state open no path that leads out of its region. -/
lemma staysIn_region {entry : Nat × Time × Call} (he : entry ∈ schedule) :
    entry.2.2.StaysIn (w.region e schedule entry.1) w.machine.disk w.machine.settings := by
  obtain ⟨id, now, c⟩ := entry
  cases c with
  | openFile name flags => exact fun p hp => ⟨now, name, flags, he, hp⟩
  | _ => trivial

/-- No file that is there at the end of a run is within reach of two states. -/
def Apart (w : World) (schedule : List (Nat × Time × Call)) : Prop :=
  ∀ a ∈ w.states, ∀ b ∈ w.states, a.1 ≠ b.1 →
    ∀ file ∈ w.reach (w.weave schedule).2.machine.disk schedule a.1,
      file ∉ w.reach (w.weave schedule).2.machine.disk schedule b.1

instance (w : World) (schedule : List (Nat × Time × Call)) : Decidable (w.Apart schedule) :=
  inferInstanceAs (Decidable (∀ a ∈ w.states, ∀ b ∈ w.states, a.1 ≠ b.1 →
    ∀ file ∈ w.reach (w.weave schedule).2.machine.disk schedule a.1,
      file ∉ w.reach (w.weave schedule).2.machine.disk schedule b.1))

/-- A state that can be had is one of the states there are. -/
lemma mem_states_of_state? {s : IoState} (h : w.state? id = some s) : (id, s) ∈ w.states := by
  obtain ⟨before, after, hstates, -⟩ := List.lookup_eq_some_iff.mp h
  simp [hstates]

/-- Let guests take turns on a machine without a front end, each with a state of its own, in any order
and for any number of calls. If no file of the host is within reach of two of them, through a descriptor
that is open or by a path that is opened, then every guest gets the answers that it gets alone, and its
state ends as it ends alone: its table, the positions of its files, its unread input and its sinks. -/
theorem states_isolated (accounted : w.Accounted) (hdetached : w.machine.attached? = none)
    (hguests : w.Guests schedule) (hapart : w.Apart schedule) (hid : (w.state? id).isSome = true) :
    ofState id (w.weave schedule).1 = ((w.turnTo id).run (ofState id schedule)).1 ∧
      (w.weave schedule).2.state? id =
        some ((w.turnTo id).run (ofState id schedule)).2.machine.state := by
  have whole : Parted (fun _ => .whole) w := ⟨hdetached, accounted.sound, fun hs hfile =>
    ⟨trivial, accounted.files (mem_states_of_state? hs) hfile⟩⟩
  have hgrows := weave_grows whole hguests
  have parted : Parted (w.region (w.weave schedule).2.machine.disk schedule) w :=
    ⟨hdetached, accounted.sound, fun hs hfile =>
      ⟨mem_reach_of_open hs hfile, accounted.files (mem_states_of_state? hs) hfile⟩⟩
  have hregions : ∀ entry ∈ schedule, entry.1 ≠ id →
      (w.region (w.weave schedule).2.machine.disk schedule id).ApartFrom
        (w.region (w.weave schedule).2.machine.disk schedule entry.1) := by
    intro entry he hne
    obtain ⟨s, hs⟩ := Option.isSome_iff_exists.mp (hguests entry he).2
    obtain ⟨r, hr⟩ := Option.isSome_iff_exists.mp hid
    exact region_apart hgrows
      (hapart _ (mem_states_of_state? hs) _ (mem_states_of_state? hr) hne)
  refine weave_alone parted whole hguests hregions (fun _ => staysIn_region)
    (fun _ _ => region_spans hgrows) ⟨?_, ?_, ?_, ?_, ?_⟩
  · exact inTurn_state hid 0
  · exact (inTurn_attached? hid 0).trans hdetached
  · exact inTurn_settings hid 0
  · exact ⟨(whole.within hid 0).sound, (whole.within hid 0).files⟩
  · rw [show (w.turnTo id).machine.disk = w.machine.disk from inTurn_disk hid 0]
    exact .refl _ _

/-- A world with two states that have one file open, one of them to write it and the other to read it. -/
def sharing : World :=
  (scratch.run
    [(0, .parkNew []), (0, .openFile "f" .writeOnly), (0, .swap 1), (0, .openFile "f" .readOnly),
      (0, .swap 0)]).2

/-- A descriptor that is open already is enough for one state to disturb another, though no call of either
opens a path. -/
theorem shared_descriptor_interferes :
    let schedule : List (Nat × Time × Call) := [(0, 1, .writeTo 3 [120]), (1, 2, .readFrom 3 [170])]
    sharing.Accounted ∧ sharing.machine.attached? = none ∧ sharing.Guests schedule ∧
      (∀ entry ∈ schedule, ∀ name flags, entry.2.2 ≠ .openFile name flags) ∧
      ofState 1 (sharing.weave schedule).1 = [.read ⟨.ok 1, [120]⟩] ∧
      ((sharing.turnTo 1).run (ofState 1 schedule)).1 = [.read ⟨.ok 0, [170]⟩] := by
  intro schedule
  have accounted : sharing.Accounted := (fresh_scratch.accounted rfl).run _
  have hnames : ∀ entry ∈ schedule, ∀ name flags, entry.2.2 ≠ .openFile name flags := by
    intro entry he name flags
    obtain rfl | rfl : entry = _ ∨ entry = _ := List.mem_pair.mp he <;> exact nofun
  exact ⟨accounted, by decide +kernel, by decide +kernel, hnames, by decide +kernel,
    by decide +kernel⟩

/-- Two states with a file open each under the same descriptor write, read, open, seek and reset in turns. -/
theorem states_isolated_in_turns :
    let w : World := (scratch.run
      [(0, .parkNew [52, 50, 10, 33]), (0, .openFile "a" .writeOnly), (0, .swap 1),
        (0, .openFile "b" .writeOnly)]).2
    let schedule : List (Nat × Time × Call) :=
      [(0, 1, .writeTo 3 [120, 121]), (1, 2, .readChar 12), (0, 3, .openFile "a" .readOnly),
        (1, 4, .writeTo 3 [122]), (1, 5, .openFile "c" .writeOnly), (0, 6, .openFile "d" .readOnly),
        (1, 7, .print "!"), (0, 8, .resetFiles), (1, 9, .readInteger 5), (0, 10, .openFile "a" .readOnly),
        (0, 11, .seek 3 1 0), (1, 12, .closeFile 4), (0, 13, .readFrom 3 [0, 0])]
    w.Accounted ∧ w.machine.attached? = none ∧ w.Guests schedule ∧ w.Apart schedule ∧
      (ofState 1 (w.weave schedule).1 = ((w.turnTo 1).run (ofState 1 schedule)).1 ∧
        (w.weave schedule).2.state? 1 =
          some ((w.turnTo 1).run (ofState 1 schedule)).2.machine.state) ∧
      (w.weave schedule).1.getLast? = some (0, .read ⟨.ok 1, [121, 0]⟩) := by
  intro w schedule
  have accounted : w.Accounted := (fresh_scratch.accounted rfl).run _
  have hdetached : w.machine.attached? = none := by decide +kernel
  have hguests : w.Guests schedule := by decide +kernel
  have hapart : w.Apart schedule := by decide +kernel
  exact ⟨accounted, hdetached, hguests, hapart,
    states_isolated accounted hdetached hguests hapart (by decide +kernel), by decide +kernel⟩

end World

end Hostcall
