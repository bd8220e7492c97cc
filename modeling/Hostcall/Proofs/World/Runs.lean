import Hostcall.Proofs.Machine.Tables
import Hostcall.World
import Mathlib.Data.List.Basic

/-!
# Properties along runs

A run starts in a world that has not been used yet (`Fresh`). What every call keeps is kept by a run
(`run_keeps`), and a condition on calls can be asked of every call of a run (`Throughout`). Most calls leave
the descriptor table alone and some touch one descriptor (`table_call`, `touch_call`); no call does more to
any state than `Table.Change` allows for its table (`derived_call`).
-/

namespace Hostcall

deriving instance DecidableEq for ReadReply, Reply

/-- The descriptor that a call works on. -/
def Call.descriptor? : Call → Option Int
  | .readFrom fd _ | .writeTo fd _ | .seek fd _ _ | .closeFile fd => some fd
  | _ => none

/-- What a call needs its descriptor to be open for. -/
def Call.need? : Call → Option Capability
  | .readFrom .. | .seek .. => some .read
  | .writeTo .. => some .write
  | _ => none

/-- Whether a call works on the descriptor table of the active state or puts another in its place. -/
def Call.usesTable : Call → Bool
  | .openFile .. | .readFrom .. | .writeTo .. | .seek .. | .closeFile _ | .resetFiles | .swap _ => true
  | _ => false

/-- Whether a call puts another state in the place of the active one. -/
def Call.exchanges : Call → Bool
  | .swap _ => true
  | _ => false

namespace World

open Pane

/-- Nothing has been opened, shown or held back yet. -/
structure Fresh (w : World) : Prop where
  table {id : Nat} {s : IoState} : (id, s) ∈ w.states → s.table = .initial
  history : w.machine.history = []
  pending : w.machine.coalescer.pending = ""

/-- A machine at the start of a run, beside new states. -/
lemma fresh_start (settings : Settings) (disk : Disk) (traces : TraceSet)
    (channels : Console.Channels) (parked : List (Nat × Console.Channels)) :
    Fresh {
      machine := .start settings disk (.ofChannels channels) traces
      parked := parked.map fun p => (p.1, .ofChannels p.2) } where
  table h := by
    simp only [states, List.mem_cons, List.mem_map, Prod.mk.injEq] at h
    obtain ⟨-, rfl⟩ | ⟨p, -, -, rfl⟩ := h <;> rfl
  history := rfl
  pending := rfl

/-- A new world over an empty directory; its deliveries lie an hour apart. -/
def scratch : World where
  machine := .start { intervalMs := 3600000 } (.ofHome ["scratch"]) (.memory []) .none

/-- The new world has not been used yet. -/
lemma fresh_scratch : scratch.Fresh :=
  fresh_start { intervalMs := 3600000 } (.ofHome ["scratch"]) .none (.memory []) []

/-- Every call of a run is made in a world in which `P` allows it. -/
def Throughout (P : World → Call → Prop) (w : World) : List (Time × Call) → Prop
  | [] => True
  | (now, c) :: calls =>
    P (w.atTime now) c ∧ Throughout P ((w.atTime now).call c).2 calls

instance decidableThroughout (P : World → Call → Prop) [∀ w c, Decidable (P w c)] :
    ∀ (w : World) (calls : List (Time × Call)), Decidable (Throughout P w calls)
  | _, [] => .isTrue trivial
  | w, (now, c) :: calls =>
    have := decidableThroughout P ((w.atTime now).call c).2 calls
    inferInstanceAs (Decidable (_ ∧ _))

/-- The first reply of a run is that of its first call. -/
lemma replies_cons (w : World) (now : Time) (c : Call) (calls : List (Time × Call)) :
    (w.run ((now, c) :: calls)).1 =
      ((w.atTime now).call c).1 :: (((w.atTime now).call c).2.run calls).1 := rfl

/-- A run splits at its calls. -/
lemma run_split (w : World) (before : List (Time × Call)) (now : Time) (c : Call)
    (after : List (Time × Call)) :
    (w.run (before ++ (now, c) :: after)).2 =
      ((((w.run before).2.atTime now).call c).2.run after).2 := by
  induction before generalizing w with
  | nil => simp only [List.nil_append, run]
  | cons entry before ih => exact ih _

/-- What the clock and every call keep is kept by a run. -/
lemma run_keeps {I : World → Prop} (time : ∀ {w} now, I w → I (w.atTime now))
    (call : ∀ {w} c, I w → I (w.call c).2) {w : World} (h : I w) (calls : List (Time × Call)) :
    I (w.run calls).2 := by
  induction calls generalizing w with
  | nil => exact h
  | cons entry calls ih => exact ih (call entry.2 (time entry.1 h))

/-- If a condition does not hold of every call of a run, there is a last call of which it does not. -/
lemma throughout_or_last (P : World → Call → Prop) (w : World) (calls : List (Time × Call)) :
    w.Throughout P calls ∨
      ∃ before now c after, calls = before ++ (now, c) :: after ∧
        ¬P ((w.run before).2.atTime now) c ∧
        (((w.run before).2.atTime now).call c).2.Throughout P after := by
  induction calls generalizing w with
  | nil => exact .inl trivial
  | cons entry calls ih =>
    obtain ⟨now, c⟩ := entry
    obtain hrest | ⟨before, later, d, after, rfl, hnot, hafter⟩ := ih ((w.atTime now).call c).2
    · by_cases hnow : P (w.atTime now) c
      · exact .inl ⟨hnow, hrest⟩
      · exact .inr ⟨[], now, c, calls, rfl, hnow, hrest⟩
    · exact .inr ⟨(now, c) :: before, later, d, after, rfl, hnot, hafter⟩

/-- What holds at the end of a run and not at its beginning came to hold by one of its calls, and held from
there on. -/
lemma exists_call_of_run {P : World → Prop} (time : ∀ {w} now, P (w.atTime now) → P w) {w : World}
    {calls : List (Time × Call)} (hend : P (w.run calls).2) (hstart : ¬P w) :
    ∃ before now c after, calls = before ++ (now, c) :: after ∧
      ¬P ((w.run before).2.atTime now) ∧ P (((w.run before).2.atTime now).call c).2 ∧
      Throughout (fun v _ => P v) (((w.run before).2.atTime now).call c).2 after := by
  -- Either it held all along, or there is a last call by which it came to hold.
  have hlast : (P w ∧ Throughout (fun v _ => P v) w calls) ∨
      ∃ before now c after, calls = before ++ (now, c) :: after ∧
        ¬P ((w.run before).2.atTime now) ∧ P (((w.run before).2.atTime now).call c).2 ∧
        Throughout (fun v _ => P v) (((w.run before).2.atTime now).call c).2 after := by
    clear hstart
    induction calls generalizing w with
    | nil => exact .inl ⟨hend, trivial⟩
    | cons entry calls ih =>
      obtain ⟨now, c⟩ := entry
      have hend : P (((w.atTime now).call c).2.run calls).2 := hend
      obtain ⟨hnext, hafter⟩ | ⟨before, later, d, after, rfl, hnot, hd, hafter⟩ := ih hend
      · by_cases hnow : P (w.atTime now)
        · exact .inl ⟨time now hnow, hnow, hafter⟩
        · exact .inr ⟨[], now, c, calls, rfl, hnow, hnext, hafter⟩
      · exact .inr ⟨(now, c) :: before, later, d, after, rfl, hnot, hd, hafter⟩
  exact hlast.resolve_left fun h => hstart h.1

/-! ## States -/

/-- What a call made of a state: a new one, or the one that was there, with one change to its table. -/
def Derived (w : World) (id : Nat) (s : IoState) : Prop :=
  s.table = .initial ∨ ∃ r, (id, r) ∈ w.states ∧ r.table.Change s.table

/-- States that were there are derived from themselves. -/
lemma Derived.of_mem {w : World} {id : Nat} {s : IoState} (h : (id, s) ∈ w.states) :
    w.Derived id s :=
  .inr ⟨s, h, .same⟩

/-- Exchanging states makes none. -/
lemma mem_states_of_swap {w : World} {n id : Nat} {s : IoState} (h : (id, s) ∈ (w.swap n).2.states) :
    (id, s) ∈ w.states := by
  simp only [swap] at h
  split at h
  · exact h
  · next state hl =>
    obtain ⟨before, after, hparked, -⟩ := List.lookup_eq_some_iff.mp hl
    have hstate : (n, state) ∈ w.parked := by simp [hparked]
    -- The state that is now active was parked, the one put aside was active, and the others stay.
    obtain h | h := List.mem_cons.mp h
    · cases h
      exact .tail _ hstate
    · obtain h | h := List.mem_cons.mp h
      · cases h
        exact .head _
      · exact .tail _ (List.mem_filter.mp h).1

/-- After a call every state was there before, or is new, or is what the call made of the active one. -/
lemma mem_states_call {w : World} (c : Call) {id : Nat} {s : IoState} (h : (id, s) ∈ (w.call c).2.states) :
    (id, s) ∈ w.states ∨ (∃ input, s = .memory input) ∨
      c.exchanges = false ∧ id = w.active ∧ s = (w.call c).2.machine.state := by
  have hkept (hc : c.exchanges = false) (hactive : (w.call c).2.active = w.active)
      (hparked : (w.call c).2.parked = w.parked) :
      (id, s) ∈ w.states ∨ (∃ input, s = .memory input) ∨
        c.exchanges = false ∧ id = w.active ∧ s = (w.call c).2.machine.state := by
    rw [states, hactive, hparked] at h
    obtain h | h := List.mem_cons.mp h
    · cases h
      exact .inr (.inr ⟨hc, rfl, rfl⟩)
    · exact .inl (.tail _ h)
  cases c with
  | swap n => exact .inl (mem_states_of_swap h)
  | parkNew input =>
    obtain h | h := List.mem_cons.mp h
    · cases h
      exact .inl (.head _)
    · obtain h | h := List.mem_cons.mp h
      · cases h
        exact .inr (.inl ⟨input, rfl⟩)
      · exact .inl (.tail _ h)
  | flushThrough handle force =>
    refine hkept rfl ?_ ?_ <;> simp only [call] <;> split <;> rfl
  | _ => exact hkept rfl rfl rfl

/-- A call that does not use the table leaves it alone. -/
lemma table_call {w : World} {c : Call} (hc : c.usesTable = false) :
    (w.call c).2.machine.state.table = w.machine.state.table := by
  refine (w.touches_call c).table ?_
  cases c <;> first | rfl | cases hc

/-- A call that works on a descriptor touches it. -/
lemma touch_call {w : World} {c : Call} {fd : Int} (hc : c.descriptor? = some fd) :
    w.machine.state.table.Touch fd (w.call c).2.machine.state.table := by
  cases c with
  | readFrom fd buffer => cases hc; exact w.machine.readFrom_touch _ buffer
  | writeTo fd bytes => cases hc; exact w.machine.writeTo_touch _ bytes
  | seek fd offset whence => cases hc; exact w.machine.seek_touch _ offset whence
  | closeFile fd => cases hc; exact w.machine.closeFile_touch _
  | _ => cases hc

/-- A call that keeps the active state does to its table one of the things that are listed. -/
lemma change_call {w : World} {c : Call} (hc : c.exchanges = false) :
    w.machine.state.table.Change (w.call c).2.machine.state.table := by
  cases c with
  | openFile name flags => exact w.machine.openFile_change name flags
  | readFrom | writeTo | seek | closeFile => exact (touch_call rfl).change
  | resetFiles => exact w.machine.resetFiles_change
  | swap => cases hc
  | _ => exact .of_eq (table_call rfl)

/-- After a call every state is new or derived from one that was there. -/
lemma derived_call {w : World} (c : Call) {id : Nat} {s : IoState}
    (h : (id, s) ∈ (w.call c).2.states) : w.Derived id s := by
  obtain h | ⟨input, rfl⟩ | ⟨hc, rfl, rfl⟩ := mem_states_call c h
  · exact .of_mem h
  · exact .inl rfl
  · exact .inr ⟨w.machine.state, .head _, change_call hc⟩

end World

end Hostcall
