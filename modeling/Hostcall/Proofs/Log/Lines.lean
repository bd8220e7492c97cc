import Hostcall.Table
import Mathlib.Tactic.Lemma

/-!
# What lines are about

A trace begins with the name of its kind in brackets and is about events of that kind only
(`LogEntry.isAbout_entry`). All other entries begin with a word and are about no event, among them those that
the table and the channels make (`Quiet.resetEntries`, `Quiet.reset`).
-/

namespace Hostcall

/-- Whether an entry is a line about an event of a kind. -/
def LogEntry.isAbout (e : LogEntry) (kind : TraceKind) : Bool :=
  (s!"[{kind.name}] ").toList.isPrefixOf e.message.toList

/-- Entries of which none is a line about a file call. -/
def Quiet (es : List LogEntry) : Prop :=
  ∀ e ∈ es, e.isAbout .syscall = false

namespace LogEntry

/-- An entry that begins with no bracket is about no event. -/
lemma isAbout_of_head? {e : LogEntry} (h : e.message.toList.head? ≠ some '[') (kind : TraceKind) :
    e.isAbout kind = false := by
  rw [isAbout]
  cases hm : e.message.toList with
  | nil => simp [toString]
  | cons c cs =>
    have hc : '[' ≠ c := by
      rintro rfl
      exact h (by rw [hm]; rfl)
    simp [toString, List.isPrefixOf, hc]

/-- A trace is about events of its own kind only. -/
lemma isAbout_entry (kind other : TraceKind) (message : String) :
    (LogEntry.mk .info .trace s!"[{kind.name}] {message}").isAbout other = decide (kind = other) := by
  cases kind <;> cases other <;> simp [isAbout, TraceKind.name, toString, List.isPrefixOf]

end LogEntry

namespace Quiet

/-- An entry that begins with no bracket is no line about a file call. -/
lemma single {e : LogEntry} (h : e.message.toList.head? ≠ some '[') : Quiet [e] := by
  intro e' hmem
  rw [List.mem_singleton.mp hmem]
  exact LogEntry.isAbout_of_head? h .syscall

/-- What is quiet one after the other is quiet together. -/
lemma append {es es' : List LogEntry} (h : Quiet es) (h' : Quiet es') : Quiet (es ++ es') :=
  fun e hmem => (List.mem_append.mp hmem).elim (h e) (h' e)

/-- Traces of other kinds are not about file calls. -/
lemma entries (traces : TraceSet) {kind : TraceKind} (h : kind ≠ .syscall) (message : String) :
    Quiet (traces.entries kind message) := by
  intro e hmem
  rw [TraceSet.entries] at hmem
  split at hmem
  · rw [List.mem_singleton.mp hmem, LogEntry.isAbout_entry, decide_eq_false h]
  · cases hmem

/-- Reserving a descriptor is not logged as a file call. -/
lemma reserveEntries (name : String) (flags : OpenFlags) (reserved : Except Fault (Int × Table)) :
    Quiet (Table.reserveEntries name flags reserved) := by
  cases reserved with
  | ok => exact single (by simp [toString])
  | error => exact nofun

/-- Releasing a descriptor is not logged as a file call. -/
lemma closeEntries (t : Table) (fd : Int) : Quiet (t.closeEntries fd) := by
  rw [Table.closeEntries]
  split
  · exact nofun
  · exact single (by simp [toString])

/-- Releasing all descriptors is not logged as a file call. -/
lemma resetEntries (t : Table) : Quiet t.resetEntries := by
  intro e hmem
  obtain ⟨fd, -, hmem⟩ := List.mem_flatMap.mp hmem
  exact closeEntries t fd e hmem

/-- What is said of a writer that was dropped is not about a file call. -/
lemma resetWarnings (channel : StdChannel) (outcome : Except HostError Unit) :
    Quiet (Console.Channels.resetWarnings channel outcome) := by
  cases outcome with
  | ok => exact nofun
  | error cause => exact single (by simp [toString])

/-- Dropping the writers is not logged as a file call. -/
lemma reset (channels : Console.Channels) : Quiet channels.reset.1 :=
  (resetWarnings _ _).append (resetWarnings _ _)

end Quiet

end Hostcall
