import Hostcall.Proofs.Machine.Transcript
import Hostcall.Proofs.World.LastError
import Mathlib.Data.List.ReduceOption

/-!
# Which file calls are told

A file call that comes to an end with a number has one line to be told in, with that number, and releasing a
descriptor has one without a number (`Call.report?`). A call adds its line to the transcript unless it is turned
away (`transcript_call`), so that a run adds the lines of just those calls (`transcript_run`). These are all that
the replies of the run give cause for if and only if nothing is turned away (`reports_eq_told_iff`,
`traced_once_iff`).
-/

namespace Hostcall

open Pane

/-- The line in which a file call is told that gives a number. -/
def Call.line? : Call → Int → Option String
  | .openFile name flags, n => some s!"open({Text.quote name}, {OpenFlags.hex flags.bits}) = {n}"
  | .readFrom fd buffer, n => some s!"read({fd}, {buffer.length}) = {n}"
  | .writeTo fd bytes, n => some s!"write({fd}, {bytes.length}) = {n}"
  | .seek fd offset whence, n => some s!"seek({fd}, {offset}, {whence}) = {n}"
  | _, _ => none

/-- The line in which a call is told, from its reply. A cancelled read has none. -/
def Call.report? (c : Call) (reply : Reply) : Option String :=
  match c with
  | .closeFile fd => some s!"close({fd})"
  | c => reply.code?.bind c.line?

/-- A file call that gives a number is told in its line. -/
lemma Call.report?_of_line? {c : Call} {reply : Reply} {n : Int} {line : String} (hcode : reply.code? = some n)
    (hline : c.line? n = some line) : c.report? reply = some line := by
  have hbind : reply.code?.bind c.line? = some line := by
    rw [hcode]
    exact hline
  cases c with
  | closeFile => cases hline
  | _ => exact hbind

namespace World

variable {w : World} {c : Call}

/-- The line that a call adds: one that is turned away adds none. -/
def report? (w : World) (c : Call) : Option String :=
  if w.machine.turnsAway c then none else c.report? (w.call c).1

/-- The lines that the calls of a run add. -/
def reports (w : World) : List (Time × Call) → List String
  | [] => []
  | (now, c) :: calls =>
    ((w.atTime now).report? c).toList ++ ((w.atTime now).call c).2.reports calls

/-- The lines in which the calls of a run are told, from the replies alone. -/
def told (w : World) (calls : List (Time × Call)) : List String :=
  (List.zipWith (fun entry reply => entry.2.report? reply) calls (w.run calls).1).reduceOption

/-! ## One call -/

/-- A call that is turned away gives `-1` and leaves the transcript alone. -/
lemma refused_of_turnsAway (h : w.machine.turnsAway c = true) :
    (w.call c).1.code? = some (-1) ∧ (w.call c).2.machine.transcript = w.machine.transcript := by
  cases c with
  | readFrom fd buffer =>
    have hopen : w.machine.state.table.isOpenFor fd .read = false := by simpa [Machine.turnsAway] using h
    obtain ⟨hresult, hkept⟩ := Machine.transcript_readFrom_refused hopen buffer
    exact ⟨congrArg Except.toOption hresult, hkept⟩
  | writeTo fd bytes =>
    have hopen : w.machine.state.table.isOpenFor fd .write = false := by simpa [Machine.turnsAway] using h
    obtain ⟨hresult, hkept⟩ := Machine.transcript_writeTo_refused hopen bytes
    exact ⟨congrArg some hresult, hkept⟩
  | _ => cases h

/-- A call that is not told leaves the transcript alone. -/
lemma transcript_of_quiet (hc : w.report? c = none)
    (h : (w.call c).2.machine.transcript = w.machine.transcript) :
    (w.call c).2.machine.transcript = w.machine.transcript.addAll (w.report? c).toList := by
  rw [hc]
  exact h

/-- Every call adds its line, if it has one, and no other. -/
lemma transcript_call (b : w.machine.state.table.Bound) (c : Call) :
    (w.call c).2.machine.transcript = w.machine.transcript.addAll (w.report? c).toList := by
  by_cases hturns : w.machine.turnsAway c = true
  · rw [report?, if_pos hturns]
    exact (refused_of_turnsAway hturns).2
  have hlet : w.report? c = c.report? (w.call c).1 := if_neg hturns
  cases c with
  | openFile name flags =>
    rw [hlet]
    exact w.machine.transcript_openFile name flags
  | readFrom fd buffer =>
    have htold := Machine.transcript_readFrom b (by simpa [Machine.turnsAway] using hturns) buffer
    rw [Option.map_eq_bind] at htold
    rw [hlet]
    exact htold
  | writeTo fd bytes =>
    rw [hlet]
    exact Machine.transcript_writeTo b (by simpa [Machine.turnsAway] using hturns) bytes
  | seek fd offset whence =>
    rw [hlet]
    exact w.machine.transcript_seek fd offset whence
  | closeFile fd => exact w.machine.transcript_closeFile fd
  | flushThrough | swap =>
    exact transcript_of_quiet (Option.bind_fun_none _) ((w.touches_call _).transcript rfl)
  | _ => exact transcript_of_quiet rfl ((w.touches_call _).transcript rfl)

/-- Where file calls are traced, the line of a call is the only one that it adds. -/
lemma lines_call (b : w.machine.state.table.Bound) (traced : w.machine.traces.syscall = true) (c : Call) :
    (w.call c).2.machine.transcript.lines =
      w.machine.transcript.lines ++ (w.report? c).toList.map .syscall := by
  rw [transcript_call b c]
  exact Transcript.lines_addAll traced _

/-! ## Runs -/

/-- A run adds the lines of its calls. -/
lemma transcript_run (b : w.Bound) (calls : List (Time × Call)) :
    (w.run calls).2.machine.transcript = w.machine.transcript.addAll (w.reports calls) := by
  induction calls generalizing w with
  | nil => rfl
  | cons entry calls ih =>
    obtain ⟨now, c⟩ := entry
    have bound := b.atTime now
    have hstep := transcript_call bound.active c
    refine (ih (bound.call c)).trans ?_
    rw [hstep, reports, Transcript.addAll_append]
    rfl

/-- The first reply of a run tells of its first call. -/
lemma told_cons (w : World) (now : Time) (c : Call) (calls : List (Time × Call)) :
    w.told ((now, c) :: calls) =
      (c.report? ((w.atTime now).call c).1).toList ++ ((w.atTime now).call c).2.told calls := by
  rw [told, replies_cons, List.zipWith_cons_cons]
  cases c.report? ((w.atTime now).call c).1 with
  | none => exact List.reduceOption_cons_of_none _
  | some report => exact List.reduceOption_cons_of_some _ _

/-- A call that is turned away has a line all the same. -/
lemma report?_of_turnsAway (h : w.machine.turnsAway c = true) :
    ∃ line, c.report? (w.call c).1 = some line := by
  have hcode := (refused_of_turnsAway h).1
  cases c with
  | readFrom | writeTo => exact ⟨_, Call.report?_of_line? hcode rfl⟩
  | _ => cases h

/-- A run adds no more lines than its replies give cause for. -/
lemma length_reports_le (w : World) (calls : List (Time × Call)) :
    (w.reports calls).length ≤ (w.told calls).length := by
  induction calls generalizing w with
  | nil => exact le_rfl
  | cons entry calls ih =>
    obtain ⟨now, c⟩ := entry
    have hcall : ((w.atTime now).report? c).toList.length ≤
        (c.report? ((w.atTime now).call c).1).toList.length := by
      rw [report?]
      split <;> simp
    rw [told_cons, reports, List.length_append, List.length_append]
    exact Nat.add_le_add hcall (ih _)

/-- All lines that the replies give cause for are added exactly if nothing is turned away. -/
lemma reports_eq_told_iff (w : World) (calls : List (Time × Call)) :
    w.reports calls = w.told calls ↔ w.Throughout (fun u c => u.machine.turnsAway c = false) calls := by
  induction calls generalizing w with
  | nil => exact iff_of_true rfl trivial
  | cons entry calls ih =>
    obtain ⟨now, c⟩ := entry
    rw [told_cons, reports, Throughout, ← ih]
    cases hturns : (w.atTime now).machine.turnsAway c with
    | false => simp [report?, hturns]
    | true =>
      -- The line that is missing is made up for by none of the later ones.
      obtain ⟨report, hreport⟩ := report?_of_turnsAway hturns
      have hle := length_reports_le ((w.atTime now).call c).2 calls
      refine iff_of_false ?_ nofun
      intro heq
      have hlength := congrArg List.length heq
      simp [report?, hturns, hreport] at hlength
      omega

/-- Every file call is told once, with its result, unless it is turned away.

Once file calls are traced, after any run, a file call that gives a number adds one line, with that number, if
and only if the table does not turn it away; if it does, the number is `-1` and nothing is added. Releasing a
descriptor always adds one line. All else, a cancelled read among it, adds none. So the lines of a run are
those of its completed calls, in their order, if and only if no call of the run was turned away. -/
theorem traced_once_iff (fresh : w.Fresh) (traced : w.machine.traces.syscall = true)
    (calls : List (Time × Call)) :
    let v := (w.run calls).2
    (∀ now c, let u := v.atTime now
      let before := u.machine.transcript.lines
      let after := (u.call c).2.machine.transcript.lines
      (∀ n line, (u.call c).1.code? = some n → c.line? n = some line →
        (after = before ++ [.syscall line] ↔ u.machine.turnsAway c = false) ∧
        (u.machine.turnsAway c = true → n = -1 ∧ after = before)) ∧
      (∀ fd, c = .closeFile fd → after = before ++ [.syscall s!"close({fd})"]) ∧
      (c.report? (u.call c).1 = none → after = before)) ∧
    (v.machine.transcript.lines = w.machine.transcript.lines ++ (w.told calls).map .syscall ↔
      w.Throughout (fun u c => u.machine.turnsAway c = false) calls) := by
  intro v
  have hrun : v.machine.transcript = w.machine.transcript.addAll (w.reports calls) :=
    transcript_run fresh.bound calls
  constructor
  · intro now c u before after
    have still : u.machine.traces.syscall = true := by
      have hon := congrArg Transcript.on hrun
      rw [Transcript.on_addAll] at hon
      exact hon.trans traced
    have bound : u.Bound := (fresh.bound.run calls).atTime now
    have hadded : after = before ++ (u.report? c).toList.map .syscall := lines_call bound.active still c
    refine ⟨fun n line hcode hline => ?_, ?_, ?_⟩
    · cases hturns : u.machine.turnsAway c with
      | false =>
        have hreport : u.report? c = some line := by
          rw [report?, hturns, if_neg nofun, Call.report?_of_line? hcode hline]
        rw [hadded, hreport]
        simp
      | true =>
        obtain ⟨hminus, hkept⟩ := refused_of_turnsAway hturns
        rw [hminus] at hcode
        obtain rfl := Option.some.inj hcode
        have hsame : after = before := congrArg Transcript.lines hkept
        simp [hsame]
    · rintro fd rfl
      exact hadded
    · intro hnone
      have hreport : u.report? c = none := by
        rw [report?, hnone, ite_self]
      rw [hadded, hreport]
      exact List.append_nil _
  · have hlines : v.machine.transcript.lines =
        w.machine.transcript.lines ++ (w.reports calls).map .syscall := by
      rw [hrun]
      exact Transcript.lines_addAll traced _
    rw [hlines, List.append_cancel_left_eq, List.map_inj_right fun _ _ => LogEntry.syscall_inj.mp]
    exact reports_eq_told_iff w calls

/-- A new world over an empty directory, in which everything is traced. -/
def watched : World where
  machine := .start {} (.ofHome ["scratch"]) (.memory []) .all

/-- The watched world has not been used yet. -/
lemma fresh_watched : watched.Fresh :=
  fresh_start {} (.ofHome ["scratch"]) .all (.memory []) []

/-- A file is written, and moving in it fails; both are told, and so is the release of a descriptor that was
never open. -/
theorem traced_once_iff_written :
    let calls : List (Time × Call) :=
      [(0, .openFile "notes" .writeOnly), (1, .writeTo 3 [104, 105]), (2, .print "x"), (3, .seek 3 0 0),
        (4, .closeFile 9)]
    let v := (watched.run calls).2
    watched.Fresh ∧ watched.machine.traces.syscall = true ∧
    watched.Throughout (fun u c => u.machine.turnsAway c = false) calls ∧
    v.machine.transcript.lines = [.syscall "open(\"notes\", 0x1) = 3", .syscall "write(3, 2) = 2",
      .syscall "seek(3, 0, 0) = -1", .syscall "close(9)"] ∧
    ((v.atTime 5).call (.writeTo 3 [33])).2.machine.transcript.lines =
      v.machine.transcript.lines ++ [.syscall "write(3, 1) = 1"] := by
  intro calls v
  obtain ⟨step, all⟩ := traced_once_iff fresh_watched rfl calls
  have hlet : watched.Throughout (fun u c => u.machine.turnsAway c = false) calls := by decide +kernel
  refine ⟨fresh_watched, rfl, hlet, (all.mpr hlet).trans (by decide +kernel), ?_⟩
  exact ((step 5 (.writeTo 3 [33])).1 1 _ (by decide +kernel) (by decide +kernel)).1.mpr (by decide +kernel)

/-- A read from a descriptor that was never opened gives `-1`, and no line says so. -/
theorem refused_read_untold :
    let c : Call := .readFrom 9 [0]
    let after := (watched.call c).2.machine.transcript.lines
    watched.Fresh ∧ watched.machine.traces.syscall = true ∧ (watched.call c).1.code? = some (-1) ∧
    c.line? (-1) = some "read(9, 1) = -1" ∧ ∀ line, after ≠ watched.machine.transcript.lines ++ [line] := by
  intro c after
  have hafter : after = [] := by decide +kernel
  refine ⟨fresh_watched, rfl, by decide +kernel, by decide +kernel, fun line heq => ?_⟩
  rw [hafter] at heq
  exact List.append_ne_nil_of_right_ne_nil _ (List.cons_ne_nil line []) heq.symm

end World

end Hostcall
