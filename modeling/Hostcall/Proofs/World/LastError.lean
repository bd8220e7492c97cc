import Hostcall.Proofs.Machine.Failures
import Hostcall.Proofs.World.Streams

/-!
# The text of the last error

A call that fails is the only one that leaves a message, its own, and gives `-1`; of the others only one that
opens a file touches the text (`verdict_call`, `code_of_fails`). So after any run the text is what the last
call told that told anything (`told_last`, `last_error_tells`).
-/

namespace Hostcall

open Pane

/-- The number that a file call gives to the guest. -/
def Reply.code? : Reply → Option Int
  | .code n => some n
  | .read r => r.result.toOption
  | _ => none

namespace World

variable {w : World} {c : Call} {fault : Fault}

/-- A call leaves the text of the last error as it is: it does not fail and opens no file. -/
def Silent (w : World) (c : Call) : Prop :=
  c.opens = false ∧ ∀ fault, ¬w.machine.Fails c fault

/-- A call that gives no number, opens no file and does not touch the last error is fine. -/
lemma verdict_of_untouched (hc : c.opens = false) (hcode : (w.call c).1.code? = none)
    (hp : c.touched.contains .lastError = false) :
    w.machine.Verdict c (w.call c).1.code? (w.call c).2.machine.lastError := by
  rw [hcode, (w.touches_call c).lastError hp]
  exact .fine hc nofun

/-- Every call comes out in one of the ways that are listed. -/
lemma verdict_call (b : w.machine.state.table.Bound) (c : Call) :
    w.machine.Verdict c (w.call c).1.code? (w.call c).2.machine.lastError := by
  cases c with
  | openFile name flags => exact w.machine.openFile_verdict name flags
  | readFrom fd buffer => exact Machine.readFrom_verdict b fd buffer
  | writeTo fd bytes => exact Machine.writeTo_verdict b fd bytes
  | seek fd offset whence => exact Machine.seek_verdict b fd offset whence
  | flushThrough handle force =>
    refine verdict_of_untouched rfl ?_ rfl
    simp only [call]
    split <;> rfl
  | swap id =>
    refine verdict_of_untouched rfl ?_ rfl
    simp only [call, swap]
    split <;> rfl
  | _ => exact verdict_of_untouched rfl rfl rfl

/-! ## Calls that fail -/

/-- A file that is refused is not opened. -/
lemma openFile_of_refusal {m : Machine} {name : String} {flags : OpenFlags}
    (h : m.Refusal name flags fault) :
    (m.openFile name flags).1 = -1 ∧ (m.openFile name flags).2.lastError = fault.message := by
  have htry := Machine.tryOpen_of_refusal h
  simp only [Machine.openFile]
  split
  · next ho =>
    rw [ho] at htry
    cases htry
  · next ho =>
    rw [ho] at htry
    cases htry
    exact ⟨rfl, rfl⟩

/-- A call that fails gives `-1` and leaves the message of its fault. -/
lemma code_of_fails (b : w.machine.state.table.Bound) (h : w.machine.Fails c fault) :
    (w.call c).1.code? = some (-1) ∧ (w.call c).2.machine.lastError = fault.message := by
  cases h with
  | refused refusal =>
    obtain ⟨hcode, htext⟩ := openFile_of_refusal refusal
    exact ⟨congrArg some hcode, htext⟩
  | @notOpen _ fd need hfd hneed hopen =>
    have hreq : w.machine.state.table.require fd need = .error (.notOpen fd need) := by
      simp [Table.require_eq_error_iff, hopen]
    cases c with
    | readFrom fd buffer =>
      cases hfd
      cases hneed
      simp only [call, Machine.readFrom, hreq]
      exact ⟨rfl, rfl⟩
    | writeTo fd bytes =>
      cases hfd
      cases hneed
      simp only [call, Machine.writeTo, hreq]
      exact ⟨rfl, rfl⟩
    | seek fd offset whence =>
      cases hfd
      cases hneed
      simp only [call, Machine.seek, Machine.trySeek, hreq]
      exact ⟨rfl, rfl⟩
    | _ => cases hneed
  | console ha hread =>
    simp only [call, Machine.readFrom, b.require_read, if_true, Machine.obtainBytes_of_detached ha, hread]
    exact ⟨rfl, rfl⟩
  | @outlet channel bytes cause hchannel ha hwrite =>
    cases channel with
    | input => exact absurd rfl hchannel
    | output =>
      simp only [call, Machine.writeTo, b.require_write hchannel, if_true,
        Machine.writeStandard_of_detached ha, hwrite]
      exact ⟨rfl, rfl⟩
    | error =>
      have hne : StdChannel.error.fd ≠ StdChannel.output.fd := by decide
      simp only [call, Machine.writeTo, b.require_write hchannel, if_true, if_neg hne,
        Machine.writeStandard_of_detached ha, hwrite]
      exact ⟨rfl, rfl⟩
  | @file fd bytes f cause hopen hstream hwrite =>
    -- Behind the outputs are their channels, so that a host file is written through its own stream.
    have hne (channel : StdChannel) : fd ≠ channel.fd := by
      rintro rfl
      rw [b.stream?_standard] at hstream
      cases hstream
    simp only [call, Machine.writeTo, Table.require_eq_ok_iff.mpr hopen, if_neg (hne .output),
      if_neg (hne .error), Machine.writeStream, hstream, hwrite]
    exact ⟨rfl, rfl⟩
  | seekBase hopen hw =>
    simp only [call, Machine.seek, Machine.trySeek, Table.require_eq_ok_iff.mpr hopen, hw]
    exact ⟨rfl, rfl⟩
  | notSeekable hopen hw hstream =>
    simp only [call, Machine.seek, Machine.trySeek, Table.require_eq_ok_iff.mpr hopen, hw, hstream]
    exact ⟨rfl, rfl⟩
  | @seekTarget fd offset whence v f hopen hw hstream hrange =>
    have htry := Machine.trySeek_file offset (Table.require_eq_ok_iff.mpr hopen) hw hstream
    rw [if_neg hrange] at htry
    simp only [call, Machine.seek, htry]
    exact ⟨rfl, rfl⟩

/-- What a call gives and leaves: the message of what made it fail, or a number that is not negative and a
text that only opening a file touches. -/
lemma call_tells (b : w.machine.state.table.Bound) (c : Call) :
    (∀ fault, w.machine.Fails c fault →
      (w.call c).1.code? = some (-1) ∧ (w.call c).2.machine.lastError = fault.message) ∧
    ((∀ fault, ¬w.machine.Fails c fault) →
      (∀ code ∈ (w.call c).1.code?, 0 ≤ code) ∧
      (w.call c).2.machine.lastError = if c.opens then noError else w.machine.lastError) := by
  refine ⟨fun fault h => code_of_fails b h, ?_⟩
  intro hfails
  have verdict := verdict_call b c
  generalize (w.call c).1.code? = code at verdict ⊢
  generalize (w.call c).2.machine.lastError = text at verdict ⊢
  cases verdict with
  | failed h => exact absurd h (hfails _)
  | opened hc hfd =>
    rw [if_pos hc]
    refine ⟨?_, rfl⟩
    rintro _ ⟨⟩
    exact hfd
  | fine hc hcode =>
    rw [hc]
    exact ⟨hcode, rfl⟩

/-! ## Runs -/

/-- Calls that are silent leave the text as it was. -/
lemma lastError_of_silent (b : w.Bound) {calls : List (Time × Call)} (h : w.Throughout Silent calls) :
    (w.run calls).2.machine.lastError = w.machine.lastError := by
  induction calls generalizing w with
  | nil => rfl
  | cons entry calls ih =>
    obtain ⟨now, c⟩ := entry
    obtain ⟨⟨hopens, hfails⟩, hrest⟩ := h
    have bound := b.atTime now
    have hstep := ((call_tells bound.active c).2 hfails).2
    rw [hopens] at hstep
    exact (ih (bound.call c) hrest).trans hstep

/-- A call that is followed by silent ones told the text in the end, if it was not silent itself. -/
lemma told_last (b : w.Bound) {now : Time} {after : List (Time × Call)}
    (hnot : ¬(w.atTime now).Silent c) (hafter : ((w.atTime now).call c).2.Throughout Silent after) :
    let text := (w.run ((now, c) :: after)).2.machine.lastError
    (∃ fault, (w.atTime now).machine.Fails c fault ∧ text = fault.message) ∨
      c.opens = true ∧ (∀ fault, ¬(w.atTime now).machine.Fails c fault) ∧ text = noError := by
  have bound := b.atTime now
  have hkept : (w.run ((now, c) :: after)).2.machine.lastError = _ :=
    lastError_of_silent (bound.call c) hafter
  obtain ⟨hfailed, hfine⟩ := call_tells bound.active c
  by_cases hfails : ∃ fault, (w.atTime now).machine.Fails c fault
  · obtain ⟨fault, h⟩ := hfails
    exact .inl ⟨fault, h, hkept.trans (hfailed fault h).2⟩
  · have hnone := not_exists.mp hfails
    -- The call is not silent and does not fail, so that it opens a file.
    have hopens : c.opens = true := by
      by_contra hc
      exact hnot ⟨by simpa using hc, hnone⟩
    have htext := (hfine hnone).2
    rw [if_pos hopens] at htext
    exact .inr ⟨hopens, hnone, hkept.trans htext⟩

/-- The text of the last error describes the last file call that had an outcome to report.

After any run, a call that fails gives `-1` and leaves the message of what made this very call fail. A call
that does not fail gives no negative number; it leaves the text as it was, unless it opens a file, which is
reported as a success. So after the run the text is what the last call left that failed or opened a file, or
what it was in the beginning if there was no such call. -/
theorem last_error_tells (fresh : w.Fresh) (calls : List (Time × Call)) :
    let v := (w.run calls).2
    (∀ now c, let u := v.atTime now
      (∀ fault, u.machine.Fails c fault →
        (u.call c).1.code? = some (-1) ∧ (u.call c).2.machine.lastError = fault.message) ∧
      ((∀ fault, ¬u.machine.Fails c fault) →
        (∀ code ∈ (u.call c).1.code?, 0 ≤ code) ∧
        (u.call c).2.machine.lastError = if c.opens then noError else v.machine.lastError)) ∧
    (w.Throughout Silent calls ∧ v.machine.lastError = w.machine.lastError ∨
      ∃ before now c after, calls = before ++ (now, c) :: after ∧
        let u := (w.run before).2.atTime now
        (u.call c).2.Throughout Silent after ∧
        ((∃ fault, u.machine.Fails c fault ∧ v.machine.lastError = fault.message) ∨
          c.opens = true ∧ (∀ fault, ¬u.machine.Fails c fault) ∧ v.machine.lastError = noError)) := by
  intro v
  refine ⟨fun now c => call_tells ((fresh.bound.run calls).atTime now).active c, ?_⟩
  obtain hsilent | ⟨before, now, c, after, rfl, hnot, hafter⟩ := throughout_or_last Silent w calls
  · exact .inl ⟨hsilent, lastError_of_silent fresh.bound hsilent⟩
  · have hrun : v = ((w.run before).2.run ((now, c) :: after)).2 := run_split w before now c after
    refine .inr ⟨before, now, c, after, rfl, hafter, ?_⟩
    rw [hrun]
    exact told_last (fresh.bound.run before) hnot hafter

/-- A file that was opened for writing cannot be read; closing it afterwards leaves that message, and moving
in it then leaves one of its own. -/
theorem last_error_tells_not_open :
    let calls : List (Time × Call) :=
      [(0, .openFile "notes" .writeOnly), (1, .readFrom 3 [0, 0]), (2, .print "x")]
    let v := (scratch.run calls).2
    scratch.Fresh ∧ v.machine.lastError = "File descriptor 3 is not open for reading" ∧
    ((v.atTime 3).call (.closeFile 3)).2.machine.lastError = v.machine.lastError ∧
    (v.atTime 3).machine.Fails (.seek 7 0 0) (.notOpen 7 .read) ∧
    ((v.atTime 3).call (.seek 7 0 0)).1.code? = some (-1) ∧
    ((v.atTime 3).call (.seek 7 0 0)).2.machine.lastError = "File descriptor 7 is not open for reading" := by
  intro calls v
  obtain ⟨step, -⟩ := last_error_tells fresh_scratch calls
  have hclose : ∀ fault, ¬(v.atTime 3).machine.Fails (.closeFile 3) fault := by
    intro fault h
    cases h with
    | notOpen _ hneed => cases hneed
  have hseek : (v.atTime 3).machine.Fails (.seek 7 0 0) (.notOpen 7 .read) :=
    .notOpen rfl rfl (by decide +kernel)
  obtain ⟨hcode, htext⟩ := (step 3 (.seek 7 0 0)).1 _ hseek
  refine ⟨fresh_scratch, by decide +kernel, ((step 3 (.closeFile 3)).2 hclose).2, hseek, hcode, ?_⟩
  exact htext.trans (by decide +kernel)

end World

end Hostcall
