import Hostcall.Proofs.Machine.Frame

/-!
# Lines about file calls

Of all that is logged the lines about file calls are a machine's transcript. What a machine does about input,
output and sessions does not touch it, whatever else is logged, and neither does a file call until it ends.
Then it adds one line with its result, but a read or a write adds none if the table turns it away
(`transcript_readFrom`, `transcript_writeTo`).
-/

namespace Hostcall

open Pane

/-- The line about a file call. -/
def LogEntry.syscall (report : String) : LogEntry :=
  ⟨.info, .trace, "[Syscall] " ++ report⟩

/-- Lines about different reports differ. -/
lemma LogEntry.syscall_inj {first second : String} :
    LogEntry.syscall first = LogEntry.syscall second ↔ first = second := by
  simp [LogEntry.syscall]

/-- The lines about file calls so far, and whether there will be more. -/
structure Transcript where
  on : Bool
  lines : List LogEntry
  deriving DecidableEq

namespace Transcript

/-- Adds a line if file calls are traced. -/
def add (t : Transcript) (report : String) : Transcript :=
  if t.on then { t with lines := t.lines ++ [.syscall report] } else t

/-- Adds the lines of several file calls. -/
def addAll (t : Transcript) (reports : List String) : Transcript :=
  reports.foldl add t

/-- Adding lines does not change whether there will be more. -/
@[simp] lemma on_addAll (t : Transcript) (reports : List String) : (t.addAll reports).on = t.on := by
  induction reports generalizing t with
  | nil => rfl
  | cons report reports ih =>
    refine (ih _).trans ?_
    simp only [add]
    split <;> rfl

/-- Lines are added in turn. -/
lemma addAll_append (t : Transcript) (first second : List String) :
    t.addAll (first ++ second) = (t.addAll first).addAll second :=
  List.foldl_append

/-- Where file calls are traced, the lines are added behind those that there are. -/
lemma lines_addAll {t : Transcript} (h : t.on = true) (reports : List String) :
    (t.addAll reports).lines = t.lines ++ reports.map .syscall := by
  induction reports generalizing t with
  | nil => simp [addAll]
  | cons report reports ih =>
    have hadd : t.add report = { t with lines := t.lines ++ [.syscall report] } := if_pos h
    show ((t.add report).addAll reports).lines = _
    rw [hadd, ih (t := { t with lines := t.lines ++ [.syscall report] }) h]
    simp

end Transcript

namespace Machine

/-- What is told of file calls. -/
def transcript (m : Machine) : Transcript where
  on := m.traces.syscall
  lines := m.journal.filter (·.isAbout .syscall)

/-- A read or a write is turned away if its descriptor is not open for it. -/
def turnsAway (m : Machine) : Call → Bool
  | .readFrom fd _ => !m.state.table.isOpenFor fd .read
  | .writeTo fd _ => !m.state.table.isOpenFor fd .write
  | _ => false

variable {m n : Machine} {fd : Int}

/-- What touches neither the lines nor the choice of traces leaves the transcript alone. -/
lemma Touches.transcript {a : List Part} (h : m.Touches a n)
    (hp : [.traces, .lines].any a.contains = false) : n.transcript = m.transcript := by
  have hparts := h.parts hp
  have htraces : n.traces = m.traces := hparts .traces (by decide)
  have hlines : n.journal.filter (·.isAbout .syscall) = m.journal.filter (·.isAbout .syscall) :=
    hparts .lines (by decide)
  simp only [Machine.transcript, htraces, hlines]

/-- A trace of a file call is a line of the transcript. -/
@[simp] lemma transcript_trace_syscall (m : Machine) (report : String) :
    (m.trace .syscall report).transcript = m.transcript.add report := by
  have habout : (LogEntry.syscall report).isAbout .syscall = true := LogEntry.isAbout_entry .syscall .syscall report
  by_cases hon : m.traces.syscall = true
  · have hentries : m.traces.entries .syscall report = [.syscall report] := if_pos hon
    rw [trace, hentries]
    simp [transcript, log, Transcript.add, hon, habout]
  · have hentries : m.traces.entries .syscall report = [] := if_neg hon
    rw [trace, hentries]
    simp [transcript, log, Transcript.add, hon]

/-- That a call fails is no line of the transcript. -/
@[simp] lemma transcript_fail (m : Machine) (fault : Fault) : (m.fail fault).transcript = m.transcript :=
  (m.touches_fail fault).transcript rfl

/-! ## File calls -/

/-- Opening a file adds one line, with the descriptor or `-1`. -/
lemma transcript_openFile (m : Machine) (name : String) (flags : OpenFlags) :
    (m.openFile name flags).2.transcript = m.transcript.add
      s!"open({Text.quote name}, {OpenFlags.hex flags.bits}) = {(m.openFile name flags).1}" := by
  have htry := (m.touches_tryOpen name flags).transcript rfl
  simp only [openFile]
  split
  · next h =>
    rw [h] at htry
    rw [transcript_trace_syscall, ← htry]
    rfl
  · next h =>
    rw [h] at htry
    rw [transcript_trace_syscall, transcript_fail, htry]

/-- The line about a call that fails ends with the number that the call gives. -/
lemma line_of_failure (call : String) : call ++ ") = -1" = call ++ ") = " ++ toString (-1 : Int) := by
  rw [String.append_assoc]
  rfl

/-- Nothing is told of a read before it ends. -/
lemma transcript_readStream {count : Nat} {outcome : Except HostError (List UInt8)}
    (h : m.readStream fd count = some (outcome, n)) : n.transcript = m.transcript := by
  obtain ⟨-, hn⟩ | ⟨-, hn⟩ := touches_readStream h
  · exact hn.transcript rfl
  · exact hn.transcript rfl

/-- Nothing is told of a write before it ends. -/
lemma transcript_writeStream {bytes : List UInt8} {outcome : Except HostError Unit}
    (h : m.writeStream fd bytes = some (outcome, n)) : n.transcript = m.transcript := by
  obtain ⟨-, hn⟩ | ⟨-, hn⟩ := touches_writeStream h
  · exact hn.transcript rfl
  · exact hn.transcript rfl

/-- The end of a read adds one line, with what the read returns. -/
lemma transcript_endRead (m : Machine) (fd : Int) (buffer : List UInt8)
    (outcome : Except HostError Transfer) :
    ∃ n : Int, (m.endRead fd buffer outcome).1.result = .ok n ∧
      (m.endRead fd buffer outcome).2.transcript =
        m.transcript.add s!"read({fd}, {buffer.length}) = {n}" := by
  cases outcome with
  | ok t => exact ⟨_, rfl, m.transcript_trace_syscall _⟩
  | error cause =>
    refine ⟨-1, rfl, ?_⟩
    simp only [endRead, transcript_trace_syscall, transcript_fail]
    exact congrArg _ (line_of_failure _)

/-- A read that is let through adds one line, with what it returns, unless a prompt is cancelled. -/
lemma transcript_readFrom (b : m.state.table.Bound) (h : m.state.table.isOpenFor fd .read = true)
    (buffer : List UInt8) :
    (m.readFrom fd buffer).2.transcript = m.transcript.addAll
      ((m.readFrom fd buffer).1.result.toOption.map
        fun n => s!"read({fd}, {buffer.length}) = {n}").toList := by
  have hreq := Table.require_eq_ok_iff.mpr h
  have hended (v : Machine) (outcome) (hv : v.transcript = m.transcript) :
      (v.endRead fd buffer outcome).2.transcript = m.transcript.addAll
        ((v.endRead fd buffer outcome).1.result.toOption.map
          fun n => s!"read({fd}, {buffer.length}) = {n}").toList := by
    obtain ⟨n, hn, ht⟩ := v.transcript_endRead fd buffer outcome
    rw [hn, ht, hv]
    rfl
  by_cases hin : fd = StdChannel.input.fd
  · have hbytes := (m.touches_obtainBytes buffer.length).transcript rfl
    simp only [readFrom, hreq, if_pos hin]
    split <;> next hobtain =>
      rw [hobtain] at hbytes
      first | exact hbytes | exact hended _ _ hbytes
  · -- In a bound table there is a stream behind a descriptor that may be read.
    have hstream : m.readStream fd buffer.length ≠ none := by
      obtain ⟨hfd, -⟩ | ⟨i, s, f, -, -, -, hf, -⟩ := b.stream?_of_read hreq
      · exact absurd hfd hin
      · simp only [readStream, hf]
        split <;> simp
    simp only [readFrom, hreq, if_neg hin]
    split
    · next hnone => exact absurd hnone hstream
    · next hread => exact hended _ _ (transcript_readStream hread)

/-- The end of a write adds one line, with what the write returns. -/
lemma transcript_endWrite (m : Machine) (fd : Int) (bytes : List UInt8) (outcome : Except HostError Unit) :
    (m.endWrite fd bytes outcome).2.transcript =
      m.transcript.add s!"write({fd}, {bytes.length}) = {(m.endWrite fd bytes outcome).1}" := by
  cases outcome with
  | ok => exact m.transcript_trace_syscall _
  | error cause =>
    simp only [endWrite, transcript_trace_syscall, transcript_fail]
    exact congrArg _ (line_of_failure _)

/-- A write that is let through adds one line, with what it returns. -/
lemma transcript_writeTo (b : m.state.table.Bound) (h : m.state.table.isOpenFor fd .write = true)
    (bytes : List UInt8) :
    (m.writeTo fd bytes).2.transcript =
      m.transcript.add s!"write({fd}, {bytes.length}) = {(m.writeTo fd bytes).1}" := by
  have hreq := Table.require_eq_ok_iff.mpr h
  have hstandard (channel : StdChannel) : (m.writeStandard channel bytes).2.transcript = m.transcript :=
    (m.touches_writeStandard channel bytes).transcript rfl
  by_cases hout : fd = StdChannel.output.fd
  · simp only [writeTo, hreq, if_pos hout, transcript_endWrite, hstandard]
  by_cases herr : fd = StdChannel.error.fd
  · simp only [writeTo, hreq, if_neg hout, if_pos herr, transcript_endWrite, hstandard]
  · have hstream : m.writeStream fd bytes ≠ none := by
      obtain ⟨f, hf, -⟩ := b.file_of_write hreq hout herr
      simp only [writeStream, hf]
      split <;> simp
    simp only [writeTo, hreq, if_neg hout, if_neg herr]
    split
    · next hnone => exact absurd hnone hstream
    · next hwrite => rw [transcript_endWrite, transcript_writeStream hwrite]

/-- Moving in a file adds one line, with the new position or `-1`. -/
lemma transcript_seek (m : Machine) (fd offset whence : Int) :
    (m.seek fd offset whence).2.transcript =
      m.transcript.add s!"seek({fd}, {offset}, {whence}) = {(m.seek fd offset whence).1}" := by
  simp only [seek]
  split
  · next h =>
    rw [transcript_trace_syscall, (touches_trySeek h).transcript rfl]
  · simp only [transcript_trace_syscall, transcript_fail]

/-- Releasing a descriptor adds one line, whatever is behind it. -/
lemma transcript_closeFile (m : Machine) (fd : Int) :
    (m.closeFile fd).transcript = m.transcript.add s!"close({fd})" := by
  let n := m.trace .syscall s!"close({fd})"
  have hreleased : n.Touches [.table] (m.closeFile fd) :=
    (n.touches_log (.closeEntries m.state.table fd)).append (touches_setTable _ _)
  exact (hreleased.transcript rfl).trans (m.transcript_trace_syscall _)

/-! ## Calls that are turned away -/

/-- A read or a write that is turned away gives `-1`, and nothing is told of it. -/
lemma transcript_readFrom_refused (h : m.state.table.isOpenFor fd .read = false) (buffer : List UInt8) :
    (m.readFrom fd buffer).1.result = .ok (-1) ∧ (m.readFrom fd buffer).2.transcript = m.transcript := by
  simp only [readFrom, Table.require_eq_error_iff.mpr ⟨h, rfl⟩, transcript_fail, and_self]

/-- Of a write that is turned away nothing is told either. -/
lemma transcript_writeTo_refused (h : m.state.table.isOpenFor fd .write = false) (bytes : List UInt8) :
    (m.writeTo fd bytes).1 = -1 ∧ (m.writeTo fd bytes).2.transcript = m.transcript := by
  simp only [writeTo, Table.require_eq_error_iff.mpr ⟨h, rfl⟩, transcript_fail, and_self]

end Machine

end Hostcall
