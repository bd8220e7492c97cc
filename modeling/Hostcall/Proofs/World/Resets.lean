import Hostcall.Proofs.Console.Accounting
import Hostcall.Proofs.Machine.Sources
import Hostcall.Proofs.Pane.Windows

/-!
# A reset starts a clean session

A reset puts the descriptor table back and drops both writers, the output held for a front end and what was
read of the static field. What the writers held is in their sinks before they go, unless a sink refuses it, and
that is logged (`Outlet.Dropped`); what was held for a front end is posted there. Nothing else changes
(`resetFiles_eq`), and a second reset changes nothing at all (`resetFiles_cleaned`). In a run whose front ends
stay as attached as they are no text is lost (`reset_starts_clean`); a device without room does lose bytes
(`reset_drops_refused`).
-/

namespace Hostcall

open Pane

/-! ## Writers -/

namespace Console

/-- What a reset makes of the outlet of a channel: the writer is gone, and the bytes that it held are in the
sink, or the sink is one that refuses bytes, nothing got there, and there is a warning for the channel. -/
structure Outlet.Dropped (o : Outlet) (channel : StdChannel) (entries : List LogEntry) (p : Outlet) :
    Prop where
  gone : p.pending = none
  arrived : p.sink.received = o.sink.received ++ o.held ∨
    (∀ taken, o.sink ≠ .roomy taken) ∧ p.sink.received = o.sink.received ∧ ∃ cause : HostError,
      ⟨.warn, .channels, s!"ignoring flush failure on {channel.name}: {cause.message}"⟩ ∈ entries

/-- A device without room keeps bytes in its line or refuses them. -/
lemma Sink.put_full (line bytes : List UInt8) :
    (full line).put bytes = .ok (.full (line ++ bytes)) ∨ (full line).put bytes = .error .noSpace := by
  by_cases hbytes : bytes = []
  · exact .inl (by simp [put, hbytes])
  simp only [put, if_neg hbytes]
  split
  · exact .inr rfl
  · split
    · exact .inl rfl
    · exact .inr rfl

/-- A line that a device without room keeps does not get there. -/
lemma Sink.sync_full {line : List UInt8} (h : line ≠ []) : (full line).sync = .error .noSpace := by
  cases line with
  | nil => exact absurd rfl h
  | cons => rfl

/-- Nothing gets to a device without room, and a writer that holds anything learns that when it is flushed. -/
lemma Outlet.flush_full {o : Outlet} {line : List UInt8} (h : o.sink = .full line) :
    o.flush.2.sink.received = [] ∧ (o.held ≠ [] → o.flush.1 = .error .noSpace) := by
  obtain hput | hput := Sink.put_full line o.held
  · simp only [flush, spill, h, hput]
    exact ⟨rfl, fun hheld => Sink.sync_full (by simp [hheld])⟩
  · simp only [flush, spill, h, hput]
    exact ⟨rfl, fun _ => trivial⟩

/-- A reset drops the writer, if there is one. -/
lemma Outlet.dropped_reset (o : Outlet) (channel : StdChannel) :
    o.Dropped channel (Channels.resetWarnings channel o.reset.1) o.reset.2 := by
  unfold reset
  cases hpending : o.pending with
  | none =>
    have hheld : o.held = [] := by simp [held, hpending]
    exact ⟨hpending, .inl (by simp [hheld])⟩
  | some bytes =>
    refine ⟨rfl, ?_⟩
    cases hsink : o.sink with
    | roomy taken => exact .inl (by simp [flush_roomy hsink, Sink.received])
    | full line =>
      obtain ⟨hreceived, hrefused⟩ := flush_full hsink
      by_cases hheld : o.held = []
      · refine .inl ?_
        rw [hheld, List.append_nil]
        exact hreceived
      · exact .inr ⟨by simp, hreceived, .noSpace, by simp [hrefused hheld, Channels.resetWarnings]⟩

/-- More entries keep the warning. -/
lemma Outlet.Dropped.mono {o p : Outlet} {channel : StdChannel} {entries more : List LogEntry}
    (h : o.Dropped channel entries p) (hsub : entries ⊆ more) : o.Dropped channel more p where
  gone := h.gone
  arrived := h.arrived.imp_right fun ⟨hsink, hreceived, cause, hmem⟩ =>
    ⟨hsink, hreceived, cause, hsub hmem⟩

end Console

/-! ## One reset -/

namespace Machine

variable {m : Machine}

/-- What a reset posts: the output held for a front end, to the one that is attached. -/
def Posts (m : Machine) (events : List Event) : Prop :=
  m.coalescer.pending = "" ∧ events = [] ∨
    ∃ id f, m.attached? = some (id, f) ∧ m.coalescer.pending ≠ "" ∧ events = [.posted id m.coalescer.pending]

/-- A machine as a reset leaves it, with what became of its outlets, what was posted and what was logged. -/
def cleaned (m : Machine) (output error : Console.Outlet) (posts : List Event) (entries : List LogEntry) :
    Machine :=
  { m with
    state := ⟨.initial, { m.state.channels with output, error }⟩
    coalescer := { interval := m.coalescer.interval }
    fieldRest := none
    history := m.history ++ posts
    journal := m.journal ++ entries }

/-- Where nothing is held for a front end, a flush does nothing. -/
lemma flush_of_pending (h : m.coalescer.pending = "") (force : Bool) : m.flush force = m := by
  simp only [flush]
  split
  · rfl
  · exact flushThrough_of_pending h _ _

/-- The end of a session posts what is held, if it has a receiver. -/
lemma endSession_eq (held : m.coalescer.pending ≠ "" → m.attached? ≠ none) :
    ∃ posts entries, m.Posts posts ∧ m.endSession = { m with
      coalescer := { interval := m.coalescer.interval }
      fieldRest := none
      history := m.history ++ posts
      journal := m.journal ++ entries } := by
  by_cases hp : m.coalescer.pending = ""
  · refine ⟨[], [], .inl ⟨hp, rfl⟩, ?_⟩
    rw [endSession, flush_of_pending hp true]
    simp [Coalescer.clear]
  · obtain ⟨⟨id, f⟩, ha⟩ := Option.ne_none_iff_exists'.mp (held hp)
    obtain ⟨es, hdeliver⟩ := m.deliver_eq id (.flush true)
    refine ⟨[.posted id m.coalescer.pending], es, .inr ⟨id, f, ha, hp, rfl⟩, ?_⟩
    simp only [endSession, flush, ha, hdeliver]
    simp [Coalescer.apply, Coalescer.flush, hp, Coalescer.clear, log]

/-- What a reset of the files does, and that it does nothing else. -/
lemma resetFiles_eq (held : m.coalescer.pending ≠ "" → m.attached? ≠ none) :
    ∃ output error posts entries,
      m.state.channels.output.Dropped .output entries output ∧
      m.state.channels.error.Dropped .error entries error ∧ m.Posts posts ∧
      m.resetFiles = m.cleaned output error posts entries := by
  let output := m.state.channels.output.reset.2
  let error := m.state.channels.error.reset.2
  let warnings := m.state.channels.reset.1
  -- The machine when the session with the pane ends.
  let n : Machine := { m with
    state := ⟨.initial, { m.state.channels with output, error }⟩
    journal := m.journal ++ (m.state.table.resetEntries ++ warnings) }
  have hn : m.resetFiles = n.endSession := by
    simp only [resetFiles, log, setTable, setChannels, Console.Channels.reset, Table.reset_eq_initial,
      List.append_assoc]
    rfl
  obtain ⟨posts, es, hposts, hend⟩ := endSession_eq (m := n) held
  refine ⟨output, error, posts, m.state.table.resetEntries ++ warnings ++ es, ?_, ?_, hposts, ?_⟩
  · refine (m.state.channels.output.dropped_reset .output).mono fun e he => ?_
    simp [warnings, Console.Channels.reset, he]
  · refine (m.state.channels.error.dropped_reset .error).mono fun e he => ?_
    simp [warnings, Console.Channels.reset, he]
  · rw [hn, hend]
    simp only [cleaned, n, List.append_assoc]

/-- Channels without writers have nothing to reset. -/
lemma reset_of_dropped {c : Console.Channels} (houtput : c.output.pending = none)
    (herror : c.error.pending = none) : c.reset = ([], c) := by
  simp [Console.Channels.reset, Console.Outlet.reset, houtput, herror, Console.Channels.resetWarnings]

/-- A machine as a reset leaves it is left alone by the next. -/
lemma resetFiles_cleaned {output error : Console.Outlet} (houtput : output.pending = none)
    (herror : error.pending = none) (posts : List Event) (entries : List LogEntry) :
    (m.cleaned output error posts entries).resetFiles = m.cleaned output error posts entries := by
  have hentries : Table.resetEntries .initial = [] := by decide +kernel
  have hchannels := reset_of_dropped (c := { m.state.channels with output, error }) houtput herror
  have hend : (m.cleaned output error posts entries).resetFiles =
      (m.cleaned output error posts entries).endSession := by
    simp only [resetFiles, cleaned, hentries, log_nil, setTable, Table.reset_eq_initial, hchannels,
      setChannels]
  rw [hend, endSession, flush_of_pending rfl true]
  rfl

/-- In a session that has not begun to read the field, all of it is left. -/
lemma fieldBytes_of_unread {id : FrontEndId} {f : FrontEnd} (hrest : m.fieldRest = none)
    (hf : m.fronts[id]? = some f) : m.fieldBytes id = Utf8.encode f.field := by
  rw [fieldBytes, hrest, hf]
  rfl

end Machine

/-! ## Runs -/

namespace Pane.Screen

/-- A delivery does not change the interval. -/
@[simp] lemma interval_deliver (s : Screen) (id : FrontEndId) (action : Action) :
    (s.deliver id action).coalescer.interval = s.coalescer.interval :=
  s.coalescer.interval_perform s.clock (.act action)

/-- A flush does not change the interval. -/
@[simp] lemma interval_flush (s : Screen) (force : Bool) :
    (s.flush force).coalescer.interval = s.coalescer.interval := by
  unfold flush
  split
  · rfl
  · exact interval_deliver _ _ _

/-- What is posted at a reset is what was held, so that everything that was printed has been posted. -/
lemma Accounts.text_of_posts {m : Machine} {ps : List Piece} {posts : List Event}
    (a : m.screen.Accounts ps) (h : m.Posts posts) : postedText (m.history ++ posts) = piecesText ps := by
  have hposts : postedText posts = m.coalescer.pending := by
    obtain ⟨hp, rfl⟩ | ⟨id, f, -, -, rfl⟩ := h
    · exact hp.symm
    · simp [postedText, Event.text, String.join]
  rw [postedText_append, hposts]
  exact a.text

end Pane.Screen

namespace World

variable {w : World}

/-- No call changes how far deliveries lie apart. -/
lemma Turn.interval {c : Call} {s : Screen} (turn : w.Turn c s) :
    s.coalescer.interval = w.machine.coalescer.interval := by
  cases turn with
  | rest => rfl
  | @ask _ id => exact w.machine.screen.interval_deliver id (.flush true)
  | shown => exact Screen.interval_deliver _ _ _
  | flush => exact Screen.interval_flush _ _
  | through => exact Screen.interval_deliver _ _ _
  | reset => exact Screen.interval_flush _ _
  | attach => exact Screen.interval_flush _ _
  | attachNew => exact Screen.interval_flush _ _
  | adjust => rfl

/-- No run changes the interval. -/
lemma interval_run (b : w.Bound) (calls : List (Time × Call)) :
    (w.run calls).2.machine.coalescer.interval = w.machine.coalescer.interval := by
  let I (v : World) : Prop := v.Bound ∧ v.machine.coalescer.interval = w.machine.coalescer.interval
  have keeps : I (w.run calls).2 :=
    run_keeps (I := I) (fun now h => ⟨h.1.atTime now, h.2⟩)
      (fun c h => ⟨h.1.call c, (turn_of_call h.1.active c).interval.trans h.2⟩) ⟨b, rfl⟩ calls
  exact keeps.2

/-- At the start of a run nothing was printed and nothing is held. -/
lemma Fresh.accounts (fresh : w.Fresh) : w.machine.screen.Accounts [] where
  text := by simp [Machine.screen, fresh.history, fresh.pending, postedText, piecesText]
  held h := absurd fresh.pending h

/-- A reset of the files starts a clean session and loses nothing that a sink takes.

After any run in which front ends stay as attached as they are, a reset leaves the initial table, no writers,
a coalescer as it was in the beginning and nothing of the static field, which is read from its beginning after
that; the input, the text of the last error, the front ends, the settings, the states that were put aside and
the host's files are as they were. What the writers held is in their sinks, or the sink is one that refuses
bytes and there is a warning; what was held for the front end that is attached was posted there, so that all
that was printed in the run has been posted in its order. A second reset, at any time, changes nothing. -/
theorem reset_starts_clean (fresh : w.Fresh) {calls : List (Time × Call)}
    (steady : w.Throughout Steady calls) (now : Time) :
    let v := (w.run calls).2.atTime now
    let m := v.machine
    ∃ output error posts entries,
      let clean : World := { v with machine := m.cleaned output error posts entries }
      v.call .resetFiles = (.done, clean) ∧
      m.state.channels.output.Dropped .output entries output ∧
      m.state.channels.error.Dropped .error entries error ∧
      m.Posts posts ∧ postedText clean.machine.history = piecesText (w.pieces calls) ∧
      clean.machine.coalescer = { interval := w.machine.coalescer.interval } ∧
      (∀ id f, m.fronts[id]? = some f →
        (∀ count, (clean.machine.readField id count).1 = (Utf8.encode f.field).take count) ∧
        (clean.machine.readFieldLine id).1 = Line.text (Line.cut (Utf8.encode f.field)).1) ∧
      ∀ later, (clean.atTime later).call .resetFiles = (.done, clean.atTime later) := by
  intro v m
  have a : m.screen.Accounts (w.pieces calls) :=
    accounts_atTime (accounts_run fresh.bound fresh.accounts steady) now
  have held : m.coalescer.pending ≠ "" → m.attached? ≠ none := fun hp hnone =>
    a.held hp (Machine.receiver?_of_none hnone)
  have hinterval : m.coalescer.interval = w.machine.coalescer.interval := interval_run fresh.bound calls
  obtain ⟨output, error, posts, entries, houtput, herror, hposts, hreset⟩ := Machine.resetFiles_eq held
  refine ⟨output, error, posts, entries, ?_, houtput, herror, hposts, a.text_of_posts hposts, ?_, ?_, ?_⟩
  · simp only [call, ← hreset]
    rfl
  · rw [← hinterval]
    rfl
  · intro id f hf
    have hfield : (m.cleaned output error posts entries).fieldBytes id = Utf8.encode f.field :=
      Machine.fieldBytes_of_unread rfl hf
    exact ⟨fun count => by rw [Machine.readField, hfield], by rw [Machine.readFieldLine, hfield]⟩
  · intro later
    let n : Machine := { m with clock := later }
    have hagain : (n.cleaned output error posts entries).resetFiles = n.cleaned output error posts entries :=
      Machine.resetFiles_cleaned houtput.gone herror.gone posts entries
    exact congrArg (fun machine => (Reply.done, { v with machine })) hagain

/-- A file is open, a text waits for the front end, and two of three bytes of the field were read. -/
theorem reset_starts_clean_waiting :
    let calls : List (Time × Call) :=
      [(0, .attachNew { interactive := false, field := "abc" }), (0, .openFile "f" .writeOnly),
        (0, .readFrom 0 [0, 0]), (1, .print "x")]
    let v := (scratch.run calls).2.atTime 2
    scratch.Fresh ∧ scratch.Throughout Steady calls ∧
    v.machine.state.table.openCount = 4 ∧ v.machine.coalescer.pending = "x" ∧
    (v.machine.readField 0 2).1 = [99] ∧
    ∃ clean, v.call .resetFiles = (.done, clean) ∧ clean.machine.state.table = .initial ∧
      clean.machine.history = [.posted 0 "x"] ∧ clean.machine.coalescer.pending = "" ∧
      (clean.machine.readField 0 2).1 = [97, 98] ∧ clean.call .resetFiles = (.done, clean) := by
  intro calls v
  have steady : scratch.Throughout Steady calls := by decide +kernel
  obtain ⟨output, error, posts, entries, hreset, -, -, hposts, -, -, hfield, hagain⟩ :=
    reset_starts_clean fresh_scratch steady 2
  have hpending : v.machine.coalescer.pending = "x" := by decide +kernel
  have hhistory : v.machine.history = [] := by decide +kernel
  have hfront : v.machine.attached? = some (0, { interactive := false, field := "abc" }) := by decide +kernel
  have hfronts : v.machine.fronts[0]? = some { interactive := false, field := "abc" } := by decide +kernel
  have hbytes : (Utf8.encode "abc").take 2 = [97, 98] := by decide +kernel
  -- What is held is not empty, and it is posted to the front end that is attached.
  obtain rfl : posts = [.posted 0 "x"] := by
    obtain ⟨hempty, -⟩ | ⟨id, f, ha, -, rfl⟩ := hposts
    · exact absurd (hpending.symm.trans hempty) (by decide)
    · cases hfront.symm.trans ha
      exact congrArg (fun text => [Event.posted 0 text]) hpending
  refine ⟨fresh_scratch, steady, by decide +kernel, hpending, by decide +kernel, _, hreset, rfl, ?_, rfl,
    ((hfield 0 _ hfronts).1 2).trans hbytes, hagain 2⟩
  exact congrArg (· ++ [Event.posted 0 "x"]) hhistory

/-- A text that the standard output of the process has refused stays with its writer, and a reset drops both:
the sink has not received it, and a warning is logged. -/
theorem reset_drops_refused :
    let channels := Console.Channels.process (.bytes []) (.full [])
    let w : World := { machine := .start {} (.ofHome ["scratch"]) (.ofChannels channels) .none }
    let calls : List (Time × Call) := [(0, .print "x\n")]
    let v := (w.run calls).2.atTime 0
    let output := v.machine.state.channels.output
    let after := (v.call .resetFiles).2.machine
    w.Fresh ∧ w.Throughout Steady calls ∧ output.held = [120, 10] ∧
    after.state.channels.output.pending = none ∧
    after.state.channels.output.sink.received ≠ output.sink.received ++ output.held ∧
    ⟨.warn, .channels, "ignoring flush failure on Output: No space left on device (os error 28)"⟩ ∈
      after.journal := by
  exact ⟨fresh_start {} (.ofHome ["scratch"]) .none (.process (.bytes []) (.full [])) [], by decide +kernel,
    by decide +kernel, by decide +kernel, by decide +kernel, by decide +kernel⟩

end World

end Hostcall
