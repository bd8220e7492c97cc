import Hostcall.Proofs.Machine.Buffers
import Hostcall.Proofs.Script.Replays
import Hostcall.Proofs.World.Cancellation
import Hostcall.Proofs.World.Integers
import Hostcall.Proofs.World.LastError

/-!
# How operations come out

An operation that makes a call comes out as the reply of the call says (`execute_eq`). For a read these are the
bytes that the call put at the front of its buffer (`reads_exact`). Operations for input come out as cancelled if
their prompt was, but for the one that reads an integer, to which a cancelled prompt is one failure among others
(`outcome_cancelled_iff`).
-/

namespace Hostcall

open Pane

/-- How the reply of a call shows in a script. -/
def Script.Outcome.ofReply : Reply → Outcome
  | .code n | .char (.ok n) | .integer (.ok n) => .code n
  | .read ⟨.ok n, buffer⟩ => .bytes n (buffer.take n.toNat)
  | .text (.ok s) => .text s
  | .read ⟨.error _, _⟩ | .char (.error _) | .text (.error _) => .cancelled
  | .integer (.error e) => .failed e.message
  | _ => .done

namespace Script

/-- An operation comes out as its call does; one that makes no call fails and leaves the machine alone. -/
lemma execute_eq (w : World) (op : Op) :
    match op.call? with
    | none => ∃ message, execute w.machine op = (.failed message, w.machine)
    | some c => execute w.machine op = (.ofReply (w.call c).1, (w.call c).2.machine) := by
  cases op with
  | read fd len =>
    simp only [execute, Op.call?]
    by_cases hlen : longestRead < len
    · simp only [if_pos hlen]
      exact ⟨_, rfl⟩
    · simp only [if_neg hlen, World.call]
      obtain ⟨⟨outcome, filled⟩, n⟩ := w.machine.readFrom fd (List.replicate len 0)
      cases outcome <;> rfl
  | readChar =>
    simp only [execute, Op.call?, World.call]
    obtain ⟨outcome, n⟩ := w.machine.readChar charService
    cases outcome <;> rfl
  | readString maxLen =>
    simp only [execute, Op.call?, World.call]
    obtain ⟨outcome, n⟩ := w.machine.readString stringService maxLen
    cases outcome <;> rfl
  | readInt =>
    simp only [execute, Op.call?, World.call]
    obtain ⟨outcome, n⟩ := w.machine.readInteger integerService
    cases outcome <;> rfl
  | openFile | write | seek | close | print | reset => rfl

/-- Whether an operation asks for input that it may have. -/
def Op.isInput : Op → Bool
  | .read fd len => fd = StdChannel.input.fd ∧ len ≤ longestRead
  | .readChar | .readString _ | .readInt => true
  | _ => false

end Script

namespace World

open Script (execute longestRead Op)

variable {w : World} {fd : Int} {buffer : List UInt8}

/-- A call for input tells that it was cancelled exactly if it asked somebody who did not answer. -/
lemma isCancelled_call (b : w.machine.state.table.Bound) {c : Call} (hc : c.isInput = true) :
    (w.call c).1.isCancelled = true ↔ w.Asks c none := by
  obtain ⟨asked, settles, hasks, -⟩ := settles_call b hc
  exact settles.isCancelled_iff.trans (hasks none).symm

/-- What a read returns and leaves in its buffer, with the bytes that it came by. -/
inductive ReadsInto (w : World) (fd : Int) (buffer : List UInt8) : ReadReply → List UInt8 → Prop where
  | failed {fault} :
    w.machine.Fails (.readFrom fd buffer) fault →
    ReadsInto w fd buffer ⟨.ok (-1), buffer⟩ []
  | cancelled :
    w.Asks (.readFrom fd buffer) none →
    ReadsInto w fd buffer ⟨.error .cancelled, buffer⟩ []
  | filled {bytes filled} :
    (∀ fault, ¬w.machine.Fails (.readFrom fd buffer) fault) →
    ¬w.Asks (.readFrom fd buffer) none →
    bytes.length ≤ buffer.length →
    filled.length = buffer.length →
    w.machine.Fills fd buffer bytes filled (w.call (.readFrom fd buffer)).2.machine →
    ReadsInto w fd buffer ⟨.ok bytes.length, filled⟩ bytes

/-- A read fails, or is cancelled, or fills its buffer. -/
lemma readsInto_call (b : w.machine.state.table.Bound) (fd : Int) (hlen : buffer.length ≤ 0x7FFFFFFF) :
    ∃ r bytes, (w.call (.readFrom fd buffer)).1 = .read r ∧ w.ReadsInto fd buffer r bytes := by
  obtain ⟨hfails, hfine⟩ := call_tells b (.readFrom fd buffer)
  have hcancelled := isCancelled_call (c := .readFrom fd buffer) b rfl
  refine ⟨(w.machine.readFrom fd buffer).1, ?_⟩
  obtain h | h | ⟨bytes, filled, hle, h, fills⟩ := Machine.readFrom_fills b fd hlen
  · have hreply : (w.call (.readFrom fd buffer)).1 = .read ⟨.ok (-1), buffer⟩ := congrArg Reply.read h
    have hfault : ∃ fault, w.machine.Fails (.readFrom fd buffer) fault := by
      by_contra hnone
      have hcode := (hfine (not_exists.mp hnone)).1
      rw [hreply] at hcode
      exact absurd (hcode (-1) rfl) (by decide)
    obtain ⟨fault, hfault⟩ := hfault
    exact ⟨[], rfl, h ▸ .failed hfault⟩
  · have hreply : (w.call (.readFrom fd buffer)).1 = .read ⟨.error .cancelled, buffer⟩ :=
      congrArg Reply.read h
    rw [hreply] at hcancelled
    exact ⟨[], rfl, h ▸ .cancelled (hcancelled.mp rfl)⟩
  · have hreply : (w.call (.readFrom fd buffer)).1 = .read ⟨.ok bytes.length, filled⟩ :=
      congrArg Reply.read h
    rw [hreply] at hcancelled hfails
    have hnot (fault : Fault) : ¬w.machine.Fails (.readFrom fd buffer) fault := by
      intro hfault
      have hcode : (bytes.length : Int) = -1 := Option.some.inj (hfails fault hfault).1
      omega
    have hnobody : ¬w.Asks (.readFrom fd buffer) none := fun hasked => nomatch hcancelled.mpr hasked
    exact ⟨bytes, rfl, h ▸ .filled hnot hnobody hle (fills.length hle) fills⟩

/-- The world if a front end were about to give another answer. -/
def answering (w : World) (id : FrontEndId) (text : String) : World :=
  { w with machine := w.machine.answering id text }

/-- Nothing that comes after a read of an answer sees what did not fit into the buffer. -/
lemma run_answering (b : w.machine.state.table.Bound) {id : FrontEndId} {f : FrontEnd} {text other : String}
    (ha : w.machine.attached? = some (id, f)) (hi : f.interactive = true)
    (h : w.machine.nextAnswer? id = some text)
    (hother : (Utf8.encode other).take buffer.length = (Utf8.encode text).take buffer.length)
    (now : Time) (later : List (Time × Call)) :
    (w.answering id other).run ((now, .readFrom StdChannel.input.fd buffer) :: later) =
      w.run ((now, .readFrom StdChannel.input.fd buffer) :: later) := by
  have hread := Machine.readFrom_answering (m := (w.atTime now).machine) b ha hi h hother
  have hcall : ((w.answering id other).atTime now).call (.readFrom StdChannel.input.fd buffer) =
      (w.atTime now).call (.readFrom StdChannel.input.fd buffer) := by
    simp only [call, ← hread]
    rfl
  simp only [run, hcall]

/-- The bytes of a read are those that a script shows. -/
lemma ReadsInto.ofReply {r : ReadReply} {bytes : List UInt8} (h : w.ReadsInto fd buffer r bytes) :
    Script.Outcome.ofReply (.read r) =
      match r.result with
      | .ok n => .bytes n bytes
      | .error _ => .cancelled := by
  cases h with
  | failed => rfl
  | cancelled => rfl
  | filled _ _ _ _ fills => exact congrArg (Script.Outcome.bytes _) fills.take

/-- What a read does to the buffer of the guest, after any run. If it fails or is cancelled it leaves the
buffer alone. Otherwise it returns the number of bytes that it put at the front of the buffer, which are the
next ones of its source; it clears what lies behind them if they are of an answer in the run pane, and leaves
that alone if they are of any other source. Of an answer it takes all that fits, and what did not fit is seen
by nothing that is called later.

A script shows exactly these bytes, and none where the read failed. It refuses to read more than it may, and
then nothing changes. -/
theorem reads_exact (fresh : w.Fresh) (calls : List (Time × Call)) (now : Time) :
    let v := (w.run calls).2.atTime now
    (∀ fd buffer, buffer.length ≤ 2147483647 →
      ∃ r bytes, (v.call (.readFrom fd buffer)).1 = .read r ∧ v.ReadsInto fd buffer r bytes) ∧
    (∀ id f text buffer, v.machine.attached? = some (id, f) → f.interactive = true →
      v.machine.nextAnswer? id = some text → buffer.length ≤ 2147483647 →
      let bytes := (Utf8.encode text).take buffer.length
      bytes.length = min (Utf8.encode text).length buffer.length ∧
      (v.call (.readFrom 0 buffer)).1 =
        .read ⟨.ok bytes.length, bytes ++ List.replicate (buffer.length - bytes.length) 0⟩ ∧
      ∀ other, (Utf8.encode other).take buffer.length = bytes → ∀ later,
        (v.answering id other).run ((now, .readFrom 0 buffer) :: later) =
          v.run ((now, .readFrom 0 buffer) :: later)) ∧
    ∀ fd len,
      (longestRead < len → ∃ message, execute v.machine (.read fd len) = (.failed message, v.machine)) ∧
      (len ≤ longestRead →
        let c : Call := .readFrom fd (List.replicate len 0)
        ∃ r bytes, (v.call c).1 = .read r ∧ v.ReadsInto fd (List.replicate len 0) r bytes ∧
          execute v.machine (.read fd len) =
            (match r.result with
              | .ok n => .bytes n bytes
              | .error _ => .cancelled, (v.call c).2.machine)) := by
  intro v
  have bound : v.machine.state.table.Bound := ((fresh.bound.run calls).atTime now).active
  refine ⟨fun fd buffer hlen => readsInto_call bound fd hlen, ?_, fun fd len => ⟨fun hlong => ?_, fun hshort => ?_⟩⟩
  · intro id f text buffer ha hi h hlen bytes
    obtain ⟨es, hread⟩ := Machine.readFrom_pane bound ha hi h hlen
    refine ⟨?_, congrArg Reply.read (congrArg Prod.fst hread), fun other hother later => ?_⟩
    · rw [List.length_take, Nat.min_comm]
    · exact run_answering bound ha hi h hother now later
  · have hexecute := Script.execute_eq v (.read fd len)
    simpa only [Op.call?, if_pos hlong] using hexecute
  · intro c
    have hlen : (List.replicate len (0 : UInt8)).length ≤ 0x7FFFFFFF := by
      rw [List.length_replicate]
      exact hshort.trans (by decide)
    obtain ⟨r, bytes, hreply, reads⟩ := readsInto_call bound fd hlen
    have hexecute := Script.execute_eq v (.read fd len)
    simp only [Op.call?, if_neg (Nat.not_lt.mpr hshort)] at hexecute
    rw [hreply, reads.ofReply] at hexecute
    exact ⟨r, bytes, hreply, reads, hexecute⟩

/-- A buffer of two bytes splits a character of an answer, and the guest cannot tell which one it was. A longer
buffer is cleared behind the answer. -/
theorem reads_exact_split :
    let front : FrontEnd := { interactive := true, answers := [some "né", some "z"] }
    let calls : List (Time × Call) := [(0, .attachNew front)]
    let v := (scratch.run calls).2.atTime 1
    let long := longestRead + 1
    scratch.Fresh ∧ v.machine.attached? = some (0, front) ∧ v.machine.nextAnswer? 0 = some "né" ∧
      (v.call (.readFrom 0 [7, 7])).1 = .read ⟨.ok 2, [0x6E, 0xC3]⟩ ∧
      (v.call (.readFrom 0 [7, 7, 7, 7])).1 = .read ⟨.ok 3, [0x6E, 0xC3, 0xA9, 0]⟩ ∧
      (v.answering 0 "nè").run [(1, .readFrom 0 [7, 7]), (2, .readString 8 80)] =
        v.run [(1, .readFrom 0 [7, 7]), (2, .readString 8 80)] ∧
      ∃ message, execute v.machine (.read 0 long) = (.failed message, v.machine) := by
  intro front calls v long
  have ha : v.machine.attached? = some (0, front) := by decide +kernel
  have h : v.machine.nextAnswer? 0 = some "né" := by decide +kernel
  obtain ⟨-, pane, script⟩ := reads_exact fresh_scratch calls 1
  obtain ⟨-, hcut, hunseen⟩ := pane 0 front "né" [7, 7] ha rfl h (by decide)
  obtain ⟨-, hwhole, -⟩ := pane 0 front "né" [7, 7, 7, 7] ha rfl h (by decide)
  have hsame : (Utf8.encode "nè").take 2 = (Utf8.encode "né").take 2 := by decide +kernel
  refine ⟨fresh_scratch, ha, h, hcut.trans ?_, hwhole.trans ?_, hunseen "nè" hsame [(2, .readString 8 80)],
    (script 0 long).1 (Nat.lt_succ_self _)⟩
  · rfl
  · rfl

/-! ## Cancelled prompts -/

/-- Every operation for input but the one that reads an integer shows that it was cancelled. -/
lemma outcome_of_input (b : w.machine.state.table.Bound) {op : Op} (hop : op.isInput = true)
    (hint : op ≠ .readInt) :
    ∃ c, op.call? = some c ∧ ((execute w.machine op).1 = .cancelled ↔ w.Asks c none) := by
  cases op with
  | read fd len =>
    obtain ⟨-, hlen⟩ : fd = StdChannel.input.fd ∧ len ≤ longestRead := by simpa [Op.isInput] using hop
    have hexecute := Script.execute_eq w (.read fd len)
    have hcall : (Op.read fd len).call? = some (.readFrom fd (List.replicate len 0)) :=
      if_neg (Nat.not_lt.mpr hlen)
    rw [hcall] at hexecute
    refine ⟨_, hcall, ?_⟩
    rw [hexecute, ← isCancelled_call b rfl]
    simp only [call]
    obtain ⟨⟨outcome, filled⟩, n⟩ := w.machine.readFrom fd (List.replicate len 0)
    cases outcome <;> simp [Script.Outcome.ofReply, Reply.isCancelled]
  | readChar =>
    refine ⟨_, rfl, ?_⟩
    rw [Script.execute_eq w .readChar, ← isCancelled_call b rfl]
    simp only [call]
    obtain ⟨outcome, n⟩ := w.machine.readChar Script.charService
    cases outcome <;> simp [Script.Outcome.ofReply, Reply.isCancelled]
  | readString maxLen =>
    refine ⟨_, rfl, ?_⟩
    rw [Script.execute_eq w (.readString maxLen), ← isCancelled_call b rfl]
    simp only [call]
    obtain ⟨outcome, n⟩ := w.machine.readString Script.stringService maxLen
    cases outcome <;> simp [Script.Outcome.ofReply, Reply.isCancelled]
  | readInt => exact absurd rfl hint
  | openFile | write | seek | close | print | reset => cases hop

/-- Reading an integer comes out as an integer, or as a failure if the prompt for it was cancelled or there is
no integer on the line. -/
lemma outcome_of_integer (b : w.machine.state.table.Bound) :
    let c : Call := .readInteger Script.integerService
    let outcome := (execute w.machine .readInt).1
    (w.Asks c none ∧ w.machine.nextLine? "0" = none ∧ outcome = .failed Cancelled.cancelled.message) ∨
      ∃ line value, ¬w.Asks c none ∧ w.machine.nextLine? "0" = some line ∧
        Accepts (-2147483648) 2147483648 (Text.trim line) value ∧
        outcome = .ofReply (.integer value) := by
  intro c outcome
  obtain ⟨hline, hnone, -⟩ := line_call (w := w) (c := c) rfl
  have hcancelled := isCancelled_call (c := c) b rfl
  have houtcome : outcome = .ofReply (w.call c).1 := congrArg Prod.fst (Script.execute_eq w .readInt)
  cases h : w.machine.nextLine? "0" with
  | none =>
    have hreply : (w.call c).1 = .integer (.error (.cancelled .cancelled)) :=
      (Option.some.inj (hnone h)).symm
    rw [hreply] at hcancelled houtcome
    exact .inl ⟨hcancelled.mp rfl, rfl, houtcome⟩
  | some line =>
    have hreply := hline line h
    have hanswer : (w.call c).1.isCancelled = false :=
      hreply ▸ Call.isCancelled_ofLine (c := c) rfl line
    have hnot : ¬w.Asks c none := by
      rw [← hcancelled, hanswer]
      exact Bool.false_ne_true
    rw [hreply] at houtcome
    have accepts := Machine.accepts_valueOfLine (r := .word) (by decide) (by decide) line
    exact .inr ⟨line, _, hnot, rfl, accepts, houtcome⟩

/-- How operations for input come out when a prompt is cancelled, after any run. All but one come out as
cancelled exactly if they asked somebody who did not answer. The one that reads an integer never does: it
fails if the prompt was cancelled, with a message of its own, just as it fails if there was a line and no
integer of its range was on it. -/
theorem outcome_cancelled_iff (fresh : w.Fresh) (calls : List (Time × Call)) (now : Time) :
    let v := (w.run calls).2.atTime now
    (∀ op : Op, op.isInput = true → op ≠ .readInt →
      ∃ c, op.call? = some c ∧ ((execute v.machine op).1 = .cancelled ↔ v.Asks c none)) ∧
    let c : Call := .readInteger Script.integerService
    let outcome := (execute v.machine .readInt).1
    outcome ≠ .cancelled ∧
    (v.Asks c none → outcome = .failed "input request was cancelled") ∧
    ((∃ message, outcome = .failed message) ↔
      v.Asks c none ∨ ∃ line, v.machine.nextLine? "0" = some line ∧
        ∀ n, Numeral.Denotes (Text.trim line).toList n → ¬(-2147483648 ≤ n ∧ n < 2147483648)) := by
  intro v
  have bound : v.machine.state.table.Bound := ((fresh.bound.run calls).atTime now).active
  refine ⟨fun op hop hint => outcome_of_input bound hop hint, ?_⟩
  intro c outcome
  obtain ⟨hasks, -, houtcome⟩ | ⟨line, value, hnot, hline, accepts, houtcome⟩ := outcome_of_integer bound
  · have hfailed : outcome = .failed "input request was cancelled" := houtcome
    rw [hfailed]
    exact ⟨nofun, fun _ => rfl, fun _ => .inl hasks, fun _ => ⟨_, rfl⟩⟩
  · have hvalue : outcome = .ofReply (.integer value) := houtcome
    rw [hvalue]
    cases value with
    | ok n =>
      obtain ⟨hdenotes, hrange⟩ := (accepts.ok n).mp rfl
      refine ⟨nofun, fun hasks => absurd hasks hnot, nofun, ?_⟩
      rintro (hasks | ⟨line', hline', hnone⟩)
      · exact absurd hasks hnot
      · obtain rfl := Option.some.inj (hline.symm.trans hline')
        exact absurd hrange (hnone n hdenotes)
    | error e =>
      refine ⟨nofun, fun hasks => absurd hasks hnot, fun _ => .inr ⟨line, hline, fun n hdenotes hrange => ?_⟩,
        fun _ => ⟨_, rfl⟩⟩
      exact nomatch (accepts.ok n).mpr ⟨hdenotes, hrange⟩

/-- Three prompts are closed, and a fourth is answered with no integer. -/
theorem outcome_cancelled_iff_closed :
    let front : FrontEnd := { interactive := true, answers := [none, none, none, some "five"] }
    let calls : List (Time × Call) := [(0, .attachNew front)]
    let v := (scratch.run calls).2.atTime 1
    let u := (scratch.run (calls ++ [(1, .readChar 12), (1, .readChar 12), (1, .readChar 12)])).2.atTime 2
    scratch.Fresh ∧
      (execute v.machine (.read 0 4)).1 = .cancelled ∧
      (∃ c, (Op.read 0 4).call? = some c ∧ v.Asks c none) ∧
      (execute v.machine .readInt).1 = .failed "input request was cancelled" ∧
      ∃ message, (execute u.machine .readInt).1 = .failed message := by
  intro front calls v u
  obtain ⟨hcancelled, -, hfailed, -⟩ := outcome_cancelled_iff fresh_scratch calls 1
  obtain ⟨-, -, -, hnumber⟩ :=
    outcome_cancelled_iff fresh_scratch (calls ++ [(1, .readChar 12), (1, .readChar 12), (1, .readChar 12)]) 2
  have hread : (execute v.machine (.read 0 4)).1 = .cancelled := by decide +kernel
  obtain ⟨c, hcall, hiff⟩ := hcancelled (.read 0 4) (by decide) nofun
  have hasks : v.Asks (.readInteger Script.integerService) none :=
    ⟨0, by decide +kernel, by decide +kernel⟩
  have hline : u.machine.nextLine? "0" = some "five" := by decide +kernel
  have hnone (n : Int) : ¬Numeral.Denotes (Text.trim "five").toList n := by
    have htrim : (Text.trim "five").toList = ['f', 'i', 'v', 'e'] := by decide +kernel
    rw [htrim, Numeral.denotes_unsigned_iff (by decide) (by decide)]
    rintro ⟨-, hdigits, -⟩
    exact absurd (hdigits 'f' (.head _)) (by decide)
  exact ⟨fresh_scratch, hread, ⟨c, hcall, hiff.mp hread⟩, hfailed hasks,
    hnumber.mpr (.inr ⟨"five", hline, fun n hdenotes => absurd hdenotes (hnone n)⟩)⟩

/-- An integer is asked for, and the prompt is closed. What the script shows does not say so. -/
theorem cancelled_integer_fails :
    let front : FrontEnd := { interactive := true, answers := [none] }
    let v := (scratch.run [(0, .attachNew front)]).2.atTime 1
    let c : Call := .readInteger Script.integerService
    scratch.Fresh ∧ Op.readInt.isInput = true ∧ Op.readInt.call? = some c ∧ v.Asks c none ∧
      (execute v.machine .readInt).1 = .failed "input request was cancelled" ∧
      ¬((execute v.machine .readInt).1 = .cancelled ↔ v.Asks c none) := by
  intro front v c
  have hasks : v.Asks c none := ⟨0, by decide +kernel, by decide +kernel⟩
  have houtcome : (execute v.machine .readInt).1 = .failed "input request was cancelled" := by decide +kernel
  refine ⟨fresh_scratch, rfl, rfl, hasks, houtcome, ?_⟩
  rw [houtcome]
  exact fun hiff => nomatch hiff.mpr hasks

end World

end Hostcall
