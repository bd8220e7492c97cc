import Hostcall.Proofs.Machine.Sources
import Hostcall.Proofs.World.Streams

/-!
# Console and front end do not leak into each other

After any run, a call for input is served by one source and a call with output passes it on one way
(`one_source`); what a call replies goes back to that source alone (`Call.Settles`).
-/

namespace Hostcall

open Pane

/-- What a call replies when its prompt is cancelled; the guest's buffer is as it was. -/
def Call.givenUp? : Call → Option Reply
  | .readFrom _ buffer => some (.read ⟨.error .cancelled, buffer⟩)
  | .readChar _ => some (.char (.error .cancelled))
  | .readString .. => some (.text (.error .cancelled))
  | .readInteger _ => some (.integer (.error (.cancelled .cancelled)))
  | .readLong _ => some (.long (.error (.cancelled .cancelled)))
  | .readSingle _ => some (.single (.error (.cancelled .cancelled)))
  | .readDouble _ => some (.double (.error (.cancelled .cancelled)))
  | _ => none

/-- Whether a reply says that a prompt was cancelled. -/
def Reply.isCancelled : Reply → Bool
  | .read ⟨.error _, _⟩ | .char (.error _) | .text (.error _) => true
  | .integer (.error (.cancelled _)) | .long (.error (.cancelled _)) => true
  | .single (.error (.cancelled _)) | .double (.error (.cancelled _)) => true
  | _ => false

/-- What a call replies once whoever was asked has answered. -/
inductive Call.Settles (c : Call) : Option (Option String) → Reply → Prop where
  | cancelled {reply} :
    c.givenUp? = some reply →
    Settles c (some none) reply
  | line {asked answer line reply} :
    c.ofLine? = some answer →
    (∀ text, asked = some text → text = some line) →
    reply = answer line →
    Settles c asked reply
  | bytes {asked reply} :
    c.ofLine? = none →
    asked ≠ some none →
    reply.isCancelled = false →
    Settles c asked reply

namespace World

variable {w : World} {c : Call} {r : Request}

/-- A value is settled by the line that serves it. -/
lemma settles_value {α ε : Type} (what : String) (service : Nat) (parse : String → Except ε α)
    (message : ε → String) (reply : Except ReadValueError α → Reply)
    (hcancel : c.givenUp? = some (reply (.error (.cancelled .cancelled))))
    (hline : c.ofLine? = some fun line => reply (Machine.valueOfLine parse message line)) :
    ∃ asked, w.machine.Serves (.value what service) asked
        (w.machine.readValue what service parse message).2 ∧
      c.Settles asked (reply (w.machine.readValue what service parse message).1) := by
  have obtains := w.machine.obtainLine_obtains "0" s!"Enter {what} (syscall {service})" (-1)
  cases ho : w.machine.obtainLine "0" s!"Enter {what} (syscall {service})" (-1) with
  | mk outcome n =>
    rw [ho] at obtains
    cases obtains with
    | cancelled serves =>
      simp only [Machine.readValue, ho]
      exact ⟨_, serves, .cancelled hcancel⟩
    | answered serves =>
      rw [Machine.readValue_of_obtainLine ho]
      exact ⟨_, serves, .line hline (fun _ h => (Option.some.inj h).symm) rfl⟩
    | unasked serves =>
      rw [Machine.readValue_of_obtainLine ho]
      exact ⟨_, serves, .line hline (by simp) rfl⟩

/-- A call for input is served by one source, and its reply is settled by the answer. -/
lemma serves_call (b : w.machine.state.table.Bound) (hr : c.request? = some r) :
    ∃ asked n, w.machine.Serves r asked n ∧ (w.call c).2 = { w with machine := n } ∧
      c.Settles asked (w.call c).1 := by
  cases c with
  | readFrom fd buffer =>
    simp only [Call.request?] at hr
    split at hr
    · next hfd =>
      subst hfd
      cases hr
      obtain ⟨n, serves, h⟩ | ⟨asked, n, count, filled, serves, hasked, h⟩ :=
        Machine.readFrom_serves b buffer
      · exact ⟨_, n, serves, by simp [call, h], by simpa [call, h] using .cancelled rfl⟩
      · exact ⟨_, n, serves, by simp [call, h], by simpa [call, h] using .bytes rfl hasked rfl⟩
    · cases hr
  | readChar service =>
    cases hr
    have obtains := w.machine.obtainByte_obtains s!"Enter a character value (syscall {service})"
    simp only [call, Machine.readChar]
    generalize w.machine.obtainByte _ = obtained at obtains ⊢
    cases obtains with
    | cancelled serves => exact ⟨_, _, serves, rfl, .cancelled rfl⟩
    | answered serves => exact ⟨_, _, serves, rfl, .bytes rfl (by simp) rfl⟩
    | unasked serves => exact ⟨_, _, serves, rfl, .bytes rfl (by simp) rfl⟩
  | readString service limit =>
    cases hr
    have obtains := w.machine.obtainLine_obtains ""
      s!"Enter a string of maximum length {limit} (syscall {service})" limit
    simp only [call, Machine.readString]
    generalize w.machine.obtainLine _ _ _ = obtained at obtains ⊢
    cases obtains with
    | cancelled serves => exact ⟨_, _, serves, rfl, .cancelled rfl⟩
    | answered serves => exact ⟨_, _, serves, rfl, .line rfl (fun _ h => (Option.some.inj h).symm) rfl⟩
    | unasked serves => exact ⟨_, _, serves, rfl, .line rfl (by simp) rfl⟩
  | readInteger service =>
    cases hr
    obtain ⟨asked, serves, settles⟩ := settles_value (c := .readInteger service) (w := w)
      "an integer value" service (Numeral.readInteger .word) (·.message) .integer rfl rfl
    exact ⟨asked, _, serves, rfl, settles⟩
  | readLong service =>
    cases hr
    obtain ⟨asked, serves, settles⟩ := settles_value (c := .readLong service) (w := w)
      "an integer value" service (Numeral.readInteger .long) (·.message) .long rfl rfl
    exact ⟨asked, _, serves, rfl, settles⟩
  | readSingle service =>
    cases hr
    obtain ⟨asked, serves, settles⟩ := settles_value (c := .readSingle service) (w := w)
      "a float value" service (Numeral.readBinary .single) (·.message) .single rfl rfl
    exact ⟨asked, _, serves, rfl, settles⟩
  | readDouble service =>
    cases hr
    obtain ⟨asked, serves, settles⟩ := settles_value (c := .readDouble service) (w := w)
      "a Double value" service (Numeral.readBinary .double) (·.message) .double rfl rfl
    exact ⟨asked, _, serves, rfl, settles⟩
  | _ => cases hr

/-- A call with output passes it on one way. -/
lemma gives_call (b : w.machine.state.table.Bound) (hc : c.outlet?.isSome) :
    ∃ n, w.machine.Gives c n ∧ (w.call c).2 = { w with machine := n } := by
  cases c with
  | print text => exact ⟨_, w.machine.print_gives text, rfl⟩
  | writeTo fd bytes =>
    refine ⟨(w.machine.writeTo fd bytes).2, ?_, rfl⟩
    by_cases hout : fd = StdChannel.output.fd
    · subst hout
      simp only [Machine.writeTo, b.require_write (c := .output) (by decide), if_true]
      exact Machine.endWrite_gives rfl rfl _
    · by_cases herr : fd = StdChannel.error.fd
      · subst herr
        simp only [Machine.writeTo, b.require_write (c := .error) (by decide), if_neg hout, if_true]
        exact Machine.endWrite_gives rfl rfl _
      · simp [Call.outlet?, hout, herr] at hc
  | _ => cases hc

/-- After any run, a call for input uses exactly one source: without a front end the console, and with one a
modal prompt, the run pane or the static field, as the setting and the mode have it. A call with output is
likewise shown in the pane if a front end is attached, and otherwise written to its own channel. Apart from
that source or that way, and the log, nothing changes. -/
theorem one_source (fresh : w.Fresh) (calls : List (Time × Call)) (now : Time) (c : Call) :
    let v := (w.run calls).2.atTime now
    (∀ r, c.request? = some r →
      ∃ asked n, v.machine.Serves r asked n ∧ (v.call c).2 = { v with machine := n }) ∧
    (c.outlet?.isSome → ∃ n, v.machine.Gives c n ∧ (v.call c).2 = { v with machine := n }) := by
  intro v
  have bound : v.machine.state.table.Bound := ((fresh.bound.run calls).atTime now).active
  constructor
  · intro r hr
    obtain ⟨asked, n, serves, hn, -⟩ := serves_call bound hr
    exact ⟨asked, n, serves, hn⟩
  · intro hc
    exact gives_call bound hc

/-- A number is asked for in the run pane, after the text that was held for it. -/
theorem one_source_pane :
    let front : FrontEnd := { interactive := true, answers := [some "42"] }
    let calls : List (Time × Call) := [(0, .attachNew front), (1, .print "Age? "), (2, .print "Number: ")]
    let v := (scratch.run calls).2.atTime 3
    scratch.Fresh ∧
      (∃ asked n, v.machine.Serves (.value "an integer value" 5) asked n ∧
        (v.call (.readInteger 5)).2 = { v with machine := n }) ∧
      (v.call (.readInteger 5)).2.machine.history = [.posted 0 "Age? Number: ", .promptedBounded 0 (-1)] := by
  intro front calls v
  exact ⟨fresh_scratch, (one_source fresh_scratch calls 3 (.readInteger 5)).1 _ rfl, by decide +kernel⟩

end World

end Hostcall
