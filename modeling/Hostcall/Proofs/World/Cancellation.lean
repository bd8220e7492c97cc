import Hostcall.Proofs.World.Sources

/-!
# Cancelled prompts

A call for input reports that it was cancelled exactly if it asked somebody and got no answer
(`cancelled_iff_unanswered`). Then it asked once, and nothing came of it but that one answer is used up and
held output has been shown.
-/

namespace Hostcall

open Pane

/-- Whether a call asks for input. -/
def Call.isInput : Call → Bool
  | .readFrom .. | .readChar _ | .readString .. => true
  | .readInteger _ | .readLong _ | .readSingle _ | .readDouble _ => true
  | _ => false

/-- No line is taken for a cancelled prompt. -/
lemma Machine.isCancelled_valueOfLine {α ε : Type} {reply : Except ReadValueError α → Reply}
    (hparse : ∀ input message, (reply (.error (.parse input message))).isCancelled = false)
    (hok : ∀ value, (reply (.ok value)).isCancelled = false) (parse : String → Except ε α)
    (message : ε → String) (line : String) :
    (reply (valueOfLine parse message line)).isCancelled = false := by
  simp only [valueOfLine]
  split
  · exact hparse _ _
  · exact hok _

namespace Call

variable {c : Call} {asked : Option (Option String)} {reply : Reply}

/-- A line is a reply of its own. -/
lemma isCancelled_ofLine {answer : String → Reply} (h : c.ofLine? = some answer) (line : String) :
    (answer line).isCancelled = false := by
  cases c with
  | readString =>
    cases h
    rfl
  | readInteger | readLong | readSingle | readDouble =>
    cases h
    exact Machine.isCancelled_valueOfLine (fun _ _ => rfl) (fun _ => rfl) _ _ line
  | _ => cases h

/-- A reply that gives up is that of a cancelled prompt. -/
lemma isCancelled_givenUp (h : c.givenUp? = some reply) : reply.isCancelled = true := by
  cases c <;> cases h <;> rfl

/-- A reply tells that a prompt was cancelled, exactly if one was. -/
lemma Settles.isCancelled_iff (h : c.Settles asked reply) : reply.isCancelled = true ↔ asked = some none := by
  cases h with
  | cancelled h => simp [isCancelled_givenUp h]
  | line hc hasked hreply =>
    rw [hreply, isCancelled_ofLine hc]
    constructor
    · nofun
    · intro hnone
      cases hasked none hnone
  | bytes _ hasked hreply => simp [hasked, hreply]

end Call

namespace Machine

variable {m n : Machine} {r : Request} {asked : Option (Option String)}

/-- A prompt adds to the history what was held, and itself. -/
lemma history_prompted (m : Machine) (id : FrontEndId) (e : Event) :
    (m.prompted id e).history.drop m.history.length =
      ((m.coalescer.flush true m.clock).1.map (Event.posted id)).toList ++ [e] := by
  simp [prompted, List.append_assoc]

/-- Only one of the events that a prompt adds asks somebody. -/
lemma asks_prompted {id : FrontEndId} {e : Event} (hid : e.asks? = some id) (front : FrontEndId) :
    (∃ e' ∈ (m.prompted id e).history.drop m.history.length, e'.asks? = some front) ↔ front = id := by
  have hposted (text : String) : (Event.posted id text).asks? = none := rfl
  rw [history_prompted]
  cases (m.coalescer.flush true m.clock).1 <;> simp [hid, hposted, eq_comm]

/-- Whoever was asked was asked by the one prompt there was. -/
lemma Serves.prompted {answer : Option String} (h : m.Serves r asked n) (ha : asked = some answer) :
    ∃ id e es, e.asks? = some id ∧ m.nextAnswer? id = answer ∧ n = (m.prompted id e).log es := by
  cases h with
  | console => cases ha
  | popup => exact ⟨_, _, _, rfl, Option.some.inj ha, rfl⟩
  | pane => exact ⟨_, _, _, rfl, Option.some.inj ha, rfl⟩
  | field => cases ha

/-- A request that asks nobody leaves the history alone. -/
lemma Serves.history (h : m.Serves r none n) : n.history = m.history := by
  cases h <;> rfl

/-- A read of anything but the standard input asks nobody and cannot be cancelled. -/
lemma readFrom_aside (m : Machine) {fd : Int} (hfd : fd ≠ StdChannel.input.fd) (buffer : List UInt8) :
    (m.readFrom fd buffer).2.screen = m.screen ∧
      ∃ count filled, (m.readFrom fd buffer).1 = ⟨.ok count, filled⟩ := by
  refine ⟨m.screen_readFrom hfd buffer, ?_⟩
  simp only [readFrom, if_neg hfd]
  split
  · exact ⟨_, _, rfl⟩
  · split
    · exact ⟨_, _, rfl⟩
    · next outcome n _ => cases outcome <;> exact ⟨_, _, rfl⟩

end Machine

namespace World

variable {w : World} {c : Call}

/-- A call asks a front end, and this is the answer. -/
def Asks (w : World) (c : Call) (answer : Option String) : Prop :=
  ∃ id, (∃ e ∈ (w.call c).2.machine.history.drop w.machine.history.length, e.asks? = some id) ∧
    w.machine.nextAnswer? id = answer

/-- A call asks a front end exactly if the request that it serves does, and it is answered alike. -/
lemma asks_iff {r : Request} {asked : Option (Option String)} {n : Machine}
    (serves : w.machine.Serves r asked n) (hn : (w.call c).2 = { w with machine := n })
    (answer : Option String) : w.Asks c answer ↔ asked = some answer := by
  rw [Asks, hn]
  constructor
  · rintro ⟨front, hasks, rfl⟩
    cases asked with
    | none => simp [serves.history] at hasks
    | some given =>
      obtain ⟨id, e, es, hid, rfl, rfl⟩ := serves.prompted rfl
      rw [(Machine.asks_prompted hid front).mp hasks]
  · intro hasked
    obtain ⟨id, e, es, hid, hanswer, rfl⟩ := serves.prompted hasked
    exact ⟨id, (Machine.asks_prompted hid id).mpr rfl, hanswer⟩

/-- A call for input settles its reply by the answer of whoever it asked. -/
lemma settles_call (b : w.machine.state.table.Bound) (hc : c.isInput = true) :
    ∃ asked, c.Settles asked (w.call c).1 ∧ (∀ answer, w.Asks c answer ↔ asked = some answer) ∧
      (asked = some none → ∃ id e es, e.asks? = some id ∧ w.machine.nextAnswer? id = none ∧
        (w.call c).2 = { w with machine := (w.machine.prompted id e).log es }) := by
  cases hr : c.request? with
  | some r =>
    obtain ⟨asked, n, serves, hn, settles⟩ := serves_call b hr
    refine ⟨asked, settles, asks_iff serves hn, fun hasked => ?_⟩
    obtain ⟨id, e, es, hid, hanswer, rfl⟩ := serves.prompted hasked
    exact ⟨id, e, es, hid, hanswer, hn⟩
  | none =>
    -- Only a read through a descriptor other than the standard input makes no request.
    cases c with
    | readFrom fd buffer =>
      have hfd : fd ≠ StdChannel.input.fd := by
        rintro rfl
        cases hr
      obtain ⟨hscreen, count, filled, hreply⟩ := w.machine.readFrom_aside hfd buffer
      have hhistory : (w.call (.readFrom fd buffer)).2.machine.history = w.machine.history :=
        congrArg Screen.history hscreen
      refine ⟨none, ?_, fun answer => ?_, nofun⟩
      · simpa [call, hreply] using .bytes rfl nofun rfl
      · simp [Asks, hhistory]
    | readChar | readString | readInteger | readLong | readSingle | readDouble => cases hr
    | _ => cases hc

/-- After any run, a call for input reports that it was cancelled exactly if it asked a front end that had no
answer. It has then asked once: held output has been shown, one answer is used up, and besides the log nothing
else has changed, neither in the machine nor in the guest's buffer. A call that takes a line and is not
cancelled replies by that line, the one answered if it asked anybody; where a number was wanted and the line is
none, this is an error of its own. -/
theorem cancelled_iff_unanswered (fresh : w.Fresh) (calls : List (Time × Call)) (now : Time)
    (hc : c.isInput = true) :
    let v := (w.run calls).2.atTime now
    ((v.call c).1.isCancelled = true ↔ v.Asks c none) ∧
    ((v.call c).1.isCancelled = true →
      c.givenUp? = some (v.call c).1 ∧
      ∃ id e es, e.asks? = some id ∧ v.machine.nextAnswer? id = none ∧
        (v.call c).2 = { v with machine := (v.machine.prompted id e).log es }) ∧
    ∀ answer, c.ofLine? = some answer → (v.call c).1.isCancelled = false →
      ∃ line, (v.call c).1 = answer line ∧ ∀ given, v.Asks c given → given = some line := by
  intro v
  have bound : v.machine.state.table.Bound := ((fresh.bound.run calls).atTime now).active
  obtain ⟨asked, settles, hasks, hprompted⟩ := settles_call bound hc
  refine ⟨settles.isCancelled_iff.trans (hasks none).symm, fun hcancelled => ?_, fun answer hline hnot => ?_⟩
  · have hasked := settles.isCancelled_iff.mp hcancelled
    refine ⟨?_, hprompted hasked⟩
    cases settles with
    | cancelled h => exact h
    | line _ hgiven => cases hgiven none hasked
    | bytes _ hne => exact absurd hasked hne
  · cases settles with
    | cancelled h => simp [Call.isCancelled_givenUp h] at hnot
    | line h hgiven hreply =>
      obtain rfl := Option.some.inj (hline.symm.trans h)
      exact ⟨_, hreply, fun given hg => hgiven given ((hasks given).mp hg)⟩
    | bytes h => simp [hline] at h

/-- The prompt for a block of bytes is closed without an answer, after one that was answered with no number. -/
theorem cancelled_iff_unanswered_block :
    let front : FrontEnd := { interactive := true, answers := [some "forty-two", none] }
    let calls : List (Time × Call) := [(0, .attachNew front), (1, .print "Number: "), (2, .readInteger 5)]
    let v := (scratch.run calls).2.atTime 3
    let c : Call := .readFrom 0 [7, 7]
    scratch.Fresh ∧ c.isInput = true ∧
      ((v.call c).1.isCancelled = true ↔ v.Asks c none) ∧ (v.call c).1.isCancelled = true ∧
      c.givenUp? = some (v.call c).1 ∧
      v.machine.history = [.posted 0 "Number: ", .promptedBounded 0 (-1)] := by
  intro front calls v c
  obtain ⟨hiff, hcancelled, -⟩ := cancelled_iff_unanswered fresh_scratch calls 3 (c := c) rfl
  have h : (v.call c).1.isCancelled = true := by decide +kernel
  exact ⟨fresh_scratch, rfl, hiff, h, (hcancelled h).1, by decide +kernel⟩

end World

end Hostcall
