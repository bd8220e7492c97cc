import Hostcall.Proofs.Machine.Opening
import Hostcall.Proofs.Machine.Tape
import Hostcall.Proofs.Pane.Turns
import Mathlib.Data.List.Basic

/-!
# One source for each request

A call for input is served by the console, by a modal prompt, by the run pane or by the static field. Each
of the four changes its own part of a machine and nothing else but the log (`Serves`), and whether a front
end is attached, its mode and the setting for modal prompts leave one of them only. What a call has to say is
likewise shown in the pane or written to a channel (`Gives`).
-/

namespace Hostcall

open Pane

/-- What a call asks for: a number of bytes or else a line, with the words of a modal prompt if it may be
made by one, and the limit that the run pane is told. -/
structure Request where
  count : Option Nat
  prompt : Option String
  limit : Int

namespace Request

/-- What is left of a field's bytes. -/
def rest (r : Request) (bytes : List UInt8) : List UInt8 :=
  match r.count with
  | some count => bytes.drop count
  | none => (Line.cut bytes).2

/-- The console's input after the one read that serves a request. -/
def drain (r : Request) (i : Console.Input) : Console.Input :=
  match r.count with
  | some count => (i.read count).2
  | none => i.readLine.2

def value (what : String) (service : Nat) : Request :=
  ⟨none, s!"Enter {what} (syscall {service})", -1⟩

end Request

/-- The request for input that a call makes. -/
def Call.request? : Call → Option Request
  | .readFrom fd buffer =>
    if fd = StdChannel.input.fd then some ⟨buffer.length, none, min buffer.length 0x7FFFFFFF⟩ else none
  | .readChar service => some ⟨some 1, s!"Enter a character value (syscall {service})", 1⟩
  | .readString service limit =>
    some ⟨none, s!"Enter a string of maximum length {limit} (syscall {service})", limit⟩
  | .readInteger service | .readLong service => some (.value "an integer value" service)
  | .readSingle service => some (.value "a float value" service)
  | .readDouble service => some (.value "a Double value" service)
  | _ => none

/-- The standard output that a call writes to, and the bytes. -/
def Call.outlet? : Call → Option (StdChannel × List UInt8)
  | .print text => some (.output, Utf8.encode text)
  | .writeTo fd bytes =>
    if fd = StdChannel.output.fd then some (.output, bytes)
    else if fd = StdChannel.error.fd then some (.error, bytes)
    else none
  | _ => none

namespace Machine

/-- What a front end answers when it is asked next; nothing cancels the request. -/
def nextAnswer? (m : Machine) (id : FrontEndId) : Option String :=
  m.fronts[id]?.bind fun f => f.answer.1

/-- The machine after a front end was asked: what was held for it has been shown, and one answer is used up. -/
def prompted (m : Machine) (id : FrontEndId) (e : Event) : Machine :=
  { m with
    coalescer := (m.coalescer.flush true m.clock).2
    history := m.history ++ ((m.coalescer.flush true m.clock).1.map (.posted id)).toList ++ [e]
    fronts := m.fronts.modify id fun f => f.answer.2 }

/-- The machine after a front end was given a text to show. -/
def shown (m : Machine) (id : FrontEndId) (text : String) : Machine :=
  { m with
    coalescer := (m.coalescer.push text m.clock).2
    history := m.history ++ ((m.coalescer.push text m.clock).1.map (.posted id)).toList }

/-- The ways in which a machine serves a request, with the answer of whoever was asked. Only a plain read
of the console can leave an error. -/
inductive Serves (m : Machine) (r : Request) : Option (Option String) → Machine → Prop where
  | console {input lastError es} :
    m.attached? = none →
    input = r.drain m.state.channels.input →
    (r.prompt.isSome → lastError = m.lastError) →
    Serves m r none ({ m.setChannels { m.state.channels with input } with lastError }.log es)
  | popup {id f prompt es} :
    m.attached? = some (id, f) →
    m.settings.popup = true →
    r.prompt = some prompt →
    Serves m r (some (m.nextAnswer? id)) ((m.prompted id (.promptedLine id prompt)).log es)
  | pane {id f es} :
    m.attached? = some (id, f) →
    m.settings.popup = false ∨ r.prompt = none →
    f.interactive = true →
    Serves m r (some (m.nextAnswer? id)) ((m.prompted id (.promptedBounded id r.limit)).log es)
  | field {id f left es} :
    m.attached? = some (id, f) →
    m.settings.popup = false ∨ r.prompt = none →
    f.interactive = false →
    left = r.rest (m.fieldBytes id) →
    Serves m r none ({ m with fieldRest := some left }.log es)

/-- The ways in which a machine passes on what a call gives to an output. -/
inductive Gives (m : Machine) (c : Call) : Machine → Prop where
  | console {channel bytes lastError es} :
    m.attached? = none →
    c.outlet? = some (channel, bytes) →
    Gives m c ({ m.setChannels (m.state.channels.write channel bytes).2 with lastError }.log es)
  | pane {id f text es} :
    m.attached? = some (id, f) →
    c.output? = some text →
    Gives m c ((m.shown id text).log es)

/-- What is obtained for a request: `read` says what an answer is taken for. -/
inductive Obtains {α : Type} (m : Machine) (r : Request) (read : String → α) :
    Except Cancelled α × Machine → Prop where
  | cancelled {n} :
    m.Serves r (some none) n →
    Obtains m r read (.error .cancelled, n)
  | answered {text n} :
    m.Serves r (some (some text)) n →
    Obtains m r read (.ok (read text), n)
  | unasked {value n} :
    m.Serves r none n →
    Obtains m r read (.ok value, n)

variable {m n : Machine} {r : Request} {id : FrontEndId} {f : FrontEnd} {asked : Option (Option String)}

/-- Logging nothing does nothing. -/
lemma log_nil (m : Machine) : m.log [] = m := by
  simp [log]

/-! ## Prompts -/

/-- A delivery runs the coalescer and posts what it releases; the rest is logged. -/
lemma deliver_eq (m : Machine) (id : FrontEndId) (action : Action) :
    ∃ es, m.deliver id action =
      { m with
        coalescer := (m.coalescer.apply m.clock action).2
        history := m.history ++ ((m.coalescer.apply m.clock action).1.map (Event.posted id)).toList }.log es := by
  cases hr : m.coalescer.apply m.clock action with
  | mk released coalescer =>
    cases hn : coalescer.note action released with
    | none =>
      refine ⟨[], ?_⟩
      cases released <;> simp [deliver, hr, hn, record, log]
    | some message =>
      refine ⟨m.traces.entries .coalesce message, ?_⟩
      cases released <;> simp [deliver, hr, hn, record, trace, log]

/-- What an answer amounts to. -/
def heard : Option String → Except Cancelled String
  | none => .error .cancelled
  | some text => .ok text

/-- The next answer is heard and taken out of its queue. -/
lemma takeAnswer_eq (m : Machine) (id : FrontEndId) :
    m.takeAnswer id =
      (heard (m.nextAnswer? id), { m with fronts := m.fronts.modify id fun f => f.answer.2 }) := by
  rw [takeAnswer, nextAnswer?, List.modify_eq_set_getElem?]
  cases m.fronts[id]? with
  | none => rfl
  | some f => cases h : f.answer.1 <;> simp [h, heard]

/-- A modal prompt is shown behind what was held, and the next answer is heard. -/
lemma askPopup_eq (m : Machine) (id : FrontEndId) (prompt : String) :
    ∃ es, m.askPopup id prompt =
      (heard (m.nextAnswer? id), (m.prompted id (.promptedLine id prompt)).log es) := by
  obtain ⟨es, h⟩ := m.deliver_eq id (.flush true)
  simp only [askPopup, h, trace, log_log, takeAnswer_eq]
  exact ⟨_, rfl⟩

/-- A request in the run pane is shown behind what was held, and the next answer is heard. -/
lemma askPane_eq (m : Machine) (id : FrontEndId) (limit : Int) :
    ∃ es, m.askPane id limit =
      (heard (m.nextAnswer? id), (m.prompted id (.promptedBounded id limit)).log es) := by
  obtain ⟨es, h⟩ := m.deliver_eq id (.flush true)
  simp only [askPane, h, trace, log_log, takeAnswer_eq]
  exact ⟨_, rfl⟩

/-! ## Obtaining input -/

/-- What is logged afterwards makes no difference to how a request is served. -/
lemma Serves.log (h : m.Serves r asked n) (es : List LogEntry) : m.Serves r asked (n.log es) := by
  cases h with
  | console ha hinput herr => exact log_log .. ▸ .console ha hinput herr
  | popup ha hp hr => exact log_log .. ▸ .popup ha hp hr
  | pane ha hp hi => exact log_log .. ▸ .pane ha hp hi
  | field ha hp hi hleft => exact log_log .. ▸ .field ha hp hi hleft

/-- Whoever was asked has answered or has cancelled the request. -/
lemma Serves.obtains {α : Type} {a : Option String} (h : m.Serves r (some a) n) (read : String → α) :
    m.Obtains r read ((heard a).map read, n) := by
  cases a with
  | none => exact .cancelled h
  | some text => exact .answered h

/-- The source of a value is settled by who is attached, by the setting for prompts and by the mode. -/
lemma valueSource_cases (m : Machine) :
    (m.valueSource = .console ∧ m.attached? = none) ∨
      ∃ id f, m.attached? = some (id, f) ∧
        (m.valueSource = .popup id ∧ m.settings.popup = true ∨
          m.valueSource = .pane id ∧ m.settings.popup = false ∧ f.interactive = true ∨
          m.valueSource = .field id ∧ m.settings.popup = false ∧ f.interactive = false) := by
  cases ha : m.attached? with
  | none => exact .inl ⟨by simp [valueSource, ha], rfl⟩
  | some p =>
    refine .inr ⟨p.1, p.2, rfl, ?_⟩
    cases hp : m.settings.popup <;> cases hi : p.2.interactive <;> simp [valueSource, ha, hp, hi]

/-- A read of the console serves a request. -/
lemma serves_console (ha : m.attached? = none) {input : Console.Input}
    (hinput : input = r.drain m.state.channels.input) :
    m.Serves r none (m.setChannels { m.state.channels with input }) := by
  rw [← log_nil (m.setChannels _)]
  exact .console ha hinput fun _ => rfl

/-- The static field serves what is not asked for in a modal prompt. -/
lemma serves_field (ha : m.attached? = some (id, f)) (hp : m.settings.popup = false ∨ r.prompt = none)
    (hi : f.interactive = false) {left : List UInt8} (hleft : left = r.rest (m.fieldBytes id)) :
    m.Serves r none { m with fieldRest := some left } := by
  rw [← log_nil { m with fieldRest := some left }]
  exact .field ha hp hi hleft

/-- A line is what the source in force gives. -/
lemma obtainLine_obtains (m : Machine) (standIn prompt : String) (limit : Int) :
    m.Obtains ⟨none, prompt, limit⟩ (fun text => text) (m.obtainLine standIn prompt limit) := by
  have hmap (a : Option String) : (heard a).map (fun text => text) = heard a := by cases a <;> rfl
  obtain ⟨hs, ha⟩ | ⟨id, f, ha, hs | ⟨hs, hp, hi⟩ | ⟨hs, hp, hi⟩⟩ := m.valueSource_cases
  · simp only [obtainLine, hs, readConsoleLine, Console.Channels.readLine]
    cases m.state.channels.input.readLine.1 with
    | ok line => exact .unasked (serves_console ha rfl)
    | error cause => exact .unasked ((serves_console ha rfl).log _)
  · obtain ⟨es, h⟩ := m.askPopup_eq id prompt
    simp only [obtainLine, hs.1, h]
    rw [← hmap (m.nextAnswer? id)]
    exact (Serves.popup ha hs.2 rfl).obtains _
  · obtain ⟨es, h⟩ := m.askPane_eq id limit
    simp only [obtainLine, hs, h]
    rw [← hmap (m.nextAnswer? id)]
    exact (Serves.pane ha (.inl hp) hi).obtains _
  · simp only [obtainLine, hs, readFieldLine]
    exact .unasked (serves_field ha (.inl hp) hi rfl)

/-- A byte is the first one of what the source in force gives. -/
lemma obtainByte_obtains (m : Machine) (prompt : String) :
    m.Obtains ⟨some 1, prompt, 1⟩ (fun text => (Utf8.encode text).head?) (m.obtainByte prompt) := by
  obtain ⟨hs, ha⟩ | ⟨id, f, ha, hs | ⟨hs, hp, hi⟩ | ⟨hs, hp, hi⟩⟩ := m.valueSource_cases
  · simp only [obtainByte, hs, readConsoleByte, Console.Channels.read]
    cases (m.state.channels.input.read 1).1 with
    | ok bytes => exact .unasked (serves_console ha rfl)
    | error cause => exact .unasked ((serves_console ha rfl).log _)
  · obtain ⟨es, h⟩ := m.askPopup_eq id prompt
    simp only [obtainByte, hs.1, h]
    exact (Serves.popup ha hs.2 rfl).obtains _
  · obtain ⟨es, h⟩ := m.askPane_eq id 1
    simp only [obtainByte, hs, h]
    exact (Serves.pane ha (.inl hp) hi).obtains _
  · simp only [obtainByte, hs, readField]
    exact .unasked (serves_field ha (.inl hp) hi rfl)

/-- A read of the standard input is served like any request, but never by a modal prompt. A cancelled one
leaves the guest's buffer alone. -/
lemma readFrom_serves (b : m.state.table.Bound) (buffer : List UInt8) :
    let r : Request := ⟨buffer.length, none, min buffer.length 0x7FFFFFFF⟩
    (∃ n, m.Serves r (some none) n ∧
        m.readFrom StdChannel.input.fd buffer = (⟨.error .cancelled, buffer⟩, n)) ∨
      ∃ asked n count filled, m.Serves r asked n ∧ asked ≠ some none ∧
        m.readFrom StdChannel.input.fd buffer = (⟨.ok count, filled⟩, n) := by
  intro r
  simp only [readFrom, b.require_read, if_true]
  cases ha : m.attached? with
  | none =>
    have hs : m.byteSource = .console := by simp [byteSource, ha]
    have serves := serves_console (r := r) ha rfl
    simp only [obtainBytes, hs, Console.Channels.read]
    cases (m.state.channels.input.read buffer.length).1 with
    | ok bytes => exact .inr ⟨none, _, _, _, serves.log _, by simp, rfl⟩
    | error cause =>
      refine .inr ⟨none, _, _, _, ?_, by simp, rfl⟩
      exact Serves.log (.console ha rfl (by simp [r])) _
  | some p =>
    cases hi : p.2.interactive with
    | true =>
      have hs : m.byteSource = .pane p.1 := by simp [byteSource, ha, hi]
      obtain ⟨es, h⟩ := m.askPane_eq p.1 (min buffer.length 0x7FFFFFFF)
      have serves : m.Serves r (some (m.nextAnswer? p.1)) _ := @Serves.pane m r _ _ es ha (.inr rfl) hi
      simp only [obtainBytes, hs, h]
      generalize m.nextAnswer? p.1 = answer at serves ⊢
      cases answer with
      | none => exact .inl ⟨_, serves, rfl⟩
      | some text => exact .inr ⟨some text, _, _, _, serves.log _, by simp, rfl⟩
    | false =>
      have hs : m.byteSource = .field p.1 := by simp [byteSource, ha, hi]
      have serves := serves_field (r := r) ha (.inr rfl) hi rfl
      simp only [obtainBytes, hs, readField]
      exact .inr ⟨none, _, _, _, serves.log _, by simp, rfl⟩

/-! ## Output -/

/-- What is logged afterwards makes no difference to where output goes. -/
lemma Gives.log {c : Call} (h : m.Gives c n) (es : List LogEntry) : m.Gives c (n.log es) := by
  cases h with
  | console ha hout => exact log_log .. ▸ .console ha hout
  | pane ha htext => exact log_log .. ▸ .pane ha htext

/-- A printed text goes to one place. -/
lemma print_gives (m : Machine) (text : String) : m.Gives (.print text) (m.print text) := by
  simp only [print]
  cases ha : m.attached? with
  | none =>
    have gives (es : List LogEntry) : m.Gives (.print text)
        ((m.setChannels (m.state.channels.write .output (Utf8.encode text)).2).log es) :=
      .console ha rfl
    cases (m.state.channels.write .output (Utf8.encode text)).1 with
    | ok => exact log_nil (m.setChannels _) ▸ gives []
    | error cause => exact gives _
  | some p =>
    obtain ⟨es, h⟩ := m.deliver_eq p.1 (.push text)
    simp only [h]
    exact .pane ha rfl

/-- What is written to an output is shown in the pane or written to the channel, and then accounted for. -/
lemma endWrite_gives {c : Call} {channel : StdChannel} {bytes : List UInt8}
    (hout : c.outlet? = some (channel, bytes)) (htext : c.output? = some (Utf8.decode bytes)) (fd : Int) :
    m.Gives c
      ((m.writeStandard channel bytes).2.endWrite fd bytes (m.writeStandard channel bytes).1).2 := by
  simp only [writeStandard]
  cases ha : m.attached? with
  | none =>
    cases (m.state.channels.write channel bytes).1 with
    | ok => exact .console ha hout
    | error cause => exact Gives.log (.console ha hout) _
  | some p =>
    obtain ⟨es, h⟩ := m.deliver_eq p.1 (.push (Utf8.decode bytes))
    simp only [h, endWrite, trace, log_log]
    exact .pane ha htext

end Machine

end Hostcall
