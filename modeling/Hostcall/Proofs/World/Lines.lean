import Hostcall.Proofs.World.Sources

/-!
# The next line

A call that takes a line gets the next line of one source, which is known beforehand (`nextLine?`). With it
goes this line or this answer, and nothing of any other source; nothing else of the machine changes but what
was shown and logged (`TakesLine`, `line_call`).
-/

namespace Hostcall

open Pane

namespace Console.Input

/-- The text of the next line, or what stands in for it where the reader fails before the line has ended. -/
def nextLine (i : Input) (standIn : String) : String :=
  match i.supply with
  | .bytes _ => Line.text (Line.cut i.unread).1
  | .broken _ => if Line.newline ∈ i.unread then Line.text (Line.cut i.unread).1 else standIn

/-- A reader that fails holds all that is unread. -/
lemma unread_of_broken {i : Input} {cause : HostError} (h : i.supply = .broken cause) :
    i.unread = i.held := by
  simp only [unread, h]

/-- The next line is what the reader gives, read as text. -/
lemma nextLine_eq (i : Input) (standIn : String) :
    i.nextLine standIn = (i.readLine.1.map Line.text).toOption.getD standIn := by
  cases hs : i.supply with
  | bytes rest =>
    obtain ⟨j, hr, -, -⟩ := readLine_of_flows ⟨rest, hs⟩
    simp [nextLine, hs, hr, Except.map, Except.toOption]
  | broken cause =>
    simp only [nextLine, readLine, hs, unread_of_broken hs]
    split <;> rfl

/-- A line goes off the front of what is unread, also if the reader fails behind it. -/
lemma unread_readLine (i : Input) : i.readLine.2.unread = (Line.cut i.unread).2 := by
  cases hs : i.supply with
  | bytes rest =>
    obtain ⟨j, hr, -, hj⟩ := readLine_of_flows ⟨rest, hs⟩
    rw [hr, hj]
  | broken cause =>
    rw [unread_of_broken hs]
    simp only [readLine, hs]
    split
    · rfl
    · next hnot =>
      rw [Line.cut_of_not_mem hnot]
      rfl

end Console.Input

namespace Machine

/-- What a request for a line gets next; nothing if the prompt is cancelled. -/
def nextLine? (m : Machine) (standIn : String) : Option String :=
  match m.valueSource with
  | .console => some (m.state.channels.input.nextLine standIn)
  | .popup id | .pane id => m.nextAnswer? id
  | .field id => some (Line.text (Line.cut (m.fieldBytes id)).1)

/-- What is left of a source after a line was taken from it; nothing is taken from any other. -/
inductive UsesUp (m n : Machine) : Source → Prop where
  | console :
    n.state.channels.input.unread = (Line.cut m.state.channels.input.unread).2 →
    n.fronts = m.fronts →
    n.fieldRest = m.fieldRest →
    UsesUp m n .console
  | popup {id} :
    n.fronts = m.fronts.modify id (fun f => f.answer.2) →
    n.state.channels.input = m.state.channels.input →
    n.fieldRest = m.fieldRest →
    UsesUp m n (.popup id)
  | pane {id} :
    n.fronts = m.fronts.modify id (fun f => f.answer.2) →
    n.state.channels.input = m.state.channels.input →
    n.fieldRest = m.fieldRest →
    UsesUp m n (.pane id)
  | field {id} :
    n.fieldBytes id = (Line.cut (m.fieldBytes id)).2 →
    n.state.channels.input = m.state.channels.input →
    n.fronts = m.fronts →
    UsesUp m n (.field id)

/-- A line was taken from the source of values. Whatever is not input is as it was, but for the log and what
was shown. -/
structure TakesLine (m n : Machine) : Prop where
  source : m.UsesUp n m.valueSource
  front : n.front = m.front
  settings : n.settings = m.settings
  disk : n.disk = m.disk
  table : n.state.table = m.state.table
  output : n.state.channels.output = m.state.channels.output
  error : n.state.channels.error = m.state.channels.error
  lastError : n.lastError = m.lastError

variable {m n : Machine} {r : Request} {asked : Option (Option String)}

/-- To serve a request for a line is to take one. -/
lemma Serves.takesLine (h : m.Serves r asked n) (hcount : r.count = none) (hprompt : r.prompt.isSome) :
    m.TakesLine n := by
  have hnot : r.prompt ≠ none := Option.isSome_iff_ne_none.mp hprompt
  cases h with
  | console ha hinput herr =>
    have hsource : m.valueSource = .console := by simp [valueSource, ha]
    refine ⟨hsource ▸ .console ?_ rfl rfl, rfl, rfl, rfl, rfl, rfl, rfl, herr hprompt⟩
    simp only [hinput, Request.drain, hcount]
    exact Console.Input.unread_readLine _
  | @popup id _ _ _ ha hpopup _ =>
    have hsource : m.valueSource = .popup id := by simp only [valueSource, ha, hpopup, if_true]
    exact ⟨hsource ▸ .popup rfl rfl rfl, rfl, rfl, rfl, rfl, rfl, rfl, rfl⟩
  | @pane id _ _ ha hpopup hi =>
    have hsource : m.valueSource = .pane id := by simp [valueSource, ha, hpopup.resolve_right hnot, hi]
    exact ⟨hsource ▸ .pane rfl rfl rfl, rfl, rfl, rfl, rfl, rfl, rfl, rfl⟩
  | @field id _ _ _ ha hpopup hi hleft =>
    have hsource : m.valueSource = .field id := by simp [valueSource, ha, hpopup.resolve_right hnot, hi]
    refine ⟨hsource ▸ .field ?_ rfl rfl, rfl, rfl, rfl, rfl, rfl, rfl, rfl⟩
    simp only [hleft, Request.rest, hcount]
    rfl

/-- A line is taken from the source in force, and nothing else is. -/
lemma obtainLine_takesLine (m : Machine) (standIn prompt : String) (limit : Int) :
    m.TakesLine (m.obtainLine standIn prompt limit).2 := by
  have obtains := m.obtainLine_obtains standIn prompt limit
  generalize m.obtainLine standIn prompt limit = obtained at obtains ⊢
  cases obtains with
  | cancelled serves => exact serves.takesLine rfl rfl
  | answered serves => exact serves.takesLine rfl rfl
  | unasked serves => exact serves.takesLine rfl rfl

/-- At the end of the console there is no line, and the text of no bytes stands for it. -/
lemma readConsoleLine_eq (m : Machine) (standIn : String) :
    (m.readConsoleLine standIn).1 = m.state.channels.input.nextLine standIn := by
  simp only [readConsoleLine, Console.Channels.readLine, Console.Input.nextLine_eq]
  cases m.state.channels.input.readLine.1 with
  | ok line => by_cases hl : line = [] <;> simp [hl, Except.map, Except.toOption]
  | error cause => rfl

/-- A line that is obtained is the next line of the source in force, if it is not cancelled. -/
lemma obtainLine_eq (m : Machine) (standIn prompt : String) (limit : Int) :
    (m.obtainLine standIn prompt limit).1 = heard (m.nextLine? standIn) := by
  cases hs : m.valueSource with
  | console => simp only [obtainLine, nextLine?, hs, readConsoleLine_eq, heard]
  | popup id =>
    obtain ⟨es, h⟩ := m.askPopup_eq id prompt
    simp only [obtainLine, nextLine?, hs, h]
  | pane id =>
    obtain ⟨es, h⟩ := m.askPane_eq id limit
    simp only [obtainLine, nextLine?, hs, h]
  | field id => simp only [obtainLine, nextLine?, hs, readFieldLine, heard]

/-- A value is read from the next line. -/
lemma readValue_eq {α ε : Type} (m : Machine) (what : String) (service : Nat)
    (parse : String → Except ε α) (message : ε → String) :
    (m.readValue what service parse message).1 =
        (match m.nextLine? "0" with
          | none => .error (.cancelled .cancelled)
          | some line => valueOfLine parse message line) ∧
      m.TakesLine (m.readValue what service parse message).2 := by
  have hline := m.obtainLine_eq "0" s!"Enter {what} (syscall {service})" (-1)
  have takes := m.obtainLine_takesLine "0" s!"Enter {what} (syscall {service})" (-1)
  cases ho : m.obtainLine "0" s!"Enter {what} (syscall {service})" (-1) with
  | mk outcome n =>
    rw [ho] at hline takes
    cases hnext : m.nextLine? "0" with
    | none =>
      obtain rfl : outcome = .error .cancelled := by simpa [hnext, heard] using hline
      simpa only [readValue, ho, true_and] using takes
    | some line =>
      obtain rfl : outcome = .ok line := by simpa [hnext, heard] using hline
      rw [readValue_of_obtainLine ho]
      exact ⟨rfl, takes⟩

/-- On the console the next line is that of all that is left. -/
lemma OnConsole.nextLine?_eq {left : List UInt8} (h : m.OnConsole Console.Input.Flows left)
    (standIn : String) : m.nextLine? standIn = some (Line.text (Line.cut left).1) := by
  have hsource : m.valueSource = .console := by simp [valueSource, h.detached]
  obtain ⟨rest, hs⟩ := h.reader
  simp only [nextLine?, hsource, Console.Input.nextLine, hs, h.unread]

/-- On the static field the next line is that of all that is left. -/
lemma OnField.nextLine?_eq {left : List UInt8} (h : m.OnField left) (standIn : String) :
    m.nextLine? standIn = some (Line.text (Line.cut left).1) := by
  obtain ⟨id, f, ha, hf, hleft⟩ := h.attached
  have hsource : m.valueSource = .field id := by simp [valueSource, ha, h.popup, hf]
  simp only [nextLine?, hsource, hleft]

end Machine

/-- What a call takes for its line where the console fails. -/
def Call.standIn : Call → String
  | .readString .. => ""
  | _ => "0"

namespace World

variable {w : World} {c : Call} {answer : String → Reply}

/-- A call for a number replies by what is read from the next line. -/
lemma line_of_value {α ε : Type} (what : String) (service : Nat) (parse : String → Except ε α)
    (message : ε → String) (reply : Except ReadValueError α → Reply)
    (hcall : w.call c = (reply (w.machine.readValue what service parse message).1,
      { w with machine := (w.machine.readValue what service parse message).2 }))
    (hcancel : c.givenUp? = some (reply (.error (.cancelled .cancelled)))) :
    (∀ line, w.machine.nextLine? "0" = some line →
      (w.call c).1 = reply (Machine.valueOfLine parse message line)) ∧
    (w.machine.nextLine? "0" = none → c.givenUp? = some (w.call c).1) ∧
    ∃ n, (w.call c).2 = { w with machine := n } ∧ w.machine.TakesLine n := by
  obtain ⟨hvalue, takes⟩ := w.machine.readValue_eq what service parse message
  rw [hcall, hcancel, hvalue]
  refine ⟨fun line hline => ?_, fun hnone => ?_, _, rfl, takes⟩
  · rw [hline]
  · rw [hnone]

/-- A call that takes a line replies by the next one, or that the prompt for it was cancelled. -/
lemma line_call (hc : c.ofLine? = some answer) :
    (∀ line, w.machine.nextLine? c.standIn = some line → (w.call c).1 = answer line) ∧
    (w.machine.nextLine? c.standIn = none → c.givenUp? = some (w.call c).1) ∧
    ∃ n, (w.call c).2 = { w with machine := n } ∧ w.machine.TakesLine n := by
  cases c with
  | readString service limit =>
    cases hc
    have hline := w.machine.obtainLine_eq ""
      s!"Enter a string of maximum length {limit} (syscall {service})" limit
    simp only [call, Machine.readString, hline, Call.standIn]
    refine ⟨fun line h => ?_, fun h => ?_, _, rfl, w.machine.obtainLine_takesLine _ _ _⟩
    · rw [h]
      rfl
    · rw [h]
      rfl
  | readInteger service =>
    cases hc
    exact line_of_value "an integer value" service (Numeral.readInteger .word) (·.message) .integer rfl rfl
  | readLong service =>
    cases hc
    exact line_of_value "an integer value" service (Numeral.readInteger .long) (·.message) .long rfl rfl
  | readSingle service =>
    cases hc
    exact line_of_value "a float value" service (Numeral.readBinary .single) (·.message) .single rfl rfl
  | readDouble service =>
    cases hc
    exact line_of_value "a Double value" service (Numeral.readBinary .double) (·.message) .double rfl rfl
  | _ => cases hc

/-- Calls that do not use the intake leave it alone. -/
lemma intake_run (b : w.Bound) {calls : List (Time × Call)}
    (hcalls : ∀ entry ∈ calls, entry.2.usesIntake = false) :
    (w.run calls).2.machine.intake = w.machine.intake := by
  induction calls generalizing w with
  | nil => rfl
  | cons entry calls ih =>
    obtain ⟨hentry, hrest⟩ := List.forall_mem_cons.mp hcalls
    have hstep := intake_call (b.atTime entry.1).active hentry
    exact (ih ((b.atTime entry.1).call entry.2) hrest).trans hstep

/-- The line behind the next one is left for the next call that takes a line, if none of the calls between
uses the intake. -/
lemma line_of_tape_run {On : Machine → List UInt8 → Prop} {left : List UInt8}
    (tape : Machine.Tape On) (intake : ∀ {m n rest}, On m rest → n.intake = m.intake → On n rest)
    (b : w.Bound) (h : On w.machine left) (hc : c.ofLine? = some answer)
    {between : List (Time × Call)} (hbetween : ∀ entry ∈ between, entry.2.usesIntake = false)
    (later : Time) {next : Call} {answer' : String → Reply} (hnext : next.ofLine? = some answer') :
    ((((w.call c).2.run between).2.atTime later).call next).1 =
      answer' (Line.text (Line.cut (Line.cut left).2).1) := by
  have hleft := (line_of_tape tape h hc).2
  have hkept := intake_run (b.call c) hbetween
  exact (line_of_tape tape (w := (((w.call c).2.run between).2).atTime later) (intake hleft hkept) hnext).1

end World

end Hostcall
