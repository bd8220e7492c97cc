import Hostcall.Proofs.Console.Reading
import Hostcall.Proofs.Machine.Intake

/-!
# Input as a tape

Without a front end all input comes off one list of bytes, the console's (`OnConsole`); with a front end
in the mode of the static field it comes off another, the field's (`OnField`). Either is a tape: a line
takes the next line off it and a character the next byte (`onConsole_tape`, `onField_tape`), and what a
call answers follows from what it took (`Tape.call`).
-/

namespace Hostcall

open Pane

namespace Machine

/-- No front end is attached, the console's reader is as `P` says, and `left` is what it has still to
give. -/
structure OnConsole (P : Console.Input → Prop) (m : Machine) (left : List UInt8) : Prop where
  detached : m.attached? = none
  reader : P m.state.channels.input
  unread : m.state.channels.input.unread = left

/-- The front end that is attached gives input from its static field, of which `left` is left. -/
structure OnField (m : Machine) (left : List UInt8) : Prop where
  popup : m.settings.popup = false
  attached : ∃ id f, m.attached? = some (id, f) ∧ f.interactive = false ∧ m.fieldBytes id = left

/-- Lines and single bytes are taken off the front of what `On` says is left. -/
structure Tape (On : Machine → List UInt8 → Prop) : Prop where
  line {m left} : On m left → ∀ standIn prompt limit,
    ∃ n, m.obtainLine standIn prompt limit = (.ok (Line.text (Line.cut left).1), n) ∧
      On n (Line.cut left).2
  byte {m left} : On m left → ∀ prompt,
    ∃ n, m.obtainByte prompt = (.ok left.head?, n) ∧ On n left.tail

/-! ## The console -/

section

variable {P : Console.Input → Prop} {m n : Machine} {left rest : List UInt8}

/-- Being on the console is a matter of the front ends and the console's reader. -/
lemma OnConsole.congr (h : m.OnConsole P left) (hfront : n.front = m.front)
    (hfronts : n.fronts = m.fronts)
    (hinput : n.state.channels.input = m.state.channels.input) : n.OnConsole P left where
  detached := (attached?_congr hfront hfronts).trans h.detached
  reader := hinput ▸ h.reader
  unread := hinput ▸ h.unread

/-- Machines with one intake are on the console alike. -/
lemma OnConsole.of_intake (h : m.OnConsole P left) (hi : n.intake = m.intake) : n.OnConsole P left :=
  h.congr (congrArg Intake.front hi) (congrArg Intake.fronts hi) (congrArg Intake.input hi)

/-- A reset leaves what the console has still to give. -/
lemma OnConsole.resetFiles (h : m.OnConsole P left) : m.resetFiles.OnConsole P left :=
  h.congr (m.touches_resetFiles .front rfl) (m.touches_resetFiles .fronts rfl) (m.touches_resetFiles.input rfl)

/-- Input that was read from is put back. -/
lemma OnConsole.setInput (h : m.OnConsole P left) {j : Console.Input} (hj : P j)
    (hrest : j.unread = rest) :
    (m.setChannels { m.state.channels with input := j }).OnConsole P rest :=
  ⟨h.detached, hj, hrest⟩

/-- A console with a steady reader is a tape. -/
lemma onConsole_tape (steady : Console.Input.Steady P) : Tape (OnConsole P) where
  line {m left} h standIn prompt limit := by
    obtain ⟨j, hr, hj, hrest⟩ := steady.line h.reader
    rw [h.unread] at hr hrest
    refine ⟨_, ?_, h.setInput hj hrest⟩
    have hsource : m.valueSource = .console := by simp [valueSource, h.detached]
    simp only [obtainLine, hsource, readConsoleLine, Console.Channels.readLine, hr, Except.map]
    -- At the end there is no line, and the text of no bytes stands for it.
    by_cases hl : (Line.cut left).1 = [] <;> simp [hl]
  byte {m left} h prompt := by
    obtain ⟨j, hr, hj, hrest⟩ := steady.byte h.reader
    rw [h.unread] at hr hrest
    refine ⟨_, ?_, h.setInput hj (hrest.trans List.drop_one)⟩
    have hsource : m.valueSource = .console := by simp [valueSource, h.detached]
    simp [obtainByte, hsource, readConsoleByte, Console.Channels.read, hr, List.head?_take]

/-- Bytes of the console are what its reader gives. -/
lemma OnConsole.obtainBytes_eq (h : m.OnConsole P left) {count : Nat} {bytes : List UInt8}
    {j : Console.Input} (hr : m.state.channels.input.read count = (.ok bytes, j)) :
    m.obtainBytes count =
      (.ok (.ok { bytes }), m.setChannels { m.state.channels with input := j }) := by
  have hsource : m.byteSource = .console := by simp [byteSource, h.detached]
  simp only [obtainBytes, hsource, Console.Channels.read, hr]
  rfl

/-- Bytes come off the front of the console, at least one if any were asked for and there are any. -/
lemma OnConsole.obtainBytes (h : m.OnConsole Console.Input.Flows left) (count : Nat) :
    ∃ bytes rest n, m.obtainBytes count = (.ok (.ok { bytes }), n) ∧
      n.OnConsole Console.Input.Flows rest ∧ left = bytes ++ rest ∧ bytes.length ≤ count ∧
      (bytes = [] → count = 0 ∨ left = []) := by
  obtain ⟨bytes, j, hr, hj, hnil⟩ := Console.Input.read_of_flows h.reader count
  have hunread := Console.Input.unread_of_read hr
  rw [h.unread] at hnil hunread
  exact ⟨bytes, j.unread, _, h.obtainBytes_eq hr, h.setInput hj rfl, hunread,
    Console.Input.length_of_read hr, hnil⟩

end

/-! ## The static field -/

/-- Machines with one intake are on the field alike. -/
lemma OnField.of_intake {m n : Machine} {left : List UInt8} (h : m.OnField left)
    (hi : n.intake = m.intake) : n.OnField left where
  popup := (congrArg Intake.popup hi).trans h.popup
  attached := by
    have hfronts : n.fronts = m.fronts := congrArg Intake.fronts hi
    obtain ⟨id, f, ha, hf, hleft⟩ := h.attached
    exact ⟨id, f, (attached?_congr (congrArg Intake.front hi) hfronts).trans ha, hf,
      (fieldBytes_congr hfronts (congrArg Intake.fieldRest hi) id).trans hleft⟩

/-- What is left of the field is put back. -/
lemma OnField.setRest {m : Machine} {left : List UInt8} (h : m.OnField left) (rest : List UInt8) :
    { m with fieldRest := some rest }.OnField rest where
  popup := h.popup
  attached := by
    obtain ⟨id, f, ha, hf, -⟩ := h.attached
    exact ⟨id, f, ha, hf, rfl⟩

/-- The static field is a tape. -/
lemma onField_tape : Tape OnField where
  line {m left} h standIn prompt limit := by
    obtain ⟨id, f, ha, hf, hleft⟩ := h.attached
    have hsource : m.valueSource = .field id := by simp [valueSource, ha, h.popup, hf]
    refine ⟨_, ?_, h.setRest (Line.cut left).2⟩
    simp [obtainLine, hsource, readFieldLine, hleft]
  byte {m left} h prompt := by
    obtain ⟨id, f, ha, hf, hleft⟩ := h.attached
    have hsource : m.valueSource = .field id := by simp [valueSource, ha, h.popup, hf]
    refine ⟨_, ?_, h.setRest left.tail⟩
    simp [obtainByte, hsource, readField, hleft, List.head?_take]

/-- Bytes come off the front of the field, as many as were asked for as long as there are any. -/
lemma OnField.obtainBytes {m : Machine} {left : List UInt8} (h : m.OnField left) (count : Nat) :
    ∃ n, m.obtainBytes count = (.ok (.ok { bytes := left.take count }), n) ∧
      n.OnField (left.drop count) := by
  obtain ⟨id, f, ha, hf, hleft⟩ := h.attached
  have hsource : m.byteSource = .field id := by simp [byteSource, ha, hf]
  refine ⟨_, ?_, h.setRest (left.drop count)⟩
  simp [Machine.obtainBytes, hsource, readField, hleft]

/-! ## Answers -/

/-- A read of the standard input gives the guest the bytes that were obtained. -/
lemma readFrom_of_obtainBytes {m n : Machine} (b : m.state.table.Bound) {buffer bytes : List UInt8}
    (h : m.obtainBytes buffer.length = (.ok (.ok { bytes }), n)) :
    (m.readFrom StdChannel.input.fd buffer).1 =
        ⟨.ok (countCode bytes.length), bytes ++ buffer.drop bytes.length⟩ ∧
      (m.readFrom StdChannel.input.fd buffer).2.intake = n.intake := by
  simp only [readFrom, b.require_read, if_true, h]
  exact ⟨rfl, (touches_endRead _ _ _ _).intake rfl⟩

/-- What becomes of a line that is to be a value. -/
def valueOfLine {α ε : Type} (parse : String → Except ε α) (message : ε → String) (line : String) :
    Except ReadValueError α :=
  match parse (Text.trim line) with
  | .error e => .error (.parse (Text.trim line) (message e))
  | .ok value => .ok value

/-- A value is read from the line that was obtained, and from nothing else. -/
lemma readValue_of_obtainLine {α ε : Type} {m n : Machine} {what line : String} {service : Nat}
    {parse : String → Except ε α} {message : ε → String}
    (h : m.obtainLine "0" s!"Enter {what} (syscall {service})" (-1) = (.ok line, n)) :
    m.readValue what service parse message = (valueOfLine parse message line, n) := by
  simp only [readValue, h, valueOfLine]
  cases parse (Text.trim line) <;> rfl

end Machine

/-- What a call that takes a line answers when this is the line. -/
def Call.ofLine? : Call → Option (String → Reply)
  | .readString _ limit => some fun line => .text (.ok (cutLineTo limit line))
  | .readInteger _ => some fun line =>
    .integer (Machine.valueOfLine (Numeral.readInteger .word) (·.message) line)
  | .readLong _ => some fun line =>
    .long (Machine.valueOfLine (Numeral.readInteger .long) (·.message) line)
  | .readSingle _ => some fun line =>
    .single (Machine.valueOfLine (Numeral.readBinary .single) (·.message) line)
  | .readDouble _ => some fun line =>
    .double (Machine.valueOfLine (Numeral.readBinary .double) (·.message) line)
  | _ => none

namespace World

variable {On : Machine → List UInt8 → Prop} {w : World} {left : List UInt8}

/-- A character is the next byte of the tape. -/
lemma readChar_of_tape (tape : Machine.Tape On) (h : On w.machine left) (service : Nat) :
    (w.call (.readChar service)).1 = .char (.ok (charCode left.head?)) ∧
      On (w.call (.readChar service)).2.machine left.tail := by
  obtain ⟨n, hn, hon⟩ := tape.byte h s!"Enter a character value (syscall {service})"
  simp only [call, Machine.readChar, hn]
  exact ⟨rfl, hon⟩

/-- A call that takes a line answers by the next line of the tape. -/
lemma line_of_tape (tape : Machine.Tape On) (h : On w.machine left) {c : Call}
    {answer : String → Reply} (hc : c.ofLine? = some answer) :
    (w.call c).1 = answer (Line.text (Line.cut left).1) ∧
      On (w.call c).2.machine (Line.cut left).2 := by
  have hvalue (what : String) (service : Nat) :=
    tape.line h "0" s!"Enter {what} (syscall {service})" (-1)
  cases c with
  | readString service limit =>
    cases hc
    obtain ⟨n, hn, hon⟩ := tape.line h ""
      s!"Enter a string of maximum length {limit} (syscall {service})" limit
    simp only [call, Machine.readString, hn]
    exact ⟨rfl, hon⟩
  | readInteger service =>
    cases hc
    obtain ⟨n, hn, hon⟩ := hvalue "an integer value" service
    simp [call, Machine.readInteger, Machine.readValue_of_obtainLine hn, hon]
  | readLong service =>
    cases hc
    obtain ⟨n, hn, hon⟩ := hvalue "an integer value" service
    simp [call, Machine.readLong, Machine.readValue_of_obtainLine hn, hon]
  | readSingle service =>
    cases hc
    obtain ⟨n, hn, hon⟩ := hvalue "a float value" service
    simp [call, Machine.readSingle, Machine.readValue_of_obtainLine hn, hon]
  | readDouble service =>
    cases hc
    obtain ⟨n, hn, hon⟩ := hvalue "a Double value" service
    simp [call, Machine.readDouble, Machine.readValue_of_obtainLine hn, hon]
  | _ => cases hc

end World

end Hostcall
