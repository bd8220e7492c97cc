import Hostcall.Proofs.World.Consumption

/-!
# The static field gives the same input as the console

A run with a front end in the mode of the static field and a run on the console read off two tapes. As
long as reads are not cut short by the end of a block, the tape alone decides what a call for input
answers (`Call.serve`, `serve_call`), so that the same text gives the same answers in both runs
(`field_like_console`).
-/

namespace Hostcall

open Pane

/-- Whether a call leaves a session as it is: it sets no front end and no settings, exchanges no state and
resets nothing. -/
def Call.keepsSession : Call → Bool
  | .resetFiles | .attachNew _ | .attach _ | .adjustFront .. | .swap _ | .setSettings _ => false
  | _ => true

/-- What a call for input answers when `left` is what is left of the input and a read takes as much as it
can, and what is left after it. Other calls are not served. -/
def Call.serve (left : List UInt8) (c : Call) : Option Reply × List UInt8 :=
  match c with
  | .readChar _ => (some (.char (.ok (charCode left.head?))), left.tail)
  | .readFrom fd buffer =>
    if fd = StdChannel.input.fd then
      let bytes := left.take buffer.length
      (some (.read ⟨.ok (Machine.countCode bytes.length), bytes ++ buffer.drop bytes.length⟩),
        left.drop buffer.length)
    else (none, left)
  | c =>
    match c.ofLine? with
    | some answer => (some (answer (Line.text (Line.cut left).1)), (Line.cut left).2)
    | none => (none, left)

/-- Exactly the calls that take input are served. -/
lemma Call.takesInput_iff (left : List UInt8) (c : Call) :
    c.takesInput = true ↔ ∃ r, (c.serve left).1 = some r := by
  cases c with
  | readFrom fd buffer => by_cases hfd : fd = StdChannel.input.fd <;> simp [takesInput, serve, hfd]
  | _ => simp [takesInput, serve, ofLine?]

/-- A tape that is a matter of the intake, and off which a read takes as much as it can if it asks for a
number of bytes that is allowed. -/
structure Machine.FullTape (On : Machine → List UInt8 → Prop) (allowed : Nat → Prop) : Prop
    extends Tape On where
  intake {m n left} : On m left → n.intake = m.intake → On n left
  bytes {m left count} : On m left → allowed count →
    ∃ n, m.obtainBytes count = (.ok (.ok { bytes := left.take count }), n) ∧ On n (left.drop count)

namespace Machine

/-- On any console single bytes are not cut short. -/
lemma fullTape_flows : FullTape (OnConsole Console.Input.Flows) (· ≤ 1) where
  toTape := onConsole_tape Console.Input.flows_steady
  intake h hi := h.of_intake hi
  bytes {m left count} h hc := by
    obtain ⟨j, hr, hj, hrest⟩ := Console.Input.read_of_le_one h.reader hc
    rw [h.unread] at hr hrest
    exact ⟨_, h.obtainBytes_eq hr, h.setInput hj hrest⟩

/-- Where everything fits into one block, nothing is cut short. -/
lemma fullTape_fits : FullTape (OnConsole Console.Input.Fits) fun _ => True where
  toTape := onConsole_tape Console.Input.fits_steady
  intake h hi := h.of_intake hi
  bytes {m left count} h _ := by
    obtain ⟨j, hr, hj, hrest⟩ := h.reader.read count
    rw [h.unread] at hr hrest
    exact ⟨_, h.obtainBytes_eq hr, h.setInput hj hrest⟩

/-- Nothing of the static field is ever cut short. -/
lemma fullTape_field : FullTape OnField fun _ => True where
  toTape := onField_tape
  intake h hi := h.of_intake hi
  bytes h _ := h.obtainBytes _

end Machine

namespace World

section

variable {On : Machine → List UInt8 → Prop} {allowed : Nat → Prop} {w : World} {left : List UInt8}

/-- The tape decides what a call for input answers; other calls leave it alone. -/
lemma serve_call (tape : Machine.FullTape On allowed) (b : w.Bound) (h : On w.machine left) {c : Call}
    (hc : c.keepsSession = true)
    (hread : ∀ buffer, c = .readFrom StdChannel.input.fd buffer → allowed buffer.length) :
    (∀ r, (c.serve left).1 = some r → (w.call c).1 = r) ∧
      On (w.call c).2.machine (c.serve left).2 := by
  cases hline : c.ofLine? with
  | some answer =>
    have hserve : c.serve left =
        (some (answer (Line.text (Line.cut left).1)), (Line.cut left).2) := by
      cases c <;> simp_all [Call.serve, Call.ofLine?]
    obtain ⟨hreply, hon⟩ := line_of_tape tape.toTape h hline
    rw [hserve]
    exact ⟨fun r hr => hreply.trans (Option.some.inj hr), hon⟩
  | none =>
    by_cases huse : c.usesIntake = false
    · have hserve : c.serve left = (none, left) := by
        cases c <;> simp_all [Call.serve, Call.usesIntake, Call.ofLine?]
      rw [hserve]
      exact ⟨by simp, tape.intake h (intake_call b.active huse)⟩
    cases c with
    | readChar service =>
      obtain ⟨hreply, hon⟩ := readChar_of_tape tape.toTape h service
      exact ⟨fun r hr => hreply.trans (Option.some.inj hr), hon⟩
    | readFrom fd buffer =>
      obtain rfl : fd = StdChannel.input.fd := by simpa [Call.usesIntake] using huse
      obtain ⟨n, hobt, hon⟩ := tape.bytes h (hread buffer rfl)
      obtain ⟨hreply, hintake⟩ := Machine.readFrom_of_obtainBytes b.active hobt
      simp only [Call.serve, if_true]
      exact ⟨fun r hr => (congrArg Reply.read hreply).trans (Option.some.inj hr),
        tape.intake hon hintake⟩
    | readString | readInteger | readLong | readSingle | readDouble => cases hline
    | resetFiles | attachNew | attach | adjustFront | swap | setSettings => cases hc
    | _ => exact absurd rfl huse

end

/-- Two runs off tapes with the same bytes answer every call for input alike. -/
lemma replies_of_tapes {On Off : Machine → List UInt8 → Prop} {few many : Nat → Prop}
    (on : Machine.FullTape On few) (off : Machine.FullTape Off many) {calls : List (Time × Call)}
    (hcalls : ∀ entry ∈ calls, entry.2.keepsSession = true)
    (hreads : ∀ now buffer, (now, .readFrom StdChannel.input.fd buffer) ∈ calls →
      few buffer.length ∧ many buffer.length)
    {w v : World} (bw : w.Bound) (bv : v.Bound) {left : List UInt8}
    (hw : On w.machine left) (hv : Off v.machine left) {i : Nat} {now : Time} {c : Call}
    (hi : calls[i]? = some (now, c)) (hc : c.takesInput = true) :
    (w.run calls).1[i]? = (v.run calls).1[i]? := by
  induction calls generalizing w v left i with
  | nil => cases hi
  | cons entry calls ih =>
    obtain ⟨time, d⟩ := entry
    have hkeeps : d.keepsSession = true := hcalls _ (.head _)
    have hread buffer (hd : d = .readFrom StdChannel.input.fd buffer) :
        few buffer.length ∧ many buffer.length := hreads time buffer (hd ▸ .head _)
    obtain ⟨hreply, hon⟩ := serve_call on (bw.atTime time) (on.intake (n := (w.atTime time).machine)
      hw rfl) hkeeps fun buffer hd => (hread buffer hd).1
    obtain ⟨hreply', hoff⟩ := serve_call off (bv.atTime time) (off.intake
      (n := (v.atTime time).machine) hv rfl) hkeeps fun buffer hd => (hread buffer hd).2
    cases i with
    | zero =>
      obtain rfl : d = c := by simpa using congrArg (Option.map Prod.snd) hi
      obtain ⟨r, hr⟩ := (Call.takesInput_iff left d).mp hc
      rw [replies_cons, replies_cons, hreply r hr, hreply' r hr]
      rfl
    | succ i =>
      exact ih (fun e he => hcalls e (.tail _ he)) (fun t buffer he => hreads t buffer (.tail _ he))
        ((bw.atTime time).call d) ((bv.atTime time).call d) hon hoff hi

/-- The console of one machine supplies the bytes of a text, and the front end that was just attached to
another gives input from a static field with that text; no modal prompts are wanted there. If the text
fits into one block, or no read asks for more than one byte, every call for input gives the same answer
in both, and the same bytes in its buffer. -/
theorem field_like_console {w v : World} (bw : w.Bound) (bv : v.Bound) {text : String}
    (hdetached : w.machine.attached? = none)
    (hconsole : w.machine.state.channels.input = { supply := .bytes (Utf8.encode text) })
    {id : FrontEndId} {front : FrontEnd} (hattached : v.machine.attached? = some (id, front))
    (hmode : front.interactive = false) (hfield : front.field = text)
    (hunread : v.machine.fieldRest = none) (hpopup : v.machine.settings.popup = false)
    {calls : List (Time × Call)} (hcalls : ∀ entry ∈ calls, entry.2.keepsSession = true)
    (hsize : (Utf8.encode text).length ≤ 8192 ∨
      ∀ now buffer, (now, .readFrom StdChannel.input.fd buffer) ∈ calls → buffer.length ≤ 1)
    {i : Nat} {now : Time} {c : Call} (hi : calls[i]? = some (now, c)) (hc : c.takesInput = true) :
    (w.run calls).1[i]? = (v.run calls).1[i]? := by
  have hleft : v.machine.fieldBytes id = Utf8.encode text := by
    simp [Machine.fieldBytes, hunread, Machine.fronts_of_attached? hattached, hfield]
  have off : v.machine.OnField (Utf8.encode text) := ⟨hpopup, id, front, hattached, hmode, hleft⟩
  have hfetched : w.machine.state.channels.input.unread = Utf8.encode text := by
    simp [hconsole, Console.Input.unread, Console.Input.held]
  obtain hfits | hsingle := hsize
  · have on : w.machine.OnConsole Console.Input.Fits (Utf8.encode text) :=
      ⟨hdetached, hconsole ▸ ⟨_, rfl, hfits, .inl rfl⟩, hfetched⟩
    exact replies_of_tapes Machine.fullTape_fits Machine.fullTape_field hcalls
      (fun _ _ _ => ⟨trivial, trivial⟩) bw bv on off hi hc
  · have on : w.machine.OnConsole Console.Input.Flows (Utf8.encode text) :=
      ⟨hdetached, hconsole ▸ ⟨_, rfl⟩, hfetched⟩
    exact replies_of_tapes Machine.fullTape_flows Machine.fullTape_field hcalls
      (fun now buffer he => ⟨hsingle now buffer he, trivial⟩) bw bv on off hi hc

/-- A read takes half a character, output is printed, and the line goes on behind it in both. -/
theorem field_like_console_split :
    let text := "é1\n42"
    let front : FrontEnd := { interactive := false, field := text }
    let w : World := { machine := .start {} (.ofHome ["scratch"]) (.memory (Utf8.encode text)) .none }
    let v := (scratch.call (.attachNew front)).2
    let calls : List (Time × Call) :=
      [(0, .readFrom 0 [0]), (1, .print "?"), (2, .readString 8 80), (3, .readInteger 5)]
    (w.Bound ∧ v.Bound) ∧ w.machine.attached? = none ∧
      w.machine.state.channels.input = { supply := .bytes (Utf8.encode text) } ∧
      v.machine.attached? = some (0, front) ∧ v.machine.fieldRest = none ∧
      v.machine.settings.popup = false ∧ (∀ entry ∈ calls, entry.2.keepsSession = true) ∧
      (Utf8.encode text).length ≤ 8192 ∧ (w.run calls).1[2]? = (v.run calls).1[2]? := by
  intro text front w v calls
  have bw : w.Bound :=
    (fresh_start {} (.ofHome ["scratch"]) .none (.memory (Utf8.encode text)) []).bound
  have bv : v.Bound := fresh_scratch.bound.call _
  have hattached : v.machine.attached? = some (0, front) := by decide +kernel
  have hcalls : ∀ entry ∈ calls, entry.2.keepsSession = true := by decide
  have hsize : (Utf8.encode text).length ≤ 8192 := by decide +kernel
  exact ⟨⟨bw, bv⟩, rfl, rfl, hattached, rfl, rfl, hcalls, hsize,
    field_like_console bw bv rfl rfl hattached rfl rfl rfl rfl hcalls (.inl hsize) (i := 2) rfl rfl⟩

end World

end Hostcall
