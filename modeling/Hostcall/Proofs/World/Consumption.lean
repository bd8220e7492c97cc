import Hostcall.Proofs.Machine.Tape
import Hostcall.Proofs.World.Streams

/-!
# Input is consumed in order

While no front end is attached, the calls of a run move one position through the bytes that the console
supplies. `Takes` says for every call what it may answer at a position and where it moves; the calls of a
run follow each other from the beginning (`consumed_in_order`), so that no byte is lost, given twice or
given out of turn.
-/

namespace Hostcall

open Pane

/-- From `p` to `q` reaches one line of the input: to behind the next newline, or to the end. -/
structure Line.Spans (input : List UInt8) (p q : Nat) : Prop where
  le : p ≤ q
  within : q ≤ input.length
  single : newline ∉ ((input.drop p).take (q - p)).dropLast
  ended : ((input.drop p).take (q - p)).getLast? = some newline ∨ q = input.length

/-- What bytes say as a line: all of them but the line's end, read as text. A line ends in a newline, and a
carriage return before it belongs to the end; the last line may have no end. -/
inductive Line.Says : List UInt8 → String → Prop where
  | newline {core} :
    core.getLast? ≠ some carriageReturn →
    Says (core ++ [newline]) (Utf8.decode core)
  | carriageReturn {core} :
    Says (core ++ [carriageReturn, newline]) (Utf8.decode core)
  | unended {core} :
    core.getLast? ≠ some newline →
    Says core (Utf8.decode core)

/-- Whether a call takes something off the input. -/
def Call.takesInput : Call → Bool
  | .readFrom fd _ => fd = StdChannel.input.fd
  | .readChar _ => true
  | c => c.ofLine?.isSome

/-- Whether a call leaves it as it is where input comes from: it sets no front end and exchanges no
state. -/
def Call.keepsSource : Call → Bool
  | .attachNew _ | .attach _ | .adjustFront .. | .swap _ => false
  | _ => true

namespace World

/-- What a call may answer at position `p` of the input, and the position to which it moves. -/
inductive Takes (input : List UInt8) (p : Nat) : Call → Reply → Nat → Prop where
  /-- At the end there is no character. -/
  | noChar {service} :
    input[p]? = none →
    Takes input p (.readChar service) (.char (.ok endOfInput)) p
  /-- A character is one byte: a tab, a newline or printable, or else without a code of its own. -/
  | char {service b} :
    input[p]? = some b →
    Takes input p (.readChar service)
      (.char (.ok (if b = 9 ∨ b = 10 ∨ (32 ≤ b ∧ b ≤ 126) then b.toNat else notPrintable))) (p + 1)
  /-- A read takes the bytes whose number it returns (as far as a register holds it), at least one if there
  are any and any fit, and puts them at the front of the buffer. -/
  | bytes {buffer n} :
    n ≤ buffer.length →
    p + n ≤ input.length →
    (0 < buffer.length → p < input.length → 1 ≤ n) →
    Takes input p (.readFrom StdChannel.input.fd buffer)
      (.read ⟨.ok (Machine.countCode n), (input.drop p).take n ++ buffer.drop n⟩) (p + n)
  /-- A line is everything up to its end; the call works on what the bytes passed over say. -/
  | line {c answer text q} :
    c.ofLine? = some answer →
    Line.Spans input p q →
    Line.Says ((input.drop p).take (q - p)) text →
    Takes input p c (answer text) q
  /-- All other calls leave the input alone. -/
  | apart {c r} :
    c.takesInput = false →
    Takes input p c r p

/-- Calls with their replies, each at the position to which the one before moved. -/
inductive Consumes (input : List UInt8) : Nat → List Call → List Reply → Nat → Prop where
  | done {p} :
    Consumes input p [] [] p
  | next {p q r c reply calls replies} :
    Takes input p c reply q →
    Consumes input q calls replies r →
    Consumes input p (c :: calls) (reply :: replies) r

end World

/-- Where what is left at a position begins with some bytes, these lie between that position and the one
after them. -/
lemma passed_of_drop {input passed rest : List UInt8} {p : Nat} (hp : p ≤ input.length)
    (h : input.drop p = passed ++ rest) :
    p + passed.length ≤ input.length ∧ (input.drop p).take passed.length = passed ∧
      input.drop (p + passed.length) = rest := by
  have hlen := congrArg List.length h
  rw [List.length_drop, List.length_append] at hlen
  refine ⟨by omega, ?_, ?_⟩
  · rw [h, List.take_left]
  · rw [← List.drop_drop, h, List.drop_left]

namespace Line

/-- A line has no newline but at its end, and ends in one unless nothing follows. -/
lemma cut_ends (bytes : List UInt8) :
    newline ∉ (cut bytes).1.dropLast ∧ ((cut bytes).1.getLast? = some newline ∨ (cut bytes).2 = []) := by
  induction bytes with
  | nil => simp
  | cons b bytes ih =>
    obtain ⟨hsingle, hended⟩ := ih
    rw [cut_cons]
    by_cases hb : b = newline
    · simp [hb]
    · rw [if_neg hb]
      cases hline : (cut bytes).1 with
      | nil => simp_all
      | cons c line =>
        rw [hline] at hsingle hended
        simp_all [Ne.symm hb]

/-- The next line of what is left at a position reaches from there. -/
lemma spans_cut {input : List UInt8} {p : Nat} (hp : p ≤ input.length) :
    ∃ q, Spans input p q ∧ (input.drop p).take (q - p) = (cut (input.drop p)).1 ∧
      input.drop q = (cut (input.drop p)).2 := by
  obtain ⟨hwithin, htake, hdrop⟩ := passed_of_drop hp (cut_append (input.drop p)).symm
  obtain ⟨hsingle, hended⟩ := cut_ends (input.drop p)
  have hpassed : (input.drop p).take (p + (cut (input.drop p)).1.length - p) =
      (cut (input.drop p)).1 := by rw [Nat.add_sub_cancel_left, htake]
  refine ⟨_, ⟨Nat.le_add_right _ _, hwithin, hpassed.symm ▸ hsingle, ?_⟩, hpassed, hdrop⟩
  rw [hpassed]
  refine hended.imp_right fun hnone => ?_
  rw [hnone, List.drop_eq_nil_iff] at hdrop
  omega

/-- The text of a line is what the line says. -/
lemma says_text (line : List UInt8) : Says line (text line) := by
  by_cases hn : line.getLast? = some newline
  · have hline := List.dropLast_append_getLast? _ hn
    by_cases hr : line.dropLast.getLast? = some carriageReturn
    · have hfront := List.dropLast_append_getLast? _ hr
      have hsays : Says (line.dropLast.dropLast ++ [carriageReturn, newline]) (text line) := by
        simp only [text, chop, if_pos hn, if_pos hr]
        exact .carriageReturn
      rwa [List.append_cons, hfront, hline] at hsays
    · have hsays : Says (line.dropLast ++ [newline]) (text line) := by
        simp only [text, chop, if_pos hn, if_neg hr]
        exact .newline hr
      rwa [hline] at hsays
  · simp only [text, chop, if_neg hn]
    exact .unended hn

end Line

namespace World

variable {w : World} {input : List UInt8}

/-- A call moves the position as far as it takes input, and the console has to give what lies behind. -/
lemma takes_call (b : w.Bound) {p : Nat} (hp : p ≤ input.length)
    (h : w.machine.OnConsole Console.Input.Flows (input.drop p)) {c : Call} (hc : c.keepsSource = true) :
    ∃ q, q ≤ input.length ∧ Takes input p c (w.call c).1 q ∧
      (w.call c).2.machine.OnConsole Console.Input.Flows (input.drop q) := by
  by_cases hline : c.ofLine?.isSome
  · obtain ⟨answer, ha⟩ := Option.isSome_iff_exists.mp hline
    obtain ⟨hreply, hon⟩ := line_of_tape (Machine.onConsole_tape Console.Input.flows_steady) h ha
    obtain ⟨q, spans, hpassed, hrest⟩ := Line.spans_cut hp
    refine ⟨q, spans.within, ?_, hrest ▸ hon⟩
    rw [hreply, ← hpassed]
    exact .line ha spans (Line.says_text _)
  by_cases huse : c.usesIntake = false
  · have hapart : c.takesInput = false := by
      cases c <;> first | exact huse | rfl
    exact ⟨p, hp, .apart hapart, h.of_intake (intake_call b.active huse)⟩
  cases c with
  | readChar service =>
    obtain ⟨hreply, hon⟩ := readChar_of_tape (Machine.onConsole_tape Console.Input.flows_steady) h service
    rw [List.head?_drop] at hreply
    rw [List.tail_drop] at hon
    cases hb : input[p]? with
    | none =>
      have hnone : input.drop (p + 1) = input.drop p := by
        rw [List.getElem?_eq_none_iff] at hb
        rw [List.drop_of_length_le hb, List.drop_of_length_le (by omega)]
      refine ⟨p, hp, ?_, hnone ▸ hon⟩
      rw [hreply, hb]
      exact .noChar hb
    | some byte =>
      have hlt : p < input.length := (List.getElem?_eq_some_iff.mp hb).1
      refine ⟨p + 1, hlt, ?_, hon⟩
      rw [hreply, hb]
      exact .char hb
  | readFrom fd buffer =>
    obtain rfl : fd = StdChannel.input.fd := by simpa [Call.usesIntake] using huse
    obtain ⟨bytes, rest, n, hobt, hon, hleft, hlen, hnil⟩ := h.obtainBytes buffer.length
    obtain ⟨hreply, hintake⟩ := Machine.readFrom_of_obtainBytes b.active hobt
    obtain ⟨hwithin, htake, hdrop⟩ := passed_of_drop hp hleft
    refine ⟨p + bytes.length, hwithin, ?_, (hdrop ▸ hon).of_intake hintake⟩
    have hsome (hbuffer : 0 < buffer.length) (hlt : p < input.length) : 1 ≤ bytes.length := by
      refine List.length_pos_iff.mpr fun hb => ?_
      obtain hzero | hend := hnil hb
      · omega
      · rw [List.drop_eq_nil_iff] at hend
        omega
    have takes := Takes.bytes hlen hwithin hsome
    rw [htake] at takes
    have hcall : (w.call (.readFrom StdChannel.input.fd buffer)).1 =
        .read ⟨.ok (Machine.countCode bytes.length), bytes ++ buffer.drop bytes.length⟩ :=
      congrArg Reply.read hreply
    rw [hcall]
    exact takes
  | resetFiles => exact ⟨p, hp, .apart rfl, h.resetFiles⟩
  | setSettings settings => exact ⟨p, hp, .apart rfl, h.congr rfl rfl rfl⟩
  | attachNew | attach | adjustFront | swap => cases hc
  | readString | readInteger | readLong | readSingle | readDouble => exact absurd rfl hline
  | _ => exact absurd rfl huse

/-- The calls of a run follow each other through the input. -/
lemma consumes_run (b : w.Bound) {p : Nat} (hp : p ≤ input.length)
    (h : w.machine.OnConsole Console.Input.Flows (input.drop p)) {calls : List (Time × Call)}
    (hcalls : ∀ entry ∈ calls, entry.2.keepsSource = true) :
    ∃ q, Consumes input p (calls.map (·.2)) (w.run calls).1 q ∧
      (w.run calls).2.machine.OnConsole Console.Input.Flows (input.drop q) := by
  induction calls generalizing w p with
  | nil => exact ⟨p, .done, h⟩
  | cons entry calls ih =>
    obtain ⟨now, c⟩ := entry
    have hat : (w.atTime now).machine.OnConsole Console.Input.Flows (input.drop p) := h.congr rfl rfl rfl
    obtain ⟨q, hq, takes, hon⟩ := takes_call (b.atTime now) hp hat (hcalls _ (.head _))
    obtain ⟨r, consumes, hend⟩ :=
      ih ((b.atTime now).call c) hq hon fun e he => hcalls e (.tail _ he)
    exact ⟨r, .next takes consumes, hend⟩

/-- Let no front end be attached and let `input` be what the console supplies. Then the calls of a run
move one position through `input`, from its beginning: a character takes one byte, a read the bytes that
it returns, a line everything to its end, and works on what these bytes say. No other call takes anything,
and whatever has not been passed at the end of the run is what the console still has to give. -/
theorem consumed_in_order (b : w.Bound) (h : w.machine.OnConsole Console.Input.Flows input)
    {calls : List (Time × Call)} (hcalls : ∀ entry ∈ calls, entry.2.keepsSource = true) :
    ∃ p, Consumes input 0 (calls.map (·.2)) (w.run calls).1 p ∧
      (w.run calls).2.machine.state.channels.input.unread = input.drop p := by
  obtain ⟨p, consumes, hend⟩ := consumes_run b (Nat.zero_le _) h hcalls
  exact ⟨p, consumes, hend.unread⟩

/-- A character is cut in two by a read and the rest of it is replaced in the line, of which no carriage
return is left; a reset loses nothing, and the last line has no end. Behind it there is no character. -/
theorem consumed_in_order_split :
    let input : List UInt8 := [0xC3, 0xA9, 49, 13, 10, 52, 50]
    let w : World := { machine := .start {} (.ofHome ["scratch"]) (.memory input) .none }
    let calls : List (Time × Call) :=
      [(0, .readFrom 0 [0]), (1, .readString 8 80), (2, .resetFiles), (3, .readChar 12), (4, .readInteger 5),
        (5, .readString 8 80), (6, .readChar 12)]
    w.Fresh ∧ w.machine.OnConsole Console.Input.Flows input ∧ (∀ entry ∈ calls, entry.2.keepsSource = true) ∧
      (∃ p, Consumes input 0 (calls.map (·.2)) (w.run calls).1 p ∧
        (w.run calls).2.machine.state.channels.input.unread = input.drop p) ∧
      (w.run calls).1 =
        [.read ⟨.ok 1, [0xC3]⟩, .text (.ok "\uFFFD1"), .done, .char (.ok 52), .integer (.ok 2),
          .text (.ok ""), .char (.ok (-1))] ∧
      (w.run calls).2.machine.state.channels.input.unread = [] := by
  intro input w calls
  have fresh : w.Fresh := fresh_start {} (.ofHome ["scratch"]) .none (.memory input) []
  have hon : w.machine.OnConsole Console.Input.Flows input := ⟨rfl, ⟨input, rfl⟩, rfl⟩
  have hcalls : ∀ entry ∈ calls, entry.2.keepsSource = true := by decide
  have hreplies : (w.run calls).1 =
      [.read ⟨.ok 1, [0xC3]⟩, .text (.ok "\uFFFD1"), .done, .char (.ok 52), .integer (.ok 2),
        .text (.ok ""), .char (.ok (-1))] := by decide +kernel
  exact ⟨fresh, hon, hcalls, consumed_in_order fresh.bound hon hcalls, hreplies, by decide +kernel⟩

end World

end Hostcall
