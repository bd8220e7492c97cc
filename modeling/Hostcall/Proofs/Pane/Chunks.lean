import Hostcall.Proofs.Machine.Twins
import Hostcall.Proofs.Pane.Conservation
import Hostcall.Proofs.Text.Cuts
import Hostcall.Proofs.World.Outputs

/-!
# Output that is written in pieces

A front end is shown the text of each piece that is written, read on its own; the console is given the bytes
(`shown_writeAll`, `console_writeAll`). So the pane shows the text of the whole exactly if no piece begins
inside a character (`whole_text_iff`), and which text it shows depends on how the output was cut into pieces
(`cut_character_replaced`).
-/

namespace Hostcall

open Pane

namespace Pane.Screen

/-- From one screen to another, all that was posted went to `id`, and what was held and `text` were posted or
are held. -/
structure Shows (id : FrontEndId) (s t : Screen) (text : String) : Prop where
  receiver : t.receiver? = some id
  posts : ∃ new, t.history = s.history ++ new ∧ (∀ e ∈ new, e.posts? = some id) ∧
    postedText new ++ t.coalescer.pending = s.coalescer.pending ++ text

variable {id : FrontEndId} {s t : Screen} {text : String}

/-- A screen that stays as it is shows nothing. -/
lemma Shows.refl (h : s.receiver? = some id) : s.Shows id s "" where
  receiver := h
  posts := ⟨[], by simp, by simp, by simp [postedText, String.join]⟩

/-- What is delivered to the receiver is shown to it behind everything else. -/
lemma Shows.deliver (h : s.Shows id t text) (action : Action) :
    s.Shows id (t.deliver id action) (text ++ action.text) where
  receiver := by rw [deliver_receiver?, h.receiver]
  posts := by
    obtain ⟨new, hnew, hposts, htext⟩ := h.posts
    let released := (t.coalescer.apply t.clock action).1
    refine ⟨new ++ (released.map (.posted id)).toList, ?_, ?_, ?_⟩
    · rw [deliver_history, hnew, List.append_assoc]
    · intro e he
      obtain he | he := List.mem_append.mp he
      · exact hposts e he
      · obtain ⟨text, -, rfl⟩ : ∃ text, released = some text ∧ .posted id text = e := by simpa using he
        rfl
    · have hreleased : postedText (released.map (.posted id)).toList = released.getD "" := by
        cases released <;> simp [postedText, Event.text, String.join]
      rw [postedText_append, hreleased, deliver_coalescer, String.append_assoc,
        Coalescer.apply_conserves, ← String.append_assoc, htext, String.append_assoc]

/-- Once everything was let go, all of it was posted. -/
lemma Shows.flush (h : s.Shows id t text) :
    ∃ new, (t.flush true).history = s.history ++ new ∧ (t.flush true).coalescer.pending = "" ∧
      (∀ e ∈ new, e.posts? = some id) ∧ postedText new = s.coalescer.pending ++ text := by
  obtain ⟨new, hnew, hposts, htext⟩ := (h.deliver (.flush true)).posts
  have hflush : t.flush true = t.deliver id (.flush true) := by
    simp only [Screen.flush, h.receiver]
  rw [← hflush] at hnew htext
  have hheld : (t.flush true).coalescer.pending = "" := hflush ▸ t.pending_of_force id
  refine ⟨new, hnew, hheld, hposts, ?_⟩
  simpa [hheld, Action.text] using htext

end Pane.Screen

namespace World

/-- The calls that write pieces to the standard output, each at its time. -/
def writeAll (cut : List (Time × List UInt8)) : List (Time × Call) :=
  cut.map fun (now, piece) => (now, .writeTo StdChannel.output.fd piece)

variable {w : World} {id : FrontEndId} {s : Screen} {text : String}

/-- The clock is not shown. -/
lemma shows_atTime (h : s.Shows id w.machine.screen text) (now : Time) :
    s.Shows id (w.atTime now).machine.screen text :=
  ⟨h.receiver, h.posts⟩

/-- A piece of output is delivered to the receiver. -/
lemma screen_write (b : w.machine.state.table.Bound) (h : w.machine.screen.receiver? = some id)
    (piece : List UInt8) :
    (w.call (.writeTo StdChannel.output.fd piece)).2.machine.screen =
      w.machine.screen.deliver id (.push (Utf8.decode piece)) := by
  obtain ⟨p, hp, rfl⟩ : ∃ p, w.machine.attached? = some p ∧ p.1 = id := by
    simpa [← Machine.attached?_fst] using h
  have hout : (Call.writeTo StdChannel.output.fd piece).output? = some (Utf8.decode piece) := by
    simp [Call.output?]
  have hpiece := piece?_eq hp hout
  have turn := turn_of_call b (.writeTo StdChannel.output.fd piece)
  generalize (w.call (.writeTo StdChannel.output.fd piece)).2.machine.screen = s at turn
  -- It is output, and someone is attached: it is shown.
  cases turn with
  | rest hnone => cases hpiece.symm.trans hnone
  | ask hnone => cases hnone
  | shown hshown =>
    cases hpiece.symm.trans hshown
    rfl

/-- The pieces that are written are shown in their order, each read on its own. -/
lemma shown_writeAll (b : w.Bound) (h : s.Shows id w.machine.screen text)
    (cut : List (Time × List UInt8)) :
    s.Shows id (w.run (writeAll cut)).2.machine.screen
      (text ++ String.join (cut.map fun piece => Utf8.decode piece.2)) := by
  induction cut generalizing w text with
  | nil => simpa [writeAll, run] using h
  | cons entry cut ih =>
    obtain ⟨now, piece⟩ := entry
    have bound := b.atTime now
    have hnow := shows_atTime h now
    have hscreen := screen_write bound.active hnow.receiver piece
    have hnext := ih (bound.call (.writeTo StdChannel.output.fd piece))
      (hscreen ▸ hnow.deliver (.push (Utf8.decode piece)))
    simpa [writeAll, run, Action.text, String.append_assoc, String.join_cons] using hnext

/-- On the console all bytes of the pieces go out as they are. -/
lemma emittedAll_writeAll (h : w.machine.attached? = none) (cut : List (Time × List UInt8)) :
    w.emittedAll .output (writeAll cut) = (cut.map (·.2)).flatten := by
  induction cut generalizing w with
  | nil => rfl
  | cons entry cut ih =>
    obtain ⟨now, piece⟩ := entry
    have hnow : (w.atTime now).machine.attached? = none := h
    have hnext := ih (detached_call hnow (c := .writeTo StdChannel.output.fd piece) rfl)
    simp only [writeAll, List.map_cons, emittedAll, List.flatten_cons] at hnext ⊢
    rw [hnext, emitted, if_pos hnow]
    rfl

/-- On the console the sink receives the bytes of the pieces, wherever the cuts are. -/
lemma console_writeAll (b : w.Bound) (h : w.machine.attached? = none) {o : Console.Outlet}
    {given : List UInt8} (ho : w.machine.outlet? .output = some o) (settled : o.Settled given)
    (cut : List (Time × List UInt8)) :
    ∃ p, (w.run (writeAll cut)).2.machine.outlet? .output = some p ∧
      p.Settled (given ++ (cut.map (·.2)).flatten) := by
  rw [← emittedAll_writeAll h cut]
  refine settled_emittedAll b ho settled fun entry hentry => ?_
  obtain ⟨piece, -, rfl⟩ := List.mem_map.mp hentry
  rfl

/-- What the pane shows of output that is written in pieces.

With a front end attached, once the pieces have been written at any times and all was let go, what was
posted meanwhile went to that front end and nothing is held. It is what was held before and the texts of the
pieces, each read on its own; that is the text of the whole exactly if no piece begins inside a character
that those before it began. On the console the same writes give the whole byte for byte, wherever the cuts
are. -/
theorem whole_text_iff (b : w.Bound) (attached : w.machine.screen.receiver? = some id)
    (cut : List (Time × List UInt8)) (now : Time) :
    let pieces := cut.map (·.2)
    let v := (((w.run (writeAll cut)).2.atTime now).call (.flush true)).2
    (∃ new, v.machine.history = w.machine.history ++ new ∧ v.machine.coalescer.pending = "" ∧
      (∀ e ∈ new, e.posts? = some id) ∧
      postedText new = w.machine.coalescer.pending ++ String.join (pieces.map Utf8.decode) ∧
      (postedText new = w.machine.coalescer.pending ++ Utf8.decode pieces.flatten ↔
        Utf8.Intact [] pieces)) ∧
    ∀ u : World, u.Bound → u.machine.attached? = none →
      ∀ o given, u.machine.outlet? .output = some o → o.Settled given →
        ∃ p, (u.run (writeAll cut)).2.machine.outlet? .output = some p ∧
          p.Settled (given ++ pieces.flatten) := by
  intro pieces v
  refine ⟨?_, fun u bound detached o given ho settled => console_writeAll bound detached ho settled cut⟩
  have shown := shows_atTime (shown_writeAll b (.refl attached) cut) now
  obtain ⟨new, hnew, hheld, hposts, htext⟩ := shown.flush
  have hscreen : v.machine.screen = _ := Machine.screen_flush _ true
  rw [← hscreen] at hnew hheld
  have hpieces : postedText new =
      w.machine.coalescer.pending ++ String.join (pieces.map Utf8.decode) := by
    rw [htext, String.empty_append, List.map_map]
    rfl
  refine ⟨new, hnew, hheld, hposts, hpieces, ?_⟩
  rw [hpieces, String.append_right_inj, Utf8.join_decode_iff]

/-- Pieces that end where characters end are shown as the text that the console is given. -/
theorem whole_text_iff_intact_pieces :
    let w := (scratch.run [(0, .attachNew { interactive := true }), (1, .print "> ")]).2
    let cut : List (Time × List UInt8) := [(2, [97, 0xC3, 0xA9]), (3, [0xE2, 0x82, 0xAC]), (4, [33])]
    w.Bound ∧ w.machine.screen.receiver? = some 0 ∧ Utf8.Intact [] (cut.map (·.2)) ∧
    (∃ new, (((w.run (writeAll cut)).2.atTime 5).call (.flush true)).2.machine.history =
        w.machine.history ++ new ∧ postedText new = "> aé€!") ∧
    ∃ p, (scratch.run (writeAll cut)).2.machine.outlet? .output = some p ∧
      p.Settled (Utf8.encode "aé€!") := by
  intro w cut
  have bound : w.Bound := fresh_scratch.bound.run _
  have attached : w.machine.screen.receiver? = some 0 := by decide +kernel
  have intact : Utf8.Intact [] (cut.map (·.2)) := by decide +kernel
  obtain ⟨⟨new, hnew, -, -, -, hiff⟩, hconsole⟩ := whole_text_iff bound attached cut 5
  have htext : w.machine.coalescer.pending ++ Utf8.decode (cut.map (·.2)).flatten = "> aé€!" := by
    decide +kernel
  refine ⟨bound, attached, intact, ⟨new, hnew, (hiff.mpr intact).trans htext⟩, ?_⟩
  exact hconsole scratch fresh_scratch.bound rfl _ [] rfl ⟨⟨[], rfl⟩, rfl, rfl⟩

/-- A character that is cut in two is shown as two replacements, while the same bytes in one piece are shown
as the character. -/
theorem cut_character_replaced :
    let shown (cut : List (Time × List UInt8)) :=
      let w := (scratch.run [(0, .attachNew { interactive := true })]).2
      postedText (((w.run (writeAll cut)).2.atTime 3).call (.flush true)).2.machine.history
    shown [(1, [0xC3]), (2, [0xA9])] = "\uFFFD\uFFFD" ∧ shown [(1, [0xC3, 0xA9])] = "é" := by
  decide +kernel

end World

end Hostcall
