import Hostcall.Proofs.Pane.Screen

/-!
# What one call does to the screen

`World.Turn` lists everything that a call can do to what front ends see; `turn_of_call` says that there
is nothing else. Calls for input either leave the screen alone or let held output go and ask
(`Screen.Asking`).
-/

namespace Hostcall

open Pane

/-- What a call for input does to a screen: nothing, or it asks the receiver after showing it what is
held. -/
inductive Pane.Screen.Asking (s : Screen) : Screen → Prop where
  | rest :
    Asking s s
  | ask {id e} :
    s.receiver? = some id →
    e.asks? = some id →
    Asking s ((s.deliver id (.flush true)).record e)

/-- The front end that a source belongs to. -/
def Source.front? : Source → Option FrontEndId
  | .console => none
  | .popup front | .pane front | .field front => some front

namespace Machine

/-- Values come from the receiver, or from the console where there is none. -/
lemma valueSource_front? (m : Machine) : m.valueSource.front? = m.screen.receiver? := by
  rw [← attached?_fst, valueSource]
  split <;> rename_i ha <;> rw [ha]
  · rfl
  · split
    · rfl
    · split <;> rfl

/-- Plain bytes come from the receiver, or from the console where there is none. -/
lemma byteSource_front? (m : Machine) : m.byteSource.front? = m.screen.receiver? := by
  rw [← attached?_fst, byteSource]
  split <;> rename_i ha <;> rw [ha]
  · rfl
  · split <;> rfl

/-- A modal prompt asks the receiver. -/
lemma askPopup_asking {m : Machine} {id : FrontEndId} (h : m.screen.receiver? = some id)
    (prompt : String) : m.screen.Asking (m.askPopup id prompt).2.screen := by
  rw [screen_askPopup]
  exact .ask h rfl

/-- A request in the run pane asks the receiver. -/
lemma askPane_asking {m : Machine} {id : FrontEndId} (h : m.screen.receiver? = some id)
    (limit : Int) : m.screen.Asking (m.askPane id limit).2.screen := by
  rw [screen_askPane]
  exact .ask h rfl

/-- Obtaining a line asks at most the receiver. -/
lemma obtainLine_asking (m : Machine) (standIn prompt : String) (limit : Int) :
    m.screen.Asking (m.obtainLine standIn prompt limit).2.screen := by
  have hsource := m.valueSource_front?
  simp only [obtainLine]
  split <;> rename_i h <;> rw [h] at hsource
  · rw [(m.touches_readConsoleLine standIn).screen rfl]
    exact .rest
  · exact askPopup_asking hsource.symm prompt
  · exact askPane_asking hsource.symm limit
  · exact .rest

/-- Obtaining a byte asks at most the receiver. -/
lemma obtainByte_asking (m : Machine) (prompt : String) :
    m.screen.Asking (m.obtainByte prompt).2.screen := by
  have hsource := m.valueSource_front?
  simp only [obtainByte]
  split <;> rename_i h <;> rw [h] at hsource
  · rw [m.touches_readConsoleByte.screen rfl]
    exact .rest
  · exact askPopup_asking hsource.symm prompt
  · exact askPane_asking hsource.symm 1
  · exact .rest

/-- Obtaining bytes asks at most the receiver. -/
lemma obtainBytes_asking (m : Machine) (count : Nat) :
    m.screen.Asking (m.obtainBytes count).2.screen := by
  have hsource := m.byteSource_front?
  simp only [obtainBytes]
  split
  · next id h =>
    rw [h] at hsource
    have asking := askPane_asking hsource.symm (min count 0x7FFFFFFF)
    split <;> rename_i he <;> rw [he] at asking <;> exact asking
  · exact .rest
  · exact .rest

/-- Reading a character asks at most the receiver. -/
lemma readChar_asking (m : Machine) (service : Nat) :
    m.screen.Asking (m.readChar service).2.screen :=
  m.obtainByte_asking _

/-- Reading a string asks at most the receiver. -/
lemma readString_asking (m : Machine) (service : Nat) (limit : Int) :
    m.screen.Asking (m.readString service limit).2.screen :=
  m.obtainLine_asking _ _ _

/-- Reading a value asks at most the receiver. -/
lemma readValue_asking {α ε : Type} (m : Machine) (what : String) (service : Nat)
    (parse : String → Except ε α) (message : ε → String) :
    m.screen.Asking (m.readValue what service parse message).2.screen := by
  have asking := m.obtainLine_asking "0" s!"Enter {what} (syscall {service})" (-1)
  simp only [readValue]
  split
  · exact asking
  · split <;> exact asking

/-- Reading asks at most the receiver, and only for the standard input. -/
lemma readFrom_asking (m : Machine) (fd : Int) (buffer : List UInt8) :
    m.screen.Asking (m.readFrom fd buffer).2.screen := by
  by_cases hfd : fd = StdChannel.input.fd
  · have asking := m.obtainBytes_asking buffer.length
    simp only [readFrom, if_pos hfd]
    split
    · exact .rest
    · split <;> rename_i he <;> rw [he] at asking
      · exact asking
      · rw [(touches_endRead _ _ _ _).screen rfl]
        exact asking
  · rw [m.screen_readFrom hfd buffer]
    exact .rest

end Machine

/-- The text that a call gives to an output. -/
def Call.output? : Call → Option String
  | .print text => some text
  | .writeTo fd bytes =>
    if fd = StdChannel.output.fd ∨ fd = StdChannel.error.fd then some (Utf8.decode bytes) else none
  | _ => none

/-- Whether a call ends the session with the pane. -/
def Call.endsSession : Call → Bool
  | .resetFiles | .attachNew _ | .attach _ => true
  | _ => false

/-- A text that was given to an output while a front end was attached. -/
structure Pane.Piece where
  front : FrontEndId
  text : String
  deriving Repr, DecidableEq

namespace World

/-- The piece that a call gives to the front end that is attached. -/
def piece? (w : World) (c : Call) : Option Piece :=
  w.machine.attached?.bind fun p => c.output?.map fun text => ⟨p.1, text⟩

/-- A call without output gives no piece. -/
lemma piece?_of_output? {w : World} {c : Call} (h : c.output? = none) : w.piece? c = none := by
  simp [piece?, h]

/-- Where nobody is attached, output gives no piece. -/
lemma piece?_of_detached {w : World} (ha : w.machine.attached? = none) (c : Call) :
    w.piece? c = none := by
  simp [piece?, ha]

/-- Output goes to whoever is attached. -/
lemma piece?_eq {w : World} {c : Call} {id : FrontEndId} {f : FrontEnd} {text : String}
    (ha : w.machine.attached? = some (id, f)) (hc : c.output? = some text) :
    w.piece? c = some ⟨id, text⟩ := by
  simp [piece?, ha, hc]

/-- What one call can do to the screen. -/
inductive Turn (w : World) : Call → Screen → Prop where
  | rest {c} :
    w.piece? c = none →
    c.endsSession = false →
    Turn w c w.machine.screen
  | ask {c id e} :
    c.output? = none →
    c.endsSession = false →
    w.machine.screen.receiver? = some id →
    e.asks? = some id →
    Turn w c ((w.machine.screen.deliver id (.flush true)).record e)
  | shown {c p} :
    w.piece? c = some p →
    c.endsSession = false →
    w.machine.screen.receiver? = some p.front →
    Turn w c (w.machine.screen.deliver p.front (.push p.text))
  | flush {force} :
    Turn w (.flush force) (w.machine.screen.flush force)
  | through {n id force} :
    (w.handles[n]?).join = some id →
    Turn w (.flushThrough n force) (w.machine.screen.deliver id (.flush force))
  | reset :
    Turn w .resetFiles w.machine.screen.endSession
  | attach {front} :
    Turn w (.attach front) { w.machine.screen.endSession with front }
  | attachNew {f} :
    Turn w (.attachNew f)
      { { w.machine.screen with attached := w.machine.screen.attached ++ [f.attached] }.endSession with
        front := some w.machine.screen.attached.length }
  | adjust {id attached interactive field} :
    Turn w (.adjustFront id attached interactive field)
      { w.machine.screen with
        attached := w.machine.screen.attached.modify id fun _ => attached }

/-- A call without output that leaves the screen alone takes a turn of rest. -/
lemma Turn.of_eq {w : World} {c : Call} {s : Screen} (hc : c.output? = none)
    (he : c.endsSession = false) (h : s = w.machine.screen) : w.Turn c s := by
  subst h
  exact .rest (piece?_of_output? hc) he

/-- A call for input takes a turn of asking. -/
lemma Turn.of_asking {w : World} {c : Call} {s : Screen} (hc : c.output? = none)
    (he : c.endsSession = false) (h : w.machine.screen.Asking s) : w.Turn c s := by
  cases h with
  | rest => exact .of_eq hc he rfl
  | ask hid hasks => exact .ask hc he hid hasks

/-- Printing is shown to the front end that is attached, and to no one else. -/
lemma turn_print (w : World) (text : String) :
    w.Turn (.print text) (w.machine.print text).screen := by
  simp only [Machine.print]
  split
  · next id f ha =>
    rw [Machine.screen_deliver]
    exact .shown (piece?_eq ha rfl) rfl (Machine.receiver?_of_attached? ha)
  · next ha =>
    have hpiece := piece?_of_detached ha (.print text)
    split <;> exact .rest hpiece rfl

/-- A write to an output is shown like printing, whichever of the two it is. -/
lemma turn_writeStandard {w : World} {c : Call} {bytes : List UInt8}
    (hc : c.output? = some (Utf8.decode bytes)) (he : c.endsSession = false)
    (channel : StdChannel) : w.Turn c (w.machine.writeStandard channel bytes).2.screen := by
  simp only [Machine.writeStandard]
  split
  · next id f ha =>
    rw [Machine.screen_deliver]
    exact .shown (piece?_eq ha hc) he (Machine.receiver?_of_attached? ha)
  · next ha => exact .rest (piece?_of_detached ha c) he

/-- A write is shown exactly if it goes to an output; in a bound table no such write is refused. -/
lemma turn_writeTo {w : World} (b : w.machine.state.table.Bound) (fd : Int) (bytes : List UInt8) :
    w.Turn (.writeTo fd bytes) (w.machine.writeTo fd bytes).2.screen := by
  -- Only the two outputs are shown, and only for them must the capability check be known to pass.
  by_cases hfd : fd = StdChannel.output.fd ∨ fd = StdChannel.error.fd
  · have hc : (Call.writeTo fd bytes).output? = some (Utf8.decode bytes) := if_pos hfd
    obtain rfl | rfl := hfd
    · simp only [Machine.writeTo, b.require_write (c := .output) (by decide), if_true]
      rw [(Machine.touches_endWrite _ _ _ _).screen rfl]
      exact turn_writeStandard hc rfl .output
    · have hne : StdChannel.error.fd ≠ StdChannel.output.fd := by decide
      simp only [Machine.writeTo, b.require_write (c := .error) (by decide), if_neg hne, if_true]
      rw [(Machine.touches_endWrite _ _ _ _).screen rfl]
      exact turn_writeStandard hc rfl .error
  · obtain ⟨hout, herr⟩ := not_or.mp hfd
    rw [(Machine.touches_writeTo_file b hout herr bytes).screen rfl]
    exact .rest (piece?_of_output? (if_neg hfd)) rfl

/-- A flush through a handle lets held output go to the front end that the handle was made for. -/
lemma turn_flushThrough (w : World) (n : Nat) (force : Bool) :
    w.Turn (.flushThrough n force) (w.call (.flushThrough n force)).2.machine.screen := by
  simp only [call]
  split
  · exact .of_eq rfl rfl rfl
  · next id hid =>
    rw [Machine.flushThrough, Machine.screen_deliver]
    exact .through hid

/-- A new front end is attached like any other once it is there. -/
lemma turn_attachNew (w : World) (f : FrontEnd) :
    w.Turn (.attachNew f) (w.call (.attachNew f)).2.machine.screen := by
  -- The session ends when the front end is already there, though not yet set.
  have hadd : { w.machine with fronts := w.machine.fronts ++ [f] }.screen =
      { w.machine.screen with attached := w.machine.screen.attached ++ [f.attached] } := by
    simp only [Machine.screen, List.map_append, List.map_cons, List.map_nil]
  have hid : w.machine.fronts.length = w.machine.screen.attached.length :=
    (List.length_map _).symm
  simp only [call, Machine.screen_attach, hadd, hid]
  exact .attachNew

/-- Of a front end that changes its answers, only whether it is attached is seen. -/
lemma turn_adjustFront (w : World) (id : FrontEndId) (attached interactive : Bool) (field : String) :
    w.Turn (.adjustFront id attached interactive field)
      (w.call (.adjustFront id attached interactive field)).2.machine.screen := by
  have hmap : (w.machine.fronts.modify id fun f => { f with attached, interactive, field }).map
      (·.attached) = (w.machine.fronts.map (·.attached)).modify id fun _ => attached := by
    apply List.ext_getElem?
    intro i
    rw [List.getElem?_map, List.getElem?_modify, List.getElem?_modify, List.getElem?_map]
    by_cases h : id = i <;> cases w.machine.fronts[i]? <;> simp [h]
  simp only [call, Machine.screen, hmap]
  exact .adjust

/-- Every call takes one of the listed turns. -/
lemma turn_of_call {w : World} (b : w.machine.state.table.Bound) (c : Call) :
    w.Turn c (w.call c).2.machine.screen := by
  cases c with
  | readFrom fd buffer => exact .of_asking rfl rfl (w.machine.readFrom_asking fd buffer)
  | writeTo fd bytes => exact turn_writeTo b fd bytes
  | print text => exact turn_print w text
  | readChar service => exact .of_asking rfl rfl (w.machine.readChar_asking service)
  | readString service limit => exact .of_asking rfl rfl (w.machine.readString_asking service limit)
  | readInteger service | readLong service | readSingle service | readDouble service =>
    exact .of_asking rfl rfl (w.machine.readValue_asking _ service _ _)
  | flush force =>
    show w.Turn _ (w.machine.flush force).screen
    rw [Machine.screen_flush]
    exact .flush
  | resetFiles =>
    show w.Turn _ w.machine.resetFiles.screen
    rw [Machine.screen_resetFiles]
    exact .reset
  | attachNew front => exact turn_attachNew w front
  | attach front =>
    show w.Turn _ (w.machine.attach front).screen
    rw [Machine.screen_attach]
    exact .attach
  | adjustFront id attached interactive field =>
    exact turn_adjustFront w id attached interactive field
  | flushThrough n force => exact turn_flushThrough w n force
  | openFile | seek | closeFile | takeHandle | parkNew | swap | setSettings =>
    exact .of_eq rfl rfl ((w.touches_call _).screen rfl)

end World

end Hostcall
