import Hostcall.Proofs.Machine.Frame

/-!
# What front ends see of a machine

A screen is the part of a machine that decides what is posted and to whom: the front end that is set,
what each front end says about being attached, the coalescer, and the events so far. What deliveries,
prompts and the end of a session make of it is a matter of the screen alone (`screen_deliver`,
`screen_askPopup`, `screen_askPane`, `screen_endSession`); what touches none of its parts leaves it as it is
(`Touches.screen`).
-/

namespace Hostcall

open Pane

namespace Pane

/-- The text that an event shows; a prompt shows none. -/
def Event.text : Event → String
  | .posted _ text => text
  | _ => ""

/-- The front end that is shown a text. -/
def Event.posts? : Event → Option FrontEndId
  | .posted front _ => some front
  | _ => none

/-- The front end that is asked. -/
def Event.asks? : Event → Option FrontEndId
  | .posted _ _ => none
  | .promptedLine front _ => some front
  | .promptedBounded front _ => some front

/-- What a machine shows and is about to show. -/
structure Screen where
  front : Option FrontEndId
  /-- What each front end says about being attached. -/
  attached : List Bool
  coalescer : Coalescer
  history : List Event
  clock : Time
  deriving Repr, DecidableEq

namespace Screen

/-- The front end that output is shown in. -/
def receiver? (s : Screen) : Option FrontEndId :=
  s.front.filter fun id => s.attached[id]? = some true

/-- Adds an event. -/
def record (s : Screen) (e : Event) : Screen :=
  { s with history := s.history ++ [e] }

/-- Runs an action on the coalescer and posts to a front end whatever it releases. -/
def deliver (s : Screen) (id : FrontEndId) (action : Action) : Screen :=
  let (released, coalescer) := s.coalescer.apply s.clock action
  { s with coalescer, history := s.history ++ (released.map (.posted id)).toList }

/-- Lets held output go to the receiver. -/
def flush (s : Screen) (force : Bool) : Screen :=
  match s.receiver? with
  | none => s
  | some id => s.deliver id (.flush force)

/-- Ends a session: what is held goes out if it can, and is forgotten. -/
def endSession (s : Screen) : Screen :=
  { s.flush true with coalescer := (s.flush true).coalescer.clear }

/-- A delivery posts what the coalescer releases. -/
lemma deliver_history (s : Screen) (id : FrontEndId) (action : Action) :
    (s.deliver id action).history =
      s.history ++ ((s.coalescer.apply s.clock action).1.map (.posted id)).toList := rfl

/-- A delivery leaves the coalescer as the action leaves it. -/
lemma deliver_coalescer (s : Screen) (id : FrontEndId) (action : Action) :
    (s.deliver id action).coalescer = (s.coalescer.apply s.clock action).2 := rfl

/-- A delivery does not change the receiver. -/
@[simp] lemma deliver_receiver? (s : Screen) (id : FrontEndId) (action : Action) :
    (s.deliver id action).receiver? = s.receiver? := rfl

/-- A receiver is the front end that is set. -/
lemma front_of_receiver? {s : Screen} {id : FrontEndId} (h : s.receiver? = some id) :
    s.front = some id :=
  (Option.filter_eq_some_iff.mp h).1

end Screen

end Pane

namespace Machine

/-- What front ends see of a machine. -/
def screen (m : Machine) : Screen where
  front := m.front
  attached := m.fronts.map (·.attached)
  coalescer := m.coalescer
  history := m.history
  clock := m.clock

/-- The receiver is the front end that is set and says that it is attached. -/
lemma attached?_fst (m : Machine) : m.attached?.map (·.1) = m.screen.receiver? := by
  simp only [attached?, Screen.receiver?, screen]
  cases m.front with
  | none => rfl
  | some id =>
    simp only [Option.bind_some, Option.filter_some, List.getElem?_map]
    cases m.fronts[id]? with
    | none => simp
    | some f => cases h : f.attached <;> simp [h]

/-- Whoever is attached is the receiver. -/
lemma receiver?_of_attached? {m : Machine} {p : FrontEndId × FrontEnd} (h : m.attached? = some p) :
    m.screen.receiver? = some p.1 := by
  rw [← attached?_fst, h]
  rfl

/-- Where nobody is attached, there is no receiver. -/
lemma receiver?_of_none {m : Machine} (h : m.attached? = none) : m.screen.receiver? = none := by
  rw [← attached?_fst, h]
  rfl

/-- Nobody is attached exactly where there is no receiver. -/
lemma attached?_eq_none_iff {m : Machine} : m.attached? = none ↔ m.screen.receiver? = none := by
  rw [← attached?_fst, Option.map_eq_none_iff]

/-- What touches none of its parts leaves the screen alone. -/
lemma Touches.screen {m n : Machine} {a : List Part} (h : m.Touches a n)
    (hp : [.front, .attached, .coalescer, .history, .clock].any a.contains = false) : n.screen = m.screen := by
  have hparts := h.parts hp
  have hfront : n.front = m.front := hparts .front (by decide)
  have hattached : n.fronts.map (·.attached) = m.fronts.map (·.attached) := hparts .attached (by decide)
  have hcoalescer : n.coalescer = m.coalescer := hparts .coalescer (by decide)
  have hhistory : n.history = m.history := hparts .history (by decide)
  have hclock : n.clock = m.clock := hparts .clock (by decide)
  simp only [Machine.screen, hfront, hattached, hcoalescer, hhistory, hclock]

/-- A read of anything but the standard input is not seen by front ends. -/
lemma screen_readFrom (m : Machine) {fd : Int} (h : fd ≠ StdChannel.input.fd) (buffer : List UInt8) :
    (m.readFrom fd buffer).2.screen = m.screen := by
  obtain ⟨-, hn⟩ | hn := m.touches_readFrom_of_ne h buffer
  · exact hn.screen rfl
  · exact hn.screen rfl

/-- What sets no front end, and attaches none, leaves a machine without one. -/
lemma Touches.detached {m n : Machine} {a : List Part} (h : m.Touches a n)
    (hp : [.front, .attached].any a.contains = false) (hm : m.attached? = none) : n.attached? = none := by
  have hparts := h.parts hp
  have hfront : n.front = m.front := hparts .front (by decide)
  have hattached : n.fronts.map (·.attached) = m.fronts.map (·.attached) := hparts .attached (by decide)
  let receiver (front : Option FrontEndId) (attached : List Bool) : Option FrontEndId :=
    front.filter fun id => attached[id]? = some true
  have hreceiver : n.screen.receiver? = m.screen.receiver? := congrArg₂ receiver hfront hattached
  rw [attached?_eq_none_iff, hreceiver]
  exact attached?_eq_none_iff.mp hm

/-! ## What acts on the screen -/

/-- A delivery acts on the screen alone. -/
@[simp] lemma screen_deliver (m : Machine) (id : FrontEndId) (action : Action) :
    (m.deliver id action).screen = m.screen.deliver id action := by
  simp only [deliver, Screen.deliver]
  split <;> split <;> simp_all [screen, record, trace, log]

/-- A modal prompt shows what is held, and then itself. -/
@[simp] lemma screen_askPopup (m : Machine) (id : FrontEndId) (prompt : String) :
    (m.askPopup id prompt).2.screen =
      (m.screen.deliver id (.flush true)).record (.promptedLine id prompt) := by
  rw [askPopup, (touches_takeAnswer _ id).screen rfl]
  exact congrArg (fun s : Screen => s.record _) (m.screen_deliver id (.flush true))

/-- A request in the run pane shows what is held, and then itself. -/
@[simp] lemma screen_askPane (m : Machine) (id : FrontEndId) (limit : Int) :
    (m.askPane id limit).2.screen =
      (m.screen.deliver id (.flush true)).record (.promptedBounded id limit) := by
  rw [askPane, (touches_takeAnswer _ id).screen rfl]
  exact congrArg (fun s : Screen => s.record _) (m.screen_deliver id (.flush true))

/-- Letting held output go acts on the screen alone. -/
@[simp] lemma screen_flush (m : Machine) (force : Bool) :
    (m.flush force).screen = m.screen.flush force := by
  simp only [flush, Screen.flush]
  split <;> rename_i h
  · rw [receiver?_of_none h]
  · rw [receiver?_of_attached? h]
    exact m.screen_deliver _ _

/-- The end of a session acts on the screen alone. -/
@[simp] lemma screen_endSession (m : Machine) : m.endSession.screen = m.screen.endSession := by
  simp only [Screen.endSession, ← screen_flush]
  rfl

/-- A front end that is attached is set after the session has ended. -/
@[simp] lemma screen_attach (m : Machine) (front : Option FrontEndId) :
    (m.attach front).screen = { m.screen.endSession with front } := by
  rw [← screen_endSession]
  rfl

/-- Of a reset only the end of the session is seen. -/
@[simp] lemma screen_resetFiles (m : Machine) : m.resetFiles.screen = m.screen.endSession := by
  obtain ⟨n, hn, hreset⟩ := m.resetFiles_eq_endSession
  rw [hreset, screen_endSession, hn.screen rfl]

end Machine

end Hostcall
