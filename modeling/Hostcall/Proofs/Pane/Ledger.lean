import Hostcall.Proofs.Pane.Conservation

/-!
# Whom output reaches

Beside a run a ledger is kept of the pieces that wait and of those that were posted together, with the
front end that received them (`World.ledger`). It is a faithful record: what it says was sent is exactly
what was posted (`Ledger.Keeps`). A piece reaches a front end other than the one it was printed to exactly
if a handle that was made for an earlier front end lets go of output held for a later one
(`World.Stray`, `delivered_iff_no_stray`), and that does happen (`stray_flush_misdelivers`).
-/

namespace Hostcall

open Pane

namespace Pane

/-- Pieces that were posted together, and the front end that received them. -/
structure Delivery where
  receiver : FrontEndId
  pieces : List Piece
  deriving Repr, DecidableEq

/-- The event that a delivery is. -/
def Delivery.event (d : Delivery) : Event :=
  .posted d.receiver (piecesText d.pieces)

/-- Every piece was posted to the front end that it was given to. -/
def Faithful (ds : List Delivery) : Prop :=
  ∀ d ∈ ds, ∀ p ∈ d.pieces, p.front = d.receiver

/-- Where the pieces of output are: waiting, or posted. -/
structure Ledger where
  waiting : List Piece := []
  sent : List Delivery := []
  deriving Repr, DecidableEq

/-- Books a call: its piece joins those that wait, all that wait is sent if anything was posted, and the
end of a session forgets the rest. -/
def Ledger.book (l : Ledger) (piece : Option Piece) (receiver : Option FrontEndId)
    (ends : Bool) : Ledger :=
  let waiting := l.waiting ++ piece.toList
  match receiver with
  | none => { l with waiting := if ends then [] else waiting }
  | some receiver => { waiting := [], sent := l.sent ++ [⟨receiver, waiting⟩] }

/-- The front end that something was posted to between two screens. -/
def Screen.posted? (s t : Screen) : Option FrontEndId :=
  (t.history.drop s.history.length).findSome? Event.posts?

/-- A ledger agrees with a screen: what waits is what is held, what was sent is what was posted, and what
waits was given to the front end that is set. -/
structure Ledger.Keeps (l : Ledger) (s : Screen) : Prop where
  waiting : piecesText l.waiting = s.coalescer.pending
  sent : l.sent.map Delivery.event = s.history.filter (·.posts?.isSome)
  addressee : ∀ p ∈ l.waiting, s.front = some p.front

variable {l : Ledger} {s t : Screen}

/-- Who was posted to is told by the new events. -/
lemma Screen.posted?_of_history {new : List Event} (h : t.history = s.history ++ new) :
    s.posted? t = new.findSome? Event.posts? := by
  simp [posted?, h]

/-- A delivery posts to its front end if it releases something. -/
lemma Screen.posted?_deliver (s : Screen) (id : FrontEndId) (action : Action) :
    s.posted? (s.deliver id action) =
      (s.coalescer.apply s.clock action).1.map fun _ => id := by
  rw [posted?_of_history (s.deliver_history id action)]
  cases (s.coalescer.apply s.clock action).1 <;> rfl

/-- An action that releases something holds nothing back. -/
lemma Coalescer.pending_of_released {c : Coalescer} {now : Time} {action : Action} {text : String}
    (h : (c.apply now action).1 = some text) : (c.apply now action).2.pending = "" := by
  cases action with
  | push chunk =>
    simp only [apply, push] at h ⊢
    split <;> simp_all
  | flush force =>
    simp only [apply, flush] at h ⊢
    split
    · assumption
    · split <;> simp_all

/-- A delivery posts to no other front end than its own. -/
lemma Screen.eq_of_posted?_deliver {id other : FrontEndId} {action : Action}
    (h : s.posted? (s.deliver id action) = some other) : id = other := by
  rw [posted?_deliver] at h
  obtain ⟨_, -, rfl⟩ := Option.map_eq_some_iff.mp h
  rfl

/-- Letting held output go posts to no other front end than the one that is set. -/
lemma Screen.front_of_posted?_flush (s : Screen) (force : Bool) {id : FrontEndId}
    (h : s.posted? (s.flush force) = some id) : s.front = some id := by
  unfold Screen.flush at h
  split at h
  · simp [posted?] at h
  · next hid =>
    obtain rfl := eq_of_posted?_deliver h
    exact front_of_receiver? hid

/-- A delivery is booked with the piece that it is made with. -/
lemma Ledger.Keeps.deliver (k : l.Keeps s) {piece : Option Piece} {action : Action}
    (htext : piecesText piece.toList = action.text)
    (hfront : ∀ p ∈ piece.toList, s.front = some p.front) (id : FrontEndId) :
    (l.book piece (s.posted? (s.deliver id action)) false).Keeps (s.deliver id action) := by
  have conserves := s.coalescer.apply_conserves s.clock action
  have hwaiting : piecesText (l.waiting ++ piece.toList) = s.coalescer.pending ++ action.text := by
    rw [piecesText_append, k.waiting, htext]
  rw [s.posted?_deliver]
  cases hr : (s.coalescer.apply s.clock action).1 with
  -- Nothing is released: the piece waits behind those that wait already.
  | none =>
    rw [hr, Option.getD_none, String.empty_append] at conserves
    refine ⟨?_, ?_, ?_⟩
    · rw [Screen.deliver_coalescer, conserves]
      exact hwaiting
    · rw [Screen.deliver_history, hr]
      simpa [book] using k.sent
    · intro p hp
      obtain hp | hp := List.mem_append.mp (show p ∈ l.waiting ++ piece.toList from hp)
      · exact k.addressee p hp
      · exact hfront p hp
  -- All that waits is released together, the piece with it.
  | some text =>
    have hpending := Coalescer.pending_of_released hr
    rw [hr, hpending, Option.getD_some, String.append_empty] at conserves
    refine ⟨?_, ?_, ?_⟩
    · exact hpending.symm
    · rw [Screen.deliver_history, hr, conserves]
      simp [book, k.sent, Delivery.event, hwaiting, Event.posts?]
    · simp [book]

/-- A call that gives no piece and posts nothing leaves a ledger as it is. -/
@[simp] lemma Ledger.book_none (l : Ledger) : l.book none none false = l := by
  simp [book]

/-- Letting held output go is booked without a piece. -/
lemma Ledger.Keeps.flush (k : l.Keeps s) (force : Bool) :
    (l.book none (s.posted? (s.flush force)) false).Keeps (s.flush force) := by
  unfold Screen.flush
  split
  · have hposted : s.posted? s = none := by simp [Screen.posted?]
    rw [hposted, book_none]
    exact k
  · exact k.deliver rfl (by simp) _

/-- Once what was held is forgotten, nothing waits for the front end that was set. -/
lemma Ledger.Keeps.forget {receiver : Option FrontEndId}
    (k : (l.book none receiver false).Keeps s) (hp : t.coalescer.pending = "")
    (hh : t.history = s.history) : (l.book none receiver true).Keeps t := by
  have sent := k.sent
  cases receiver <;> exact ⟨hp.symm, hh ▸ sent, by simp [book]⟩

/-- An event that asks a front end posts nothing. -/
lemma Event.posts?_of_asks? {e : Event} {id : FrontEndId} (h : e.asks? = some id) :
    e.posts? = none := by
  cases e with
  | posted front text => cases h
  | promptedLine front prompt => rfl
  | promptedBounded front limit => rfl

/-- A prompt after a delivery posts nothing more. -/
lemma Screen.posted?_record (s : Screen) (id : FrontEndId) (action : Action) {e : Event}
    (h : e.posts? = none) :
    s.posted? ((s.deliver id action).record e) = s.posted? (s.deliver id action) := by
  have hnew : ((s.deliver id action).record e).history = s.history ++
      (((s.coalescer.apply s.clock action).1.map (.posted id)).toList ++ [e]) :=
    List.append_assoc ..
  rw [posted?_of_history hnew, posted?_of_history (s.deliver_history id action),
    List.findSome?_append]
  simp [h]

/-- A prompt is not booked. -/
lemma Ledger.Keeps.record (k : l.Keeps s) {e : Event} (h : e.posts? = none) :
    l.Keeps (s.record e) := by
  refine ⟨k.waiting, ?_, k.addressee⟩
  simp [Screen.record, k.sent, h]

/-- What is booked is faithful if what was sent before it is, and if all that is sent now was given to the
front end that receives it. -/
lemma Ledger.faithful_book (l : Ledger) (piece : Option Piece) (receiver : Option FrontEndId)
    (ends : Bool) :
    Faithful (l.book piece receiver ends).sent ↔
      Faithful l.sent ∧
        ∀ id, receiver = some id → ∀ p ∈ l.waiting ++ piece.toList, p.front = id := by
  cases receiver with
  | none => simp [book]
  | some id =>
    simp only [book, Faithful, List.forall_mem_append, List.mem_singleton, forall_eq,
      Option.some.injEq, forall_eq']

end Pane

namespace World

/-- The ledger at the end of a run, from one at its start. -/
def ledger (w : World) (l : Ledger) : List (Time × Call) → Ledger
  | [] => l
  | (now, c) :: calls =>
    let before := w.atTime now
    let after := (before.call c).2
    let receiver := before.machine.screen.posted? after.machine.screen
    after.ledger (l.book (before.piece? c) receiver c.endsSession) calls

/-- A handle that was made for another front end than the one that is set lets go of output. -/
def Stray (w : World) : Call → Bool
  | .flushThrough n force =>
    (w.handles[n]?).join.any fun id =>
      w.machine.front ≠ some id &&
        (w.machine.coalescer.flush force w.machine.clock).1.isSome
  | _ => false

variable {w : World} {c : Call} {s : Screen} {l : Ledger}

/-- A call that gives no piece is booked without one. -/
lemma keeps_of_none {receiver : Option FrontEndId} {ends : Bool} (hc : c.output? = none)
    (he : c.endsSession = ends) (k : (l.book none receiver ends).Keeps s) :
    (l.book (w.piece? c) receiver c.endsSession).Keeps s := by
  rw [piece?_of_output? hc, he]
  exact k

/-- A call that neither gives a piece nor adds an event leaves a ledger as it is. -/
lemma keeps_of_history (hpiece : w.piece? c = none) (he : c.endsSession = false)
    (k : l.Keeps s) (h : s.history = w.machine.screen.history) :
    (l.book (w.piece? c) (w.machine.screen.posted? s) c.endsSession).Keeps s := by
  have hposted : w.machine.screen.posted? s = none := by simp [Screen.posted?, h]
  rw [hpiece, he, hposted, Ledger.book_none]
  exact k

/-- Every turn is booked as it is seen. -/
lemma Turn.keeps (turn : w.Turn c s) (k : l.Keeps w.machine.screen) :
    (l.book (w.piece? c) (w.machine.screen.posted? s) c.endsSession).Keeps s := by
  cases turn with
  | rest hpiece he => exact keeps_of_history hpiece he k rfl
  | @ask _ id e hc he _ hasks =>
    have hposts := Event.posts?_of_asks? hasks
    rw [Screen.posted?_record _ id _ hposts]
    exact keeps_of_none hc he ((k.deliver rfl (by simp) id).record hposts)
  | @shown _ p hpiece he hid =>
    have htext : piecesText (some p).toList = (Action.push p.text).text := piecesText_single p
    rw [hpiece, he]
    refine k.deliver htext ?_ p.front
    simpa using Screen.front_of_receiver? hid
  | flush => exact keeps_of_none rfl rfl (k.flush _)
  | through => exact keeps_of_none rfl rfl (k.deliver rfl (by simp) _)
  | reset => exact keeps_of_none rfl rfl ((k.flush true).forget rfl rfl)
  | attach => exact keeps_of_none rfl rfl ((k.flush true).forget rfl rfl)
  | @attachNew f =>
    let added := { w.machine.screen with attached := w.machine.screen.attached ++ [f.attached] }
    have kept : l.Keeps added := ⟨k.waiting, k.sent, k.addressee⟩
    exact keeps_of_none rfl rfl ((kept.flush true).forget rfl rfl)
  | adjust =>
    exact keeps_of_history (piece?_of_output? rfl) rfl ⟨k.waiting, k.sent, k.addressee⟩ rfl

/-- A stray call is a flush through a handle for a front end that is not set, and releases something. -/
lemma stray_iff : w.Stray c = true ↔
    ∃ n force id text, c = .flushThrough n force ∧ (w.handles[n]?).join = some id ∧
      w.machine.front ≠ some id ∧
      (w.machine.coalescer.flush force w.machine.clock).1 = some text := by
  constructor
  · intro h
    unfold Stray at h
    split at h
    · next n force =>
      obtain ⟨id, hid, h⟩ := (Option.any_eq_true _ _).mp h
      obtain ⟨hfront, hreleased⟩ := Bool.and_eq_true_iff.mp h
      obtain ⟨text, htext⟩ := Option.isSome_iff_exists.mp hreleased
      exact ⟨n, force, id, text, rfl, hid, by simpa using hfront, htext⟩
    · cases h
  · rintro ⟨n, force, id, text, rfl, hid, hfront, htext⟩
    simp [Stray, hid, hfront, htext]

/-- Unless it is stray, a call posts only to the front end that is set. -/
lemma Turn.front_of_posted (turn : w.Turn c s) (h : w.Stray c = false) {id : FrontEndId}
    (hp : w.machine.screen.posted? s = some id) : w.machine.front = some id := by
  cases turn with
  | rest => simp [Screen.posted?] at hp
  | @ask _ j e _ _ hid hasks =>
    rw [Screen.posted?_record _ j _ (Event.posts?_of_asks? hasks)] at hp
    obtain rfl := Screen.eq_of_posted?_deliver hp
    exact Screen.front_of_receiver? hid
  | shown _ _ hid =>
    obtain rfl := Screen.eq_of_posted?_deliver hp
    exact Screen.front_of_receiver? hid
  | flush => exact Screen.front_of_posted?_flush _ _ hp
  | @through n j force hid =>
    obtain rfl := Screen.eq_of_posted?_deliver hp
    rw [Screen.posted?_deliver] at hp
    obtain ⟨text, htext, -⟩ := Option.map_eq_some_iff.mp hp
    by_contra hfront
    -- This is the one turn whose receiver is not the front end that is set.
    have stray := stray_iff.mpr ⟨n, force, j, text, rfl, hid, hfront, htext⟩
    rw [stray] at h
    cases h
  | reset => exact Screen.front_of_posted?_flush _ true hp
  | attach => exact Screen.front_of_posted?_flush _ true hp
  | @attachNew f =>
    let added := { w.machine.screen with attached := w.machine.screen.attached ++ [f.attached] }
    exact Screen.front_of_posted?_flush added true hp
  | adjust => simp [Screen.posted?] at hp

/-- A piece is given to the front end that is set. -/
lemma front_of_piece? {p : Piece} (h : w.piece? c = some p) : w.machine.front = some p.front := by
  obtain ⟨⟨id, f⟩, ha, hp⟩ := Option.bind_eq_some_iff.mp h
  obtain ⟨text, -, rfl⟩ := Option.map_eq_some_iff.mp hp
  exact Screen.front_of_receiver? (Machine.receiver?_of_attached? ha)

/-- A stray call posts what was held to the front end of its handle. -/
lemma posted?_of_stray {n : Nat} {force : Bool} {id : FrontEndId} {text : String}
    (hid : (w.handles[n]?).join = some id)
    (htext : (w.machine.coalescer.flush force w.machine.clock).1 = some text) :
    w.machine.screen.posted? (w.call (.flushThrough n force)).2.machine.screen = some id := by
  have happly : (w.machine.screen.coalescer.apply w.machine.screen.clock (.flush force)).1 =
      some text := htext
  simp only [call, hid, Machine.flushThrough, Machine.screen_deliver, Screen.posted?_deliver, happly]
  rfl

/-- Booking a call is faithful exactly if the call is not stray. -/
lemma faithful_call (b : w.machine.state.table.Bound) (k : l.Keeps w.machine.screen) :
    Faithful (l.book (w.piece? c)
        (w.machine.screen.posted? (w.call c).2.machine.screen) c.endsSession).sent ↔
      Faithful l.sent ∧ w.Stray c = false := by
  rw [Ledger.faithful_book]
  constructor
  · rintro ⟨hsent, hnew⟩
    refine ⟨hsent, ?_⟩
    by_contra h
    obtain ⟨n, force, id, text, rfl, hid, hfront, htext⟩ := stray_iff.mp (by simpa using h)
    -- What a stray call releases is not empty, so that some piece waits; it was given to the front
    -- end that is set, which is not the one that receives it.
    have hpending : w.machine.coalescer.pending ≠ "" := by
      intro hp
      simp [Coalescer.flush, hp] at htext
    have hwaiting : l.waiting ≠ [] := by
      intro hw
      have hk := k.waiting
      rw [hw] at hk
      exact hpending hk.symm
    obtain ⟨p, hp⟩ := List.exists_mem_of_ne_nil _ hwaiting
    have hsame := hnew id (posted?_of_stray hid htext) p (List.mem_append_left _ hp)
    exact hfront (hsame ▸ k.addressee p hp)
  · rintro ⟨hsent, hstray⟩
    refine ⟨hsent, fun id hid p hp => ?_⟩
    have hfront := (turn_of_call b c).front_of_posted hstray hid
    have haddressee : w.machine.front = some p.front := by
      obtain hp | hp := List.mem_append.mp hp
      · exact k.addressee p hp
      · exact front_of_piece? (by simpa using hp)
    rw [hfront] at haddressee
    exact (Option.some.inj haddressee).symm

/-- Time is not booked. -/
lemma keeps_atTime (k : l.Keeps w.machine.screen) (now : Time) :
    l.Keeps (w.atTime now).machine.screen :=
  ⟨k.waiting, k.sent, k.addressee⟩

/-- A run is booked as it is seen, and faithful exactly if none of its calls is stray. -/
lemma ledger_run (b : w.Bound) (k : l.Keeps w.machine.screen) (calls : List (Time × Call)) :
    (w.ledger l calls).Keeps (w.run calls).2.machine.screen ∧
      (Faithful (w.ledger l calls).sent ↔
        Faithful l.sent ∧ w.Throughout (fun w c => w.Stray c = false) calls) := by
  induction calls generalizing w l with
  | nil => exact ⟨k, by simp [ledger, Throughout]⟩
  | cons entry calls ih =>
    obtain ⟨now, c⟩ := entry
    have bound := b.atTime now
    have before := keeps_atTime k now
    have turn := turn_of_call bound.active c
    obtain ⟨kept, faithful⟩ := ih (bound.call c) (turn.keeps before)
    refine ⟨kept, ?_⟩
    rw [faithful_call bound.active before, and_assoc] at faithful
    exact faithful

/-- Every piece of output is posted, if at all, only to the front end that it was printed to exactly if
no call of the run is stray. The ledger is a faithful record: what it says was sent is what was posted. -/
theorem delivered_iff_no_stray (fresh : w.Fresh) (calls : List (Time × Call)) :
    (w.ledger {} calls).sent.map Delivery.event =
        (w.run calls).2.machine.history.filter (·.posts?.isSome) ∧
      ((∀ d ∈ (w.ledger {} calls).sent, ∀ p ∈ d.pieces, p.front = d.receiver) ↔
        w.Throughout (fun w c => w.Stray c = false) calls) := by
  have init : ({} : Ledger).Keeps w.machine.screen :=
    ⟨fresh.pending.symm, by simp [Machine.screen, fresh.history], by simp⟩
  obtain ⟨kept, faithful⟩ := ledger_run fresh.bound init calls
  refine ⟨kept.sent, faithful.trans ?_⟩
  exact and_iff_right (by simp [Faithful])

/-- Two front ends one after the other, each with a handle that is used while it is set. -/
theorem delivered_iff_no_stray_in_turn :
    let calls : List (Time × Call) :=
      [(0, .attachNew { interactive := true }), (0, .takeHandle), (1, .print "for a"),
        (2, .flushThrough 0 true), (3, .attachNew { interactive := true }), (3, .takeHandle),
        (4, .print "for b"), (5, .flushThrough 1 true)]
    scratch.Fresh ∧ (scratch.run calls).2.machine.history = [.posted 0 "for a", .posted 1 "for b"] ∧
    scratch.Throughout (fun w c => w.Stray c = false) calls ∧
    ∀ d ∈ (scratch.ledger {} calls).sent, ∀ p ∈ d.pieces, p.front = d.receiver := by
  intro calls
  have none_stray : scratch.Throughout (fun w c => w.Stray c = false) calls := by decide +kernel
  refine ⟨fresh_scratch, by decide +kernel, none_stray, ?_⟩
  exact (delivered_iff_no_stray fresh_scratch calls).2.mpr none_stray

/-- A handle outlives the front end that it was made for: what is printed to the second front end is
posted to the first. -/
theorem stray_flush_misdelivers :
    let calls : List (Time × Call) :=
      [(0, .attachNew { interactive := true }), (0, .takeHandle),
        (0, .attachNew { interactive := true }), (0, .print "for b"), (0, .flushThrough 0 true)]
    scratch.Fresh ∧ scratch.pieces calls = [⟨1, "for b"⟩] ∧
    (scratch.ledger {} calls).sent = [⟨0, [⟨1, "for b"⟩]⟩] ∧
    (scratch.run calls).2.machine.history = [.posted 0 "for b"] := by
  exact ⟨fresh_scratch, by decide +kernel, by decide +kernel, by decide +kernel⟩

end World

end Hostcall
