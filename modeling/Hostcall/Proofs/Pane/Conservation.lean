import Hostcall.Proofs.Pane.Turns
import Hostcall.Proofs.World.Streams

/-!
# No output is lost, repeated or reordered

The account of a screen is in order if what was posted and what is held make up the pieces of output so
far, and nothing is held unless someone can receive it (`Screen.Accounts`). Every turn keeps the account
in order as long as no front end changes its mind about being attached (`Turn.accounts`), so that it is
in order after every run (`output_conserved`). The second half of the account is what makes it safe to
forget held output at the end of a session.
-/

namespace Hostcall

open Pane

namespace Pane

/-- The text that was posted, to whichever front end. -/
def postedText (es : List Event) : String :=
  String.join (es.map Event.text)

/-- The text of several pieces. -/
def piecesText (ps : List Piece) : String :=
  String.join (ps.map Piece.text)

/-- What is posted later stands behind what was posted before. -/
lemma postedText_append (es fs : List Event) :
    postedText (es ++ fs) = postedText es ++ postedText fs := by
  simp only [postedText, List.map_append, String.join_append]

/-- The text of later pieces stands behind that of earlier ones. -/
lemma piecesText_append (ps qs : List Piece) :
    piecesText (ps ++ qs) = piecesText ps ++ piecesText qs := by
  simp only [piecesText, List.map_append, String.join_append]

/-- The text of one piece is its own. -/
lemma piecesText_single (p : Piece) : piecesText [p] = p.text := by
  simp [piecesText, String.join]

/-- A prompt posts nothing. -/
lemma postedText_prompt {e : Event} {id : FrontEndId} (h : e.asks? = some id) :
    postedText [e] = "" := by
  cases e with
  | posted front text => cases h
  | promptedLine front prompt => rfl
  | promptedBounded front limit => rfl

/-- The text that an action adds to what is held. -/
def Action.text : Action → String
  | .push chunk => chunk
  | .flush _ => ""

/-- What an action releases, and what is held after it, is what was held and the text of the action. -/
lemma Coalescer.apply_conserves (c : Coalescer) (now : Time) (action : Action) :
    (c.apply now action).1.getD "" ++ (c.apply now action).2.pending = c.pending ++ action.text := by
  cases action with
  | push chunk => exact c.push_conserves chunk now
  | flush force => exact (c.flush_conserves force now).trans String.append_empty.symm

namespace Screen

/-- What was posted and what is held grow by the text of an action. -/
lemma deliver_text (s : Screen) (id : FrontEndId) (action : Action) :
    postedText (s.deliver id action).history ++ (s.deliver id action).coalescer.pending =
      postedText s.history ++ s.coalescer.pending ++ action.text := by
  have hposted (o : Option String) : postedText (o.map (.posted id)).toList = o.getD "" := by
    cases o <;> simp [postedText, Event.text, String.join]
  simp only [deliver, postedText_append, hposted, String.append_assoc,
    Coalescer.apply_conserves]

/-- Where nothing is held, a flush does nothing. -/
lemma deliver_of_pending {s : Screen} (hp : s.coalescer.pending = "") (id : FrontEndId)
    (force : Bool) : s.deliver id (.flush force) = s := by
  simp [deliver, Coalescer.apply, Coalescer.flush, hp]

/-- A flush holds back only what was held. -/
lemma pending_of_flush {s : Screen} {id : FrontEndId} {force : Bool}
    (h : (s.deliver id (.flush force)).coalescer.pending ≠ "") : s.coalescer.pending ≠ "" := by
  intro hp
  rw [deliver_of_pending hp] at h
  exact h hp

/-- A forced flush holds nothing back. -/
lemma pending_of_force (s : Screen) (id : FrontEndId) :
    (s.deliver id (.flush true)).coalescer.pending = "" :=
  s.coalescer.pending_flush_force s.clock

/-- What was posted and what is held make up the pieces so far, and what is held has a receiver. -/
structure Accounts (s : Screen) (ps : List Piece) : Prop where
  text : postedText s.history ++ s.coalescer.pending = piecesText ps
  held : s.coalescer.pending ≠ "" → s.receiver? ≠ none

variable {s : Screen} {ps : List Piece}

/-- A piece that is shown to the receiver is entered in the account. -/
lemma Accounts.push {p : Piece} (a : s.Accounts ps) (h : s.receiver? = some p.front) :
    (s.deliver p.front (.push p.text)).Accounts (ps ++ [p]) where
  text := by
    rw [deliver_text, a.text, piecesText_append, piecesText_single]
    rfl
  held _ := by
    rw [deliver_receiver?, h]
    simp

/-- Letting held output go, to anyone, keeps the account in order. -/
lemma Accounts.release (a : s.Accounts ps) (id : FrontEndId) (force : Bool) :
    (s.deliver id (.flush force)).Accounts ps where
  text := by
    rw [deliver_text, a.text]
    exact String.append_empty
  held h := a.held (pending_of_flush h)

/-- A flush keeps the accounts, with or without force. -/
lemma Accounts.flush (a : s.Accounts ps) (force : Bool) : (s.flush force).Accounts ps := by
  unfold Screen.flush
  split
  · exact a
  · exact a.release _ force

/-- After a forced flush nothing is held: what had no receiver was nothing. -/
lemma Accounts.pending_flush (a : s.Accounts ps) : (s.flush true).coalescer.pending = "" := by
  unfold Screen.flush
  split
  -- Without a receiver nothing is posted, but then the account says that nothing is held.
  · next hnone =>
    by_contra hp
    exact a.held hp hnone
  · exact s.pending_of_force _

/-- A prompt keeps the account in order. -/
lemma Accounts.record {e : Event} {id : FrontEndId} (a : s.Accounts ps) (h : e.asks? = some id) :
    (s.record e).Accounts ps where
  text := by
    simp only [Screen.record, postedText_append, postedText_prompt h, String.append_empty]
    exact a.text
  held := a.held

/-- Where nothing is held, it does not matter who is attached. -/
lemma Accounts.of_pending {t : Screen} (a : s.Accounts ps) (hp : t.coalescer.pending = "")
    (hs : s.coalescer.pending = "") (hh : t.history = s.history) : t.Accounts ps where
  text := by
    rw [hp, hh, ← hs]
    exact a.text
  held h := absurd hp h

/-- More front ends, or front ends that say what they said before, keep the account in order. -/
lemma Accounts.extend {attached : List Bool} (a : s.Accounts ps) (h : s.attached <+: attached) :
    { s with attached }.Accounts ps where
  text := a.text
  held hp := by
    obtain ⟨id, hid⟩ := Option.ne_none_iff_exists'.mp (a.held hp)
    obtain ⟨hfront, hsays⟩ := Option.filter_eq_some_iff.mp hid
    have hsays : s.attached[id]? = some true := by simpa using hsays
    obtain ⟨hlt, -⟩ := List.getElem?_eq_some_iff.mp hsays
    have hstill : attached[id]? = some true := by
      obtain ⟨added, rfl⟩ := h
      rw [List.getElem?_append_left hlt, hsays]
    simp [receiver?, hfront, hstill]

/-- The end of a session forgets nothing that is held, so that anyone may be attached after it. -/
lemma Accounts.endSession (a : s.Accounts ps) {t : Screen} (hp : t.coalescer.pending = "")
    (hh : t.history = s.endSession.history) : t.Accounts ps :=
  (a.flush true).of_pending hp a.pending_flush hh

/-! ## Events -/

/-- What was added to the events asks nobody. -/
def OnlyPosts (s t : Screen) : Prop :=
  ∃ new, t.history = s.history ++ new ∧ ∀ e ∈ new, e.asks? = none

/-- A screen that stays as it is only posts. -/
lemma OnlyPosts.refl (s : Screen) : s.OnlyPosts s :=
  ⟨[], by simp, by simp⟩

/-- A delivery asks nobody. -/
lemma onlyPosts_deliver (s : Screen) (id : FrontEndId) (action : Action) :
    s.OnlyPosts (s.deliver id action) := by
  refine ⟨_, rfl, ?_⟩
  cases (s.coalescer.apply s.clock action).1 <;> simp [Event.asks?]

/-- A flush only posts. -/
lemma onlyPosts_flush (s : Screen) (force : Bool) : s.OnlyPosts (s.flush force) := by
  unfold Screen.flush
  split
  · exact .refl s
  · exact s.onlyPosts_deliver _ _

/-- A prompt is the last event of its turn, and everything that was held has been posted before it. -/
lemma Accounts.text_before_prompt (a : s.Accounts ps) {id : FrontEndId} {prompt e : Event}
    {before after : List Event} (he : e.asks? ≠ none)
    (h : ((s.deliver id (.flush true)).record prompt).history = s.history ++ before ++ e :: after) :
    postedText (s.history ++ before) = piecesText ps := by
  obtain ⟨new, hnew, hposts⟩ := s.onlyPosts_deliver id (.flush true)
  have hsplit : new ++ [prompt] = before ++ e :: after := by
    simpa [Screen.record, hnew] using h
  -- An event that asks is none of those that were posted, so it can only be the prompt itself.
  have hbefore : new = before := by
    obtain rfl | ⟨after, last, rfl⟩ := List.eq_nil_or_concat after
    · exact (List.append_inj' hsplit rfl).1
    · rw [List.concat_eq_append, ← List.cons_append, ← List.append_assoc] at hsplit
      have hmem : e ∈ new := by simp [(List.append_inj' hsplit rfl).1]
      exact absurd (hposts e hmem) he
  have text := (a.release id true).text
  rwa [s.pending_of_force, String.append_empty, hnew, hbefore] at text

end Screen

end Pane

/-- Where nothing is held, a flush through a handle changes nothing of the machine. -/
lemma Machine.flushThrough_of_pending {m : Machine} (hp : m.coalescer.pending = "")
    (id : FrontEndId) (force : Bool) : m.flushThrough id force = m := by
  simp [flushThrough, deliver, Coalescer.apply, Coalescer.flush, Coalescer.note, hp]

namespace World

/-- The pieces of output that the calls of a run give to front ends. -/
def pieces (w : World) : List (Time × Call) → List Piece
  | [] => []
  | (now, c) :: calls =>
    ((w.atTime now).piece? c).toList ++ ((w.atTime now).call c).2.pieces calls

/-- A call leaves every front end that is there as attached as it was. -/
def Steady (w : World) (c : Call) : Prop :=
  w.machine.screen.attached <+: (w.call c).2.machine.screen.attached

instance (w : World) (c : Call) : Decidable (Steady w c) :=
  inferInstanceAs (Decidable (_ <+: _))

variable {w : World} {c : Call} {s : Screen} {ps : List Piece}

/-- A call that gives no piece has none to be entered. -/
lemma accounts_of_none (h : w.piece? c = none) (a : s.Accounts ps) :
    s.Accounts (ps ++ (w.piece? c).toList) := by
  simpa [h] using a

/-- Every turn keeps the account in order, unless it changes who is attached. -/
lemma Turn.accounts (turn : w.Turn c s) (a : w.machine.screen.Accounts ps)
    (steady : w.machine.screen.attached <+: s.attached) :
    s.Accounts (ps ++ (w.piece? c).toList) := by
  cases turn with
  | rest hpiece _ => exact accounts_of_none hpiece a
  | ask hc _ _ hasks =>
    exact accounts_of_none (piece?_of_output? hc) ((a.release _ true).record hasks)
  | shown hpiece _ hid =>
    rw [hpiece]
    exact a.push hid
  | flush => exact accounts_of_none (piece?_of_output? rfl) (a.flush _)
  | through _ => exact accounts_of_none (piece?_of_output? rfl) (a.release _ _)
  | reset => exact accounts_of_none (piece?_of_output? rfl) (a.endSession rfl rfl)
  | attach => exact accounts_of_none (piece?_of_output? rfl) (a.endSession rfl rfl)
  | @attachNew f =>
    have extended := a.extend (List.prefix_append w.machine.screen.attached [f.attached])
    exact accounts_of_none (piece?_of_output? rfl) (extended.endSession rfl rfl)
  | adjust => exact accounts_of_none (piece?_of_output? rfl) (a.extend steady)

/-- Time does not change an account. -/
lemma accounts_atTime (a : w.machine.screen.Accounts ps) (now : Time) :
    (w.atTime now).machine.screen.Accounts ps :=
  ⟨a.text, a.held⟩

/-- A steady run keeps the account in order. -/
lemma accounts_run {calls : List (Time × Call)} (b : w.Bound)
    (a : w.machine.screen.Accounts ps) (steady : w.Throughout Steady calls) :
    (w.run calls).2.machine.screen.Accounts (ps ++ w.pieces calls) := by
  induction calls generalizing w ps with
  | nil => simpa [run, pieces] using a
  | cons entry calls ih =>
    -- The call adds its piece to those so far, which are therefore arbitrary in the induction.
    obtain ⟨now, c⟩ := entry
    obtain ⟨first, rest⟩ := steady
    have bound := b.atTime now
    have turn := turn_of_call bound.active c
    have next := ih (bound.call c) (turn.accounts (accounts_atTime a now) first) rest
    simpa [run, pieces, List.append_assoc] using next

/-- Only calls that ask add anything but posts to the events. -/
lemma Turn.onlyPosts_or_asks (turn : w.Turn c s) :
    w.machine.screen.OnlyPosts s ∨
      ∃ id e, s = (w.machine.screen.deliver id (.flush true)).record e := by
  cases turn with
  | rest => exact .inl (.refl _)
  | ask => exact .inr ⟨_, _, rfl⟩
  | shown => exact .inl (Screen.onlyPosts_deliver _ _ _)
  | flush => exact .inl (Screen.onlyPosts_flush _ _)
  | through => exact .inl (Screen.onlyPosts_deliver _ _ _)
  | reset => exact .inl (Screen.onlyPosts_flush _ true)
  | attach => exact .inl (Screen.onlyPosts_flush _ true)
  | @attachNew f =>
    let added := w.machine.screen.attached ++ [f.attached]
    exact .inl (Screen.onlyPosts_flush { w.machine.screen with attached := added } true)
  | adjust => exact .inl ⟨[], by simp, by simp⟩

/-- When a call asks, all text of earlier calls has been posted. -/
lemma Turn.text_before_prompt (turn : w.Turn c s) (a : w.machine.screen.Accounts ps) {e : Event}
    {before after : List Event} (he : e.asks? ≠ none)
    (h : s.history = w.machine.history ++ before ++ e :: after) :
    postedText (w.machine.history ++ before) = piecesText ps := by
  obtain ⟨new, hnew, hposts⟩ | ⟨id, prompt, rfl⟩ := turn.onlyPosts_or_asks
  · have hsplit : new = before ++ e :: after := by
      rw [h, List.append_assoc] at hnew
      exact (List.append_cancel_left hnew).symm
    exact absurd (hposts e (by simp [hsplit])) he
  · exact a.text_before_prompt he h

/-- Output is neither lost nor repeated nor reordered. After every run, at any readings of the clock, in
which front ends stay as attached as they are, what was posted and what is held make up the pieces of
output in the order of the calls, and whenever the next call asks a front end, all of them have been
posted. Before it asks or ends the session a call lets go of what is held; nothing is held after that, so
that a flush through a handle which falls in between changes nothing. -/
theorem output_conserved (fresh : w.Fresh) {calls : List (Time × Call)}
    (steady : w.Throughout Steady calls) :
    let v := (w.run calls).2
    postedText v.machine.history ++ v.machine.coalescer.pending = piecesText (w.pieces calls) ∧
    (∀ now c before e after, e.asks? ≠ none →
      ((v.atTime now).call c).2.machine.history = v.machine.history ++ before ++ e :: after →
      postedText (v.machine.history ++ before) = piecesText (w.pieces calls)) ∧
    (v.machine.flush true).coalescer.pending = "" ∧
    ∀ now id force, { v.machine.flush true with clock := now }.flushThrough id force =
      { v.machine.flush true with clock := now } := by
  intro v
  have init : w.machine.screen.Accounts [] :=
    ⟨by simp [Machine.screen, fresh.history, fresh.pending, postedText, piecesText],
      fun h => absurd fresh.pending h⟩
  have bound : v.Bound := fresh.bound.run calls
  have a : v.machine.screen.Accounts (w.pieces calls) := accounts_run fresh.bound init steady
  have flushed : (v.machine.flush true).coalescer.pending = "" := by
    rw [← a.pending_flush, ← Machine.screen_flush]
    rfl
  refine ⟨a.text, ?_, flushed, ?_⟩
  · intro now c before e after he h
    have turn := turn_of_call (bound.atTime now).active c
    exact turn.text_before_prompt (accounts_atTime a now) he h
  · intro now id force
    apply Machine.flushThrough_of_pending
    exact flushed

/-- Two pieces are posted together through a handle, a third is still held. -/
theorem output_conserved_held :
    let calls : List (Time × Call) :=
      [(0, .attachNew { interactive := true }), (0, .takeHandle), (1, .print "a"),
        (2, .writeTo 2 [98]), (3, .flushThrough 0 true), (4, .print "c")]
    let v := (scratch.run calls).2
    scratch.Fresh ∧ scratch.Throughout Steady calls ∧
    v.machine.history = [.posted 0 "ab"] ∧ v.machine.coalescer.pending = "c" ∧
    piecesText (scratch.pieces calls) = "abc" ∧ (v.machine.flush true).coalescer.pending = "" := by
  intro calls v
  have steady : scratch.Throughout Steady calls := by decide +kernel
  obtain ⟨text, -, flushed, -⟩ := output_conserved fresh_scratch steady
  have history : v.machine.history = [.posted 0 "ab"] := by decide +kernel
  have pending : v.machine.coalescer.pending = "c" := by decide +kernel
  refine ⟨fresh_scratch, steady, history, pending, ?_, flushed⟩
  rw [← text]
  decide +kernel

end World

end Hostcall
