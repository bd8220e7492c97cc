import Hostcall.Proofs.Pane.Ledger
import Mathlib.Data.List.DropRight

/-!
# Windows between deliveries

What is done to a coalescer is recorded with its time and with what it delivered (`Coalescer.run`). The record
alone tells what waits, and from when the current window is counted: from the last delivery of the session, or
from the first push if nothing was delivered yet (`Coalescer.opening?`). Every operation keeps a coalescer in
step with its record (`Reflects.perform`). So deliveries keep their distance, whatever the clock does, and
nothing waits beyond the end of a window (`deliveries_spaced`).
-/

namespace Hostcall.Pane

/-- When an action pushes, if it does. -/
def Action.pushedAt? (now : Time) : Action → Option Time
  | .push _ => some now
  | .flush _ => none

namespace Coalescer

/-- Something that is done to a coalescer. -/
inductive Operation where
  | act (action : Action)
  /-- Forgets what is held and closes the window. -/
  | clear
  deriving Repr, DecidableEq

/-- The text that an operation adds to what is held. -/
def Operation.text : Operation → String
  | .act action => action.text
  | .clear => ""

/-- Does an operation: the text to deliver, if any, and the coalescer after it. -/
def perform (c : Coalescer) (now : Time) : Operation → Option String × Coalescer
  | .act action => c.apply now action
  | .clear => (none, c.clear)

/-- An operation as it was done. -/
structure Entry where
  time : Time
  operation : Operation
  delivered : Option String
  deriving Repr, DecidableEq

namespace Entry

def clears (e : Entry) : Bool :=
  e.operation = .clear

def delivers (e : Entry) : Bool :=
  e.delivered.isSome

/-- When something was pushed, if it was. -/
def pushedAt? (e : Entry) : Option Time :=
  match e.operation with
  | .act action => action.pushedAt? e.time
  | .clear => none

end Entry

/-- Does operations in order, each at its time: the record of them, and the coalescer at the end. -/
def run (c : Coalescer) : List (Time × Operation) → List Entry × Coalescer
  | [] => ([], c)
  | (now, op) :: ops =>
    let (delivered, c) := c.perform now op
    let (record, c) := c.run ops
    (⟨now, op, delivered⟩ :: record, c)

/-! ## What a record tells -/

/-- What was done since the last clearing. -/
def session (record : List Entry) : List Entry :=
  record.rtakeWhile (!·.clears)

/-- The text that was added since the last delivery or clearing. -/
def waiting (record : List Entry) : String :=
  String.join ((record.rtakeWhile fun e => !e.clears && !e.delivers).map (·.operation.text))

/-- When the last delivery of the session was made. -/
def lastDelivery? (record : List Entry) : Option Time :=
  ((session record).reverse.find? (·.delivers)).map (·.time)

/-- When the first push of the session was made. -/
def firstPush? (record : List Entry) : Option Time :=
  (session record).findSome? (·.pushedAt?)

/-- From when the current window is counted. -/
def opening? (record : List Entry) : Option Time :=
  (lastDelivery? record).or (firstPush? record)

variable {record : List Entry} {e : Entry}

/-- An entry that clears ends the session. -/
lemma session_of_clears (h : e.clears = true) : session (record ++ [e]) = [] := by
  simp [session, h]

/-- Any other entry belongs to it. -/
lemma session_concat (h : e.clears = false) : session (record ++ [e]) = session record ++ [e] := by
  simp [session, h]

/-- After an entry that clears nothing waits. -/
lemma waiting_of_clears (h : e.clears = true) : waiting (record ++ [e]) = "" := by
  simp [waiting, h, String.join]

/-- After a delivery nothing waits. -/
lemma waiting_of_delivers (h : e.delivers = true) : waiting (record ++ [e]) = "" := by
  simp [waiting, h, String.join]

/-- Otherwise the text of the entry waits behind what waited before. -/
lemma waiting_concat (hc : e.clears = false) (hd : e.delivers = false) :
    waiting (record ++ [e]) = waiting record ++ e.operation.text := by
  simp [waiting, hc, hd, String.join]

/-- An entry that delivers is the last delivery. -/
lemma lastDelivery?_of_delivers (hc : e.clears = false) (hd : e.delivers = true) :
    lastDelivery? (record ++ [e]) = some e.time := by
  simp [lastDelivery?, session_concat hc, hd]

/-- Any other entry leaves the last delivery what it was. -/
lemma lastDelivery?_concat (hc : e.clears = false) (hd : e.delivers = false) :
    lastDelivery? (record ++ [e]) = lastDelivery? record := by
  simp [lastDelivery?, session_concat hc, hd]

/-- An entry is the first push if there was none before. -/
lemma firstPush?_concat (hc : e.clears = false) :
    firstPush? (record ++ [e]) = (firstPush? record).or e.pushedAt? := by
  simp [firstPush?, session_concat hc, List.findSome?_append]

/-- An entry that clears leaves no window open. -/
lemma opening?_of_clears (h : e.clears = true) : opening? (record ++ [e]) = none := by
  simp [opening?, lastDelivery?, firstPush?, session_of_clears h]

/-- A delivery opens a window. -/
lemma opening?_of_delivers (hc : e.clears = false) (hd : e.delivers = true) :
    opening? (record ++ [e]) = some e.time := by
  simp [opening?, lastDelivery?_of_delivers hc hd]

/-- A push opens a window if there is none. -/
lemma opening?_concat (hc : e.clears = false) (hd : e.delivers = false) :
    opening? (record ++ [e]) = (opening? record).or e.pushedAt? := by
  simp only [opening?, lastDelivery?_concat hc hd, firstPush?_concat hc, Option.or_assoc]

/-! ## Keeping in step -/

/-- A coalescer holds what waits by the record, and its window ends an interval after the opening; whatever
waits lies in a window. -/
structure Reflects (c : Coalescer) (record : List Entry) : Prop where
  pending : c.pending = waiting record
  windowEnd : c.windowEnd = (opening? record).map (· + c.interval)
  opened : c.pending ≠ "" → opening? record ≠ none

variable {c : Coalescer} {now : Time} {action : Action} {text : String}

/-- No operation changes the interval. -/
@[simp] lemma interval_perform (c : Coalescer) (now : Time) (op : Operation) :
    (c.perform now op).2.interval = c.interval := by
  cases op with
  | clear => rfl
  | act action =>
    cases action with
    | push chunk =>
      simp only [perform, apply, push]
      split <;> rfl
    | flush force =>
      simp only [perform, apply, flush]
      split
      · rfl
      · split <;> rfl

/-- A delivery opens the next window. -/
lemma windowEnd_of_released (h : (c.apply now action).1 = some text) :
    (c.apply now action).2.windowEnd = some (now + c.interval) := by
  cases action with
  | push chunk =>
    simp only [apply, push] at h ⊢
    split <;> simp_all
  | flush force =>
    simp only [apply, flush] at h ⊢
    split
    · simp_all
    · split <;> simp_all

/-- Where nothing is delivered, a window that is open stays as it is. -/
lemma windowEnd_of_held (h : (c.apply now action).1 = none) :
    (c.apply now action).2.windowEnd =
      c.windowEnd.or ((action.pushedAt? now).map (· + c.interval)) := by
  cases action with
  | push chunk =>
    simp only [apply, push] at h ⊢
    split
    · exact Option.or_some.symm
    · simp_all
  | flush force =>
    simp only [apply, flush] at h ⊢
    split
    · exact Option.or_none.symm
    · split
      · exact Option.or_none.symm
      · simp_all

/-- What is delivered is what was held and the text of the action, and nothing is held after it. -/
lemma eq_of_released (h : (c.apply now action).1 = some text) : text = c.pending ++ action.text := by
  have conserves := c.apply_conserves now action
  rwa [h, pending_of_released h, Option.getD_some, String.append_empty] at conserves

/-- What is not released is held behind what was held before. -/
lemma pending_of_held (h : (c.apply now action).1 = none) :
    (c.apply now action).2.pending = c.pending ++ action.text := by
  have conserves := c.apply_conserves now action
  rwa [h, Option.getD_none, String.empty_append] at conserves

/-- Every operation keeps a coalescer in step with its record. -/
lemma Reflects.perform (h : c.Reflects record) (now : Time) (op : Operation) :
    (c.perform now op).2.Reflects (record ++ [⟨now, op, (c.perform now op).1⟩]) := by
  have hinterval := c.interval_perform now op
  cases op with
  | clear =>
    refine ⟨?_, ?_, fun hp => absurd rfl hp⟩
    · rw [waiting_of_clears rfl]
      rfl
    · rw [opening?_of_clears rfl]
      rfl
  | act action =>
    simp only [Coalescer.perform] at hinterval ⊢
    cases hr : (c.apply now action).1 with
    | some text =>
      have hpending := pending_of_released hr
      refine ⟨?_, ?_, fun hp => absurd hpending hp⟩
      · rw [hpending, waiting_of_delivers rfl]
      · rw [windowEnd_of_released hr, opening?_of_delivers rfl rfl, hinterval]
        rfl
    | none =>
      have hopening : opening? (record ++ [⟨now, .act action, none⟩]) =
          (opening? record).or (action.pushedAt? now) := opening?_concat rfl rfl
      refine ⟨?_, ?_, fun hp => ?_⟩
      · rw [pending_of_held hr, waiting_concat rfl rfl, h.pending]
        rfl
      · rw [windowEnd_of_held hr, h.windowEnd, hopening, hinterval, Option.map_or]
      · -- What waits was there before, in a window, or has just been pushed.
        rw [hopening]
        rw [pending_of_held hr] at hp
        cases action with
        | push chunk => simp [Action.pushedAt?]
        | flush force =>
          have hbefore := h.opened fun hempty => hp (by rw [hempty]; rfl)
          simpa [Action.pushedAt?] using hbefore

/-- A run keeps a coalescer in step with its record, from wherever it starts. -/
lemma Reflects.run (h : c.Reflects record) (ops : List (Time × Operation)) :
    (c.run ops).2.Reflects (record ++ (c.run ops).1) ∧ (c.run ops).2.interval = c.interval := by
  induction ops generalizing c record with
  | nil => simpa [Coalescer.run] using h
  | cons entry ops ih =>
    obtain ⟨now, op⟩ := entry
    obtain ⟨hrest, hinterval⟩ := ih (h.perform now op)
    rw [List.append_assoc] at hrest
    exact ⟨hrest, hinterval.trans (c.interval_perform now op)⟩

/-- A new coalescer has nothing on record. -/
lemma reflects_new (interval : Int) : Reflects { interval } [] where
  pending := rfl
  windowEnd := rfl
  opened hp := absurd rfl hp

/-! ## Distances -/

/-- The window in which an action is done, which it may have opened itself. -/
lemma opening?_or_pushedAt? (record : List Entry) (h : e.clears = false) :
    (opening? record).or e.pushedAt? = (lastDelivery? record).or (firstPush? (record ++ [e])) := by
  rw [firstPush?_concat h, opening?, Option.or_assoc]

/-- A delivery that is not forced lies at least an interval after the opening of its window. -/
lemma Reflects.le_of_released (h : c.Reflects record) (hr : (c.apply now action).1 = some text)
    (hforce : action ≠ .flush true) :
    ∃ r, (opening? record).or (action.pushedAt? now) = some r ∧ r + c.interval ≤ now := by
  have hwindow := h.windowEnd
  cases action with
  | push chunk =>
    refine ⟨(opening? record).getD now, Option.or_some, ?_⟩
    simp only [apply, push] at hr
    split at hr
    · cases hr
    · next hnow => cases ho : opening? record <;> simp_all
  | flush force =>
    simp only [apply, flush] at hr
    split at hr
    · cases hr
    · next hp =>
      obtain ⟨r, ho⟩ := Option.ne_none_iff_exists'.mp (h.opened hp)
      split at hr
      · cases hr
      · exact ⟨r, by simp [ho], by simp_all⟩

/-- Nothing waits after an action that is done when the window is over. -/
lemma Reflects.pending_of_le (h : c.Reflects record) {r : Time}
    (hr : (opening? record).or (action.pushedAt? now) = some r) (hle : r + c.interval ≤ now) :
    (c.apply now action).2.pending = "" := by
  have hwindow := h.windowEnd
  cases action with
  | push chunk =>
    have hover : ¬now < c.windowEnd.getD (now + c.interval) := by
      cases ho : opening? record <;> simp_all [Action.pushedAt?]
    simp only [apply, push, if_neg hover]
  | flush force =>
    have hopening : opening? record = some r := by simpa [Action.pushedAt?] using hr
    have hover : ¬((!force && c.windowEnd.any (now < ·)) = true) := by
      simp [hwindow, hopening, Int.not_lt.mpr hle]
    simp only [apply, flush, if_neg hover]
    split
    · assumption
    · rfl

/-- Deliveries keep their distance and nothing is stuck. After any operations on a new coalescer, at any
times, let one more be done.

What is held is what was pushed since the last delivery or clearing, in order, and what is delivered is that
and the text of the operation. A delivery that is not forced is made an interval or more after the last one,
or after the first push if there was none since the beginning or the last clearing. Whatever is done from then
on leaves nothing held, and so does a forced flush, which delivers all there is. A flush that finds nothing
does nothing, and clearing makes the coalescer what it was when it was new. -/
theorem deliveries_spaced (interval : Int) (ops : List (Time × Operation)) (now : Time) (op : Operation) :
    let (record, c) := ({ interval } : Coalescer).run ops
    let (delivered, after) := c.perform now op
    let next := record ++ [⟨now, op, delivered⟩]
    let opening := (lastDelivery? record).or (firstPush? next)
    (c.pending = waiting record ∧ after.pending = waiting next) ∧
    (∀ text, delivered = some text → text = waiting record ++ op.text) ∧
    (∀ text, delivered = some text → op ≠ .act (.flush true) →
      ∃ r, opening = some r ∧ r + interval ≤ now) ∧
    (∀ r, opening = some r → r + interval ≤ now → after.pending = "") ∧
    (op = .act (.flush true) → after.pending = "" ∧ delivered.getD "" = c.pending) ∧
    (∀ force, op = .act (.flush force) → c.pending = "" → delivered = none ∧ after = c) ∧
    (op = .clear → delivered = none ∧ after = { interval }) := by
  obtain ⟨reflects, hinterval⟩ := (reflects_new interval).run ops
  generalize ({ interval } : Coalescer).run ops = run at reflects hinterval ⊢
  obtain ⟨record, c⟩ := run
  obtain rfl : c.interval = interval := hinterval
  have reflects : c.Reflects record := reflects
  have pending := (reflects.perform now op).pending
  cases op with
  | clear =>
    exact ⟨⟨reflects.pending, pending⟩, nofun, nofun, fun _ _ _ => rfl, nofun, nofun, fun _ => ⟨rfl, rfl⟩⟩
  | act action =>
    have hopening := opening?_or_pushedAt? record (e := ⟨now, .act action, (c.apply now action).1⟩) rfl
    refine ⟨⟨reflects.pending, pending⟩, ?_, ?_, ?_, ?_, ?_, nofun⟩
    · intro text hr
      exact reflects.pending ▸ eq_of_released hr
    · intro text hr hforce
      obtain ⟨r, hr, hle⟩ := reflects.le_of_released hr fun h => hforce (congrArg _ h)
      exact ⟨r, hopening ▸ hr, hle⟩
    · intro r hr hle
      exact reflects.pending_of_le (hopening.trans hr) hle
    · rintro ⟨⟩
      have hpending := c.pending_flush_force now
      have conserves := c.flush_conserves true now
      rw [hpending, String.append_empty] at conserves
      exact ⟨hpending, conserves⟩
    · rintro force ⟨⟩ hp
      simp [flush, hp]

/-- The first window is counted from the first push, the next from the delivery, and clearing closes it; then
the clock goes back. -/
example :
    let ops : List (Time × Operation) :=
      [(0, .act (.push "a")), (99, .act (.flush false)), (100, .act (.push "b")), (150, .act (.push "c")),
        (199, .act (.flush false)), (200, .act (.flush false)), (210, .clear), (90, .act (.push "d")),
        (189, .act (.push "e")), (190, .act (.push "f"))]
    (({ interval := 100 } : Coalescer).run ops).1.filterMap (·.delivered) = ["ab", "c", "def"] := by
  decide +kernel

end Coalescer

end Hostcall.Pane
