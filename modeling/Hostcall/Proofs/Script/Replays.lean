import Hostcall.Proofs.Machine.Rewiring
import Hostcall.Proofs.Machine.Twins
import Hostcall.Proofs.World.Outputs
import Hostcall.Script.Replay

/-!
# What replaying shows

An operation makes at most one call (`execute_call`), so that what a call does to the outputs is what the
operation does. While no front end is attached, the sink of the standard output receives the texts that a
script prints or writes to it, in their order (`Ready.replay`). The standard input is asked for the demands of
the operations and for nothing else (`input_replay`). So a replay depends on its reader through the answers to
these demands, and not at all on where the channels lie (`replay_rewired`).
-/

namespace Hostcall.Script

open Console (Demand Wiring)

/-- The call that an operation makes; none where it is refused before. -/
def Op.call? : Op → Option Call
  | .openFile path flags => some (.openFile path (.ofGuest flags))
  | .write fd text => some (.writeTo fd (Utf8.encode text))
  | .read fd len => if longestRead < len then none else some (.readFrom fd (List.replicate len 0))
  | .seek fd offset whence => some (.seek fd offset whence)
  | .close fd => some (.closeFile fd)
  | .print text => some (.print text)
  | .readChar => some (.readChar charService)
  | .readString maxLen => some (.readString stringService maxLen)
  | .readInt => some (.readInteger integerService)
  | .reset => some .resetFiles

/-- The bytes that an operation has for the standard output. -/
def Op.shown : Op → List UInt8
  | .print text => Utf8.encode text
  | .write fd text => if fd = StdChannel.output.fd then Utf8.encode text else []
  | _ => []

/-- What an operation asks the standard input for. -/
def Op.demands : Op → List Demand
  | .read fd len => if fd = StdChannel.input.fd ∧ len ≤ longestRead then [.bytes len] else []
  | .readChar => [.bytes 1]
  | .readString _ | .readInt => [.line]
  | _ => []

/-- An operation leaves what its call leaves. -/
lemma execute_call (w : World) (op : Op) :
    (execute w.machine op).2 =
      match op.call? with
      | none => w.machine
      | some c => (w.call c).2.machine := by
  cases op with
  | read fd len =>
    simp only [execute, Op.call?]
    split
    · rfl
    · dsimp only
      split <;> rfl
  | readChar | readString | readInt =>
    simp only [execute]
    split <;> rfl
  | openFile | write | seek | close | print | reset => rfl

/-! ## Output -/

/-- The table is in order, no front end is attached, and the sink of the standard output has received
`given`. -/
structure Ready (given : List UInt8) (m : Machine) : Prop where
  bound : m.state.table.Bound
  detached : m.attached? = none
  output : ∃ o, m.outlet? .output = some o ∧ o.Settled given

variable {m : Machine} {given : List UInt8}

/-- No guest exchanges states. -/
lemma exchanges_of_byGuest {c : Call} (h : c.byGuest = true) : c.exchanges = false := by
  cases c <;> first | rfl | cases h

/-- A call that a guest makes brings to the standard output what it has for it. -/
lemma Ready.call {w : World} (h : Ready given w.machine) {c : Call} (hc : c.byGuest = true) :
    Ready (given ++ c.bytesFor .output) (w.call c).2.machine where
  bound := h.bound.change (World.change_call (exchanges_of_byGuest hc))
  detached := World.detached_call h.detached hc
  output := by
    obtain ⟨o, ho, settled⟩ := h.output
    obtain ⟨p, hp, e⟩ := World.emits_call h.bound (exchanges_of_byGuest hc) ho
    rw [World.emitted, if_pos h.detached] at e
    exact ⟨p, hp, settled.emits e⟩

/-- What an operation shows is what its call has for the standard output. -/
lemma shown_eq (op : Op) :
    (∀ c, op.call? = some c → c.byGuest = true ∧ c.bytesFor .output = op.shown) ∧
      (op.call? = none → op.shown = []) := by
  cases op with
  | read fd len =>
    simp only [Op.call?]
    split
    · exact ⟨nofun, fun _ => rfl⟩
    · refine ⟨?_, nofun⟩
      rintro _ ⟨⟩
      exact ⟨rfl, rfl⟩
  | _ =>
    refine ⟨?_, nofun⟩
    rintro _ ⟨⟩
    exact ⟨rfl, rfl⟩

/-- An operation brings to the standard output what it shows. -/
lemma Ready.execute (h : Ready given m) (op : Op) : Ready (given ++ op.shown) (execute m op).2 := by
  obtain ⟨hsome, hnone⟩ := shown_eq op
  rw [execute_call { machine := m } op]
  cases hc : op.call? with
  | none =>
    rw [hnone hc, List.append_nil]
    exact h
  | some c =>
    obtain ⟨hguest, hbytes⟩ := hsome c hc
    rw [← hbytes]
    exact Ready.call (w := { machine := m }) h hguest

/-- A replay brings to the standard output what its operations show, in their order. -/
lemma Ready.replay (h : Ready given m) (ops : List Op) :
    Ready (given ++ ops.flatMap Op.shown) (replay m ops).2 := by
  induction ops generalizing m given with
  | nil => simpa [Script.replay] using h
  | cons op ops ih =>
    have next := ih (h.execute op)
    simpa [Script.replay, List.append_assoc] using next

/-! ## Input -/

/-- An operation comes out in the same way over other channels whose reader gives the same answers to its
demands. -/
lemma execute_rewired (h : Ready given m) {w : Wiring} {op : Op}
    (hw : w.input.answers op.demands = m.state.channels.input.answers op.demands) :
    execute (m.rewired w) op = Prod.map id (Machine.rewired (w.asked op.demands)) (execute m op) := by
  have ha := h.detached
  cases op with
  | openFile path flags =>
    simp only [execute, Machine.openFile_rewired]
    rfl
  | write fd text =>
    simp only [execute, Machine.writeTo_rewired ha]
    rfl
  | read fd len =>
    by_cases hlong : longestRead < len
    · simp only [execute, Op.demands, if_pos hlong, Nat.not_le.mpr hlong, and_false, if_false]
      rfl
    · have hlen : (List.replicate len (0 : UInt8)).length = len := List.length_replicate
      by_cases hfd : fd = StdChannel.input.fd
      -- Only a read of the standard input asks the reader.
      · subst hfd
        simp only [Op.demands, Nat.not_lt.mp hlong, and_self, if_true] at hw ⊢
        rw [← hlen] at hw
        simp only [execute, if_neg hlong, Machine.readFrom_input_rewired h.bound ha hw, hlen, Prod.map, id]
        split <;> rfl
      · simp only [execute, Op.demands, if_neg hlong, hfd, false_and, if_false,
          Machine.readFrom_rewired h.bound hfd, Prod.map, id]
        split <;> rfl
  | seek fd offset whence =>
    simp only [execute, Machine.seek_rewired]
    rfl
  | close fd =>
    simp only [execute, Machine.closeFile_rewired]
    rfl
  | print text =>
    simp only [execute, Machine.print_rewired ha]
    rfl
  | readChar =>
    simp only [execute, Machine.readChar_rewired ha hw, Prod.map, id]
    split <;> rfl
  | readString maxLen =>
    simp only [execute, Machine.readString_rewired ha hw, Prod.map, id]
    split <;> rfl
  | readInt =>
    simp only [execute, Machine.readInteger, Machine.readValue_rewired ha hw, Prod.map, id]
    split <;> rfl
  | reset =>
    simp only [execute, Machine.resetFiles_rewired ha]
    rfl

/-- An operation asks the standard input for its demands, and for nothing else. -/
lemma input_execute (h : Ready given m) (op : Op) :
    (execute m op).2.state.channels.input = m.state.channels.input.left op.demands := by
  let w : Wiring := ⟨m.state.channels.origin, [], m.state.channels.input⟩
  have hself : execute (m.rewired w) op = _ := execute_rewired h rfl
  rw [m.rewired_self] at hself
  exact congrArg (fun result => result.2.state.channels.input) hself

/-- A replay takes the same steps over other channels, with the same news, if the reader gives the same answers
to the demands of its operations. -/
lemma replay_rewired (h : Ready given m) {w : Wiring} {ops : List Op}
    (hw : w.input.answers (ops.flatMap Op.demands) =
      m.state.channels.input.answers (ops.flatMap Op.demands)) :
    replay (m.rewired w) ops =
      Prod.map id (Machine.rewired (w.asked (ops.flatMap Op.demands))) (replay m ops) := by
  induction ops generalizing m given w with
  | nil => rfl
  | cons op ops ih =>
    rw [List.flatMap_cons, Console.Input.answers_append, Console.Input.answers_append] at hw
    obtain ⟨hnow, hlater⟩ := List.append_inj hw (by simp only [Console.Input.length_answers])
    -- The first operation leaves both readers with what they have still to give.
    rw [← input_execute h op] at hlater
    have hnext := ih (w := w.asked op.demands) (h.execute op) hlater
    have hnews (n : Machine) : News.between (m.rewired w) (n.rewired (w.asked op.demands)) = .between m n := rfl
    simp only [replay, execute_rewired h hnow, Prod.map, id, hnews, hnext, List.flatMap_cons,
      Wiring.asked_append]
    rfl

/-- A replay asks the standard input for the demands of its operations, in their order. -/
lemma input_replay (h : Ready given m) (ops : List Op) :
    (replay m ops).2.state.channels.input = m.state.channels.input.left (ops.flatMap Op.demands) := by
  let w : Wiring := ⟨m.state.channels.origin, [], m.state.channels.input⟩
  have hself : replay (m.rewired w) ops = _ := replay_rewired h rfl
  rw [m.rewired_self] at hself
  exact congrArg (fun result => result.2.state.channels.input) hself

/-- There is one step for each operation, in order. -/
lemma ops_replay (m : Machine) (ops : List Op) : (replay m ops).1.map (·.op) = ops := by
  induction ops generalizing m with
  | nil => rfl
  | cons op ops ih => exact congrArg (op :: ·) (ih _)

end Hostcall.Script
