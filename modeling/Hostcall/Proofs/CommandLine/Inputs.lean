import Hostcall.CommandLine.Run
import Hostcall.Proofs.Console.Nesting
import Hostcall.Proofs.Script.Replays

/-!
# Two ways of giving input to a script

A script may be given its input in a file, over channels in memory, or by the process, whose channels differ
only in where they lie. Both ways take the same steps and leave the same files, and what was captured in
memory is written to the standard output in the end (`inputs_agree`). What is below the reader of the process
makes no difference as long as the answers are the same (`replay_rewired`).
-/

namespace Hostcall.CommandLine

open Console (Channels Sink Origin Input Nested Wiring)

/-! ## Channels -/

/-- Channels of the process, with any reader, are channels in memory that are wired otherwise. -/
lemma process_eq_rewired (bytes taken : List UInt8) (input : Input) :
    { Channels.process (.bytes bytes) (.roomy taken) with input } =
      (Channels.memory bytes).rewired ⟨.process, taken.reverse, input⟩ := by
  simp [Channels.process, Channels.memory, Channels.rewired, Console.Outlet.after, Sink.after]

/-- A machine over channels in memory is ready. -/
lemma ready_start (settings : Settings) (disk : Disk) (bytes : List UInt8) (traces : TraceSet) :
    Script.Ready [] (Machine.start settings disk (.ofChannels (.memory bytes)) traces) where
  bound := Table.bound_initial
  detached := rfl
  output := ⟨_, rfl, ⟨[], rfl⟩, rfl, rfl⟩

/-! ## Replays -/

section

variable (s : Surroundings) (f : LogFilter) (settings : Settings) (bytes : List UInt8)
  (ops : List Script.Op) (error : String)

/-- The steps of a replay over channels in memory, and the machine before the last reset. -/
def replayed : List Script.Step × Machine :=
  Script.replay (.start settings s.disk (.ofChannels (.memory bytes)) (.ofEnvironment s.environment)) ops

/-- The machine in the end. -/
def final : Machine :=
  (replayed s settings bytes ops).2.resetFiles

/-- What standard error takes of a replay before anything that was captured. -/
def account (origin : Origin) : String :=
  error ++ report f origin (replayed s settings bytes ops).1 ++
    newsReport f origin (.between (replayed s settings bytes ops).2 (final s settings bytes ops))

/-- Over other channels whose reader gives the same answers to what is asked for, a replay takes the steps that
it takes over channels in memory. -/
lemma replay_rewired {w : Wiring}
    (hw : w.input.answers (ops.flatMap (·.demands)) =
      Input.answers { supply := .bytes bytes } (ops.flatMap (·.demands))) :
    replay s f settings ((Channels.memory bytes).rewired w) ops error =
      let sink := (final s settings bytes ops).state.channels.output.sink.after w.earlier
      match w.origin with
      | .process => ⟨0, sink, account s f settings bytes ops error .process, (final s settings bytes ops).disk⟩
      | .memory =>
        match s.output.put sink.received with
        | .error cause =>
          { s with disk := (final s settings bytes ops).disk }.fail
            (account s f settings bytes ops error .memory) (.output cause)
        | .ok output =>
          ⟨0, output,
            account s f settings bytes ops error .memory ++
              Utf8.decode (final s settings bytes ops).state.channels.error.sink.received,
            (final s settings bytes ops).disk⟩ := by
  have ready := ready_start settings s.disk bytes (.ofEnvironment s.environment)
  have hstart (traces : TraceSet) :
      Machine.start settings s.disk (.ofChannels ((Channels.memory bytes).rewired w)) traces =
        (Machine.start settings s.disk (.ofChannels (.memory bytes)) traces).rewired w := rfl
  simp only [replay, hstart, Script.replay_rewired ready hw, Prod.map,
    Machine.resetFiles_rewired (ready.replay ops).detached]
  obtain ⟨origin, earlier, input⟩ := w
  cases origin <;> rfl

/-- In the end the sink of the channels in memory has received what the operations show. -/
lemma sink_final :
    (final s settings bytes ops).state.channels.output.sink = .roomy (ops.flatMap (·.shown)).reverse := by
  have ready := (ready_start settings s.disk bytes (.ofEnvironment s.environment)).replay ops
  obtain ⟨o, ho, settled⟩ :=
    (Script.Ready.call (w := { machine := (replayed s settings bytes ops).2 }) (c := .resetFiles)
      ready rfl).output
  cases ho
  obtain ⟨taken, hsink⟩ := settled.room
  have hreceived := settled.received
  rw [hsink] at hreceived
  have htaken : taken.reverse = ops.flatMap (·.shown) := by
    simpa [Sink.received, Call.bytesFor] using hreceived
  rw [← htaken, List.reverse_reverse]
  exact hsink

/-- Where the standard output has room, a replay over channels in memory ends with everything in it. -/
lemma replay_memory {taken : List UInt8} (houtput : s.output = .roomy taken) :
    replay s f settings (.memory bytes) ops error =
      ⟨0, .roomy ((ops.flatMap (·.shown)).reverse ++ taken),
        account s f settings bytes ops error .memory ++
          Utf8.decode (final s settings bytes ops).state.channels.error.sink.received,
        (final s settings bytes ops).disk⟩ := by
  have h := replay_rewired s f settings bytes ops error (w := ⟨.memory, [], { supply := .bytes bytes }⟩) rfl
  simpa [Channels.rewired, Console.Outlet.after, Channels.memory, sink_final, Sink.after, Sink.received,
    Sink.put, houtput] using h

/-- A replay over channels of the process ends in the same way, as far as standard error goes by where they
lie, whatever their reader is that gives the same answers. -/
lemma replay_process (taken : List UInt8) {input : Input}
    (hinput : input.answers (ops.flatMap (·.demands)) =
      Input.answers { supply := .bytes bytes } (ops.flatMap (·.demands))) :
    replay s f settings { Channels.process (.bytes bytes) (.roomy taken) with input } ops error =
      ⟨0, .roomy ((ops.flatMap (·.shown)).reverse ++ taken), account s f settings bytes ops error .process,
        (final s settings bytes ops).disk⟩ := by
  rw [process_eq_rewired, replay_rewired s f settings bytes ops error hinput, sink_final]
  simp only [Sink.after, List.reverse_reverse]

end

/-- A run that has its settings, its operations and its channels replays the operations. -/
lemma perform_eq {r : RunRequest} {s : Surroundings} {settings : Settings} {ops : List Script.Op}
    {channels : Channels} (hsettings : r.settings s.disk = .ok settings) (hops : r.ops s.disk = .ok ops)
    (hchannels : r.channels s = .ok channels) :
    let opening : LogEntry := ⟨.info, .driver, s!"replaying {ops.length} ops from {r.script}"⟩
    r.perform s =
      replay s (s.filter settings).1 settings channels ops
        ((s.filter settings).2 ++ (s.filter settings).1.render [opening]) := by
  simp only [RunRequest.perform, hsettings, hops, hchannels]

/-- The two ways of giving input to a script agree. Where a file holds what the process would read from its
standard input, and the process has room for its output, a run that is given the file and a run that reads
its standard input take the same steps, one for each operation in order, with the same outcomes, and leave
the same files. Both end well, and both times the standard output has received exactly what the script prints
and writes to it, in order. Both ask their reader for the same. Whatever that is, the reader that the process
has below that of its channels makes no difference to the answers; and a reader that gives these answers makes
no difference to the steps and to how the run ends. -/
theorem inputs_agree (r : RunRequest) (s : Surroundings) {path : String} {bytes taken : List UInt8}
    {settings : Settings} {ops : List Script.Op} (hsettings : r.settings s.disk = .ok settings)
    (hops : r.ops s.disk = .ok ops) (hfile : s.disk.contentAt path = .ok bytes)
    (hinput : s.input = .bytes bytes) (houtput : s.output = .roomy taken) :
    let f := (s.filter settings).1
    let start (channels : Channels) : Machine :=
      .start settings s.disk (.ofChannels channels) (.ofEnvironment s.environment)
    let steps := (Script.replay (start (.memory bytes)) ops).1
    let demands := ops.flatMap (·.demands)
    let named := { r with input := some path }.perform s
    let piped := { r with input := none }.perform s
    steps.map (·.op) = ops ∧
    (Script.replay (start (.process s.input s.output)) ops).1 = steps ∧
    (∃ before rest rest', named.error = before ++ report f .memory steps ++ rest ∧
      piped.error = before ++ report f .process steps ++ rest') ∧
    (named.status = 0 ∧ piped.status = 0) ∧
    named.disk = piped.disk ∧
    named.output.received = s.output.received ++ ops.flatMap (·.shown) ∧
    piped.output.received = s.output.received ++ ops.flatMap (·.shown) ∧
    (∀ channels ∈ [.memory bytes, .process s.input s.output],
      (Script.replay (start channels) ops).2.state.channels.input =
        Input.left { supply := .bytes bytes } demands) ∧
    (∀ demands, Nested.answers ⟨{ supply := s.input }, none⟩ demands =
      Input.answers { supply := .bytes bytes } demands) ∧
    ∀ input : Input, input.answers demands = Nested.answers ⟨{ supply := s.input }, none⟩ demands →
      let channels : Channels := { Channels.process s.input s.output with input }
      (Script.replay (start channels) ops).1 = steps ∧
      ∀ error, replay s f settings channels ops error =
        replay s f settings (.process s.input s.output) ops error := by
  intro f start steps demands named piped
  have hnamed : named = _ :=
    (perform_eq (r := { r with input := some path }) hsettings hops
      (by simp only [RunRequest.channels, hfile])).trans (replay_memory s f settings bytes ops _ houtput)
  have hpiped : piped = _ :=
    (perform_eq (r := { r with input := none }) hsettings hops
      (by simp only [RunRequest.channels, hinput, houtput]; rfl)).trans
      (replay_process s f settings bytes ops _ taken rfl)
  have ready := ready_start settings s.disk bytes (.ofEnvironment s.environment)
  have hreplay {input : Input} (h : input.answers demands = Input.answers { supply := .bytes bytes } demands) :
      Script.replay (start { Channels.process s.input s.output with input }) ops =
        Prod.map id (Machine.rewired (Wiring.asked ⟨.process, taken.reverse, input⟩ demands))
          (Script.replay (start (.memory bytes)) ops) := by
    rw [hinput, houtput, process_eq_rewired]
    exact Script.replay_rewired ready h
  have hpipe : Script.replay (start (.process s.input s.output)) ops = _ :=
    hreplay (congrArg (fun supply => Input.answers { supply } demands) hinput)
  have hflat (demands) : Nested.answers ⟨{ supply := s.input }, none⟩ demands =
      Input.answers { supply := .bytes bytes } demands := by
    rw [hinput]
    exact Nested.answers_flat rfl demands
  have hleft := Script.input_replay ready ops
  refine ⟨Script.ops_replay _ _, ?_, ?_, ?_, ?_, ?_, ?_, ?_, hflat, ?_⟩
  · exact (congrArg Prod.fst hpipe).trans rfl
  · let last := final s settings bytes ops
    let news (origin : Origin) : String :=
      newsReport f origin (.between (replayed s settings bytes ops).2 last)
    refine ⟨(s.filter settings).2 ++ f.render [⟨.info, .driver, s!"replaying {ops.length} ops from {r.script}"⟩],
      news .memory ++ Utf8.decode last.state.channels.error.sink.received, news .process, ?_, ?_⟩
    · rw [hnamed]
      simp only [account, String.append_assoc]
      rfl
    · rw [hpiped]
      simp only [account, String.append_assoc]
      rfl
  · rw [hnamed, hpiped]
    exact ⟨rfl, rfl⟩
  · rw [hnamed, hpiped]
  · rw [hnamed, houtput]
    simp [Sink.received]
  · rw [hpiped, houtput]
    simp [Sink.received]
  · intro channels hmem
    obtain rfl | rfl := List.mem_pair.mp hmem
    · exact hleft
    · rw [hpipe]
      exact congrArg (fun supply => Input.left { supply } demands) hinput
  · intro input hanswers channels
    have hsame := hanswers.trans (hflat demands)
    refine ⟨(congrArg Prod.fst (hreplay hsame)).trans rfl, ?_⟩
    intro error
    simp only [channels, hinput, houtput]
    rw [replay_process s f settings bytes ops error taken hsame]
    exact (replay_process s f settings bytes ops error taken rfl).symm

/-- A script that prints, reads a number and writes shows the same, whether the number is in a file or is
piped in. -/
theorem inputs_agree_number :
    let add (d : Disk) (name text : String) : Disk :=
      (d.addFile ["home", name]).1.setBody (d.addFile ["home", name]).2 (Utf8.encode text)
    let disk := add (add (.ofHome ["home"]) "script" "- [print, n]\n- [read_int]\n- [write, 1, k]\n") "typed" "7\n"
    let s : Surroundings := { disk, input := .bytes (Utf8.encode "7\n") }
    let r : RunRequest := { script := "script" }
    let ops : List Script.Op := [.print "n", .readInt, .write 1 "k"]
    let named := { r with input := some "typed" }.perform s
    let piped := { r with input := none }.perform s
    r.settings s.disk = .ok {} ∧ r.ops s.disk = .ok ops ∧
      s.disk.contentAt "typed" = .ok (Utf8.encode "7\n") ∧
      (named.status = 0 ∧ piped.status = 0) ∧ named.disk = piped.disk ∧
      named.output.received = Utf8.encode "nk" ∧ piped.output.received = Utf8.encode "nk" := by
  intro add disk s r ops named piped
  have hops : r.ops s.disk = .ok ops := by decide +kernel
  have hfile : s.disk.contentAt "typed" = .ok (Utf8.encode "7\n") := by decide +kernel
  obtain ⟨-, -, -, hstatus, hdisk, hnamed, hpiped, -⟩ :=
    inputs_agree r s rfl hops hfile rfl rfl
  exact ⟨rfl, hops, hfile, hstatus, hdisk, hnamed.trans (by decide +kernel),
    hpiped.trans (by decide +kernel)⟩

end Hostcall.CommandLine
