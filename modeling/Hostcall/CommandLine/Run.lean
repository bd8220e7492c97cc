import Hostcall.CommandLine.Help
import Hostcall.Log.Filter
import Hostcall.Script.Replay
import Hostcall.Settings.File

/-!
# Runs of the program

A run as a function: from the arguments, the host's files, the standard streams and the environment to
the exit status, what has been written, and the files afterwards. Standard error takes, for each operation
in turn, what the guest wrote there, what was logged, and a line that says how the operation came out.
-/

namespace Hostcall.CommandLine

open Console (Channels Supply Sink)

/-- What a run finds. -/
structure Surroundings where
  disk : Disk
  input : Supply := .bytes []
  output : Sink := .roomy []
  environment : Environment := []
  /-- Log directives that go before those of the settings. -/
  directives : Option String := none
  deriving Repr, DecidableEq

/-- What a run leaves behind. -/
structure Ending where
  status : Nat
  output : Sink
  error : String
  disk : Disk
  deriving Repr, DecidableEq

/-- Why a run ends early. -/
inductive RunError where
  | settings (e : SettingsError)
  | script (e : Script.LoadError)
  | input (path : String)
  | output (cause : HostError)
  deriving Repr, DecidableEq

/-- What was being done, and why it failed in the end, if that is not all there is to say. -/
def RunError.account : RunError → List String
  | .settings e => e.contexts ++ [e.reason]
  | .script e => [e.context, e.reason]
  | .input path => ["reading " ++ path, "the file cannot be read"]
  | .output cause => [cause.message]

/-- The causes of an error, each on a line of its own; several are numbered. -/
def causeLines : List String → List String
  | [] => []
  | [cause] => ["", "Caused by:", "    " ++ cause]
  | causes => "" :: "Caused by:" ::
    (causes.zipIdx.map fun (cause, i) => s!"    {i}: {cause}")

/-- An error as it is shown. -/
def RunError.report (e : RunError) : String :=
  let lines := match e.account with
    | [] => []
    | message :: causes => ("Error: " ++ message) :: causeLines causes
  String.join (lines.map (· ++ "\n"))

/-- The ending of a run that failed after it had written an error text. -/
def Surroundings.fail (s : Surroundings) (error : String) (e : RunError) : Ending :=
  ⟨1, s.output, error ++ e.report, s.disk⟩

/-- What standard error takes of what came out between two machines. Of what the guest wrote it takes only
what was written to the process itself. -/
def newsReport (f : LogFilter) (source : Console.Origin) (news : Script.News) : String :=
  let written := match source with
    | .process => Utf8.decode news.errors
    | .memory => ""
  written ++ f.render news.log

/-- What standard error takes for one operation. -/
def stepReport (f : LogFilter) (source : Console.Origin) (index : Nat) (s : Script.Step) : String :=
  let finished : LogEntry :=
    ⟨.debug, .driver, s!"op {index} finished: " ++ s.outcome.describe⟩
  newsReport f source s.news ++ f.render [finished] ++
    s!"[{index}] " ++ s.op.describe ++ " => " ++ s.outcome.describe ++ "\n"

/-- What standard error takes for operations in order. -/
def report (f : LogFilter) (source : Console.Origin) (steps : List Script.Step) : String :=
  String.join (steps.zipIdx.map fun (s, index) => stepReport f source index s)

/-- The settings of a run. -/
def RunRequest.settings (r : RunRequest) (d : Disk) : Except RunError Settings :=
  match r.config with
  | none => .ok {}
  | some path => (Settings.load d path).mapError .settings

/-- The operations of a run. -/
def RunRequest.ops (r : RunRequest) (d : Disk) : Except RunError (List Script.Op) :=
  (Script.load d r.script).mapError .script

/-- The channels of a run: in memory over an input file, otherwise those of the process. -/
def RunRequest.channels (r : RunRequest) (s : Surroundings) : Except RunError Channels :=
  match r.input with
  | none => .ok (.process s.input s.output)
  | some path =>
    match s.disk.contentAt path with
    | .error _ => .error (.input path)
    | .ok bytes => .ok (.memory bytes)

/-- The filter for the log of a run, and the warnings about its directives. -/
def Surroundings.filter (s : Surroundings) (settings : Settings) : LogFilter × String :=
  let base := LogFilter.ofSettings (settings.log.getD {})
  match s.directives with
  | none => (base, "")
  | some list =>
    let (f, warnings) := base.extend list
    (f, String.join (warnings.map (· ++ "\n")))

/-- Replays operations and ends. What was captured in memory is written last. -/
def replay (s : Surroundings) (f : LogFilter) (settings : Settings) (channels : Channels)
    (ops : List Script.Op) (error : String) : Ending :=
  let first := Machine.start settings s.disk (.ofChannels channels) (.ofEnvironment s.environment)
  let (steps, last) := Script.replay first ops
  let final := last.resetFiles
  let error := error ++ report f channels.origin steps ++
    newsReport f channels.origin (.between last final)
  let channels := final.state.channels
  match channels.origin with
  | .process => ⟨0, channels.output.sink, error, final.disk⟩
  | .memory =>
    match s.output.put channels.output.sink.received with
    | .error cause => { s with disk := final.disk }.fail error (.output cause)
    | .ok output => ⟨0, output, error ++ Utf8.decode channels.error.sink.received, final.disk⟩

/-- Does what a run request asks for. -/
def RunRequest.perform (r : RunRequest) (s : Surroundings) : Ending :=
  match r.settings s.disk with
  | .error e => s.fail "" e
  | .ok settings =>
    let (f, warnings) := s.filter settings
    match r.ops s.disk with
    | .error e => s.fail warnings e
    | .ok ops =>
      let opening : LogEntry :=
        ⟨.info, .driver, s!"replaying {ops.length} ops from {r.script}"⟩
      let error := warnings ++ f.render [opening]
      match r.channels s with
      | .error e => s.fail error e
      | .ok channels => replay s f settings channels ops error

/-- Writes a text and ends well; that the output cannot take it is passed over. -/
def Surroundings.say (s : Surroundings) (text : String) : Ending :=
  match s.output.put (Utf8.encode text) with
  | .ok output => ⟨0, output, "", s.disk⟩
  | .error _ => ⟨0, s.output, "", s.disk⟩

/-- Runs the program. -/
def run (s : Surroundings) (args : List String) : Ending :=
  match Request.parse args with
  | none => ⟨2, s.output, usageText, s.disk⟩
  | some (.help topic) => s.say topic.text
  | some .version => s.say versionText
  | some (.run r) => r.perform s

/-- The files that a request names. -/
def RunRequest.files (r : RunRequest) : List String :=
  r.script :: r.config.toList ++ r.input.toList

/-- The files that a request leads to: those that it names, and those that its script opens. -/
def RunRequest.reach (r : RunRequest) (d : Disk) : List String :=
  match r.settings d, r.ops d with
  | .ok settings, .ok ops => r.files ++ ops.filterMap fun
    | .openFile path _ => some (settings.resolve path)
    | _ => none
  | _, _ => r.files

end Hostcall.CommandLine
