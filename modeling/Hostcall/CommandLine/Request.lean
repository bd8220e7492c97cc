/-!
# Requests

What the arguments of the program ask for. Options may stand before and after the script; two dashes end
them. Every option is given at most once and with a value that is not empty, attached to it or in the
next argument.
-/

namespace Hostcall.CommandLine

/-- A script to replay, and the files that settings and standard input come from. -/
structure RunRequest where
  script : String
  config : Option String := none
  input : Option String := none
  deriving Repr, DecidableEq

/-- What can be explained. -/
inductive Topic where
  | program
  | run
  | help
  deriving Repr, DecidableEq

inductive Request where
  | run (r : RunRequest)
  | help (topic : Topic)
  | version
  deriving Repr, DecidableEq

/-- The things that a run may be given. -/
inductive Slot where
  | script
  | config
  | input
  deriving Repr, DecidableEq

/-- A run request with what has been read of it. -/
structure Draft where
  script : Option String := none
  config : Option String := none
  input : Option String := none
  deriving Repr, DecidableEq

namespace Draft

def get? (d : Draft) : Slot → Option String
  | .script => d.script
  | .config => d.config
  | .input => d.input

/-- Puts a value into a slot, which must be free; no value is empty. -/
def put (d : Draft) (slot : Slot) (value : String) : Option Draft :=
  if value = "" ∨ (d.get? slot).isSome then none
  else match slot with
    | .script => some { d with script := some value }
    | .config => some { d with config := some value }
    | .input => some { d with input := some value }

/-- The request of a draft, which must have a script. -/
def finish (d : Draft) : Option RunRequest :=
  d.script.map fun script => ⟨script, d.config, d.input⟩

end Draft

/-- What a single argument stands for. -/
inductive Argument where
  /-- A value for a slot. -/
  | value (slot : Slot) (text : String)
  /-- An option whose value is in the next argument. -/
  | option (slot : Slot)
  | help
  /-- Ends the options. -/
  | dashes
  | unknown
  deriving Repr, DecidableEq

/-- The name of an option in full, and the value attached to it. -/
def splitLong (cs : List Char) : String × Option String :=
  let name := String.ofList (cs.takeWhile (· ≠ '='))
  match cs.dropWhile (· ≠ '=') with
  | [] => (name, none)
  | _ :: value => (name, some (String.ofList value))

/-- The reading of an option: with its value, or with none yet. -/
def Argument.ofOption (slot : Slot) : Option String → Argument
  | none => .option slot
  | some text => .value slot text

def Argument.ofString (arg : String) : Argument :=
  match arg.toList with
  | ['-', '-'] => .dashes
  | '-' :: '-' :: cs =>
    match splitLong cs with
    | ("config", attached) => .ofOption .config attached
    | ("stdin-file", attached) => .ofOption .input attached
    | ("help", none) => .help
    | _ => .unknown
  | '-' :: 'c' :: [] => .option .config
  | '-' :: 'c' :: '=' :: cs => .value .config (String.ofList cs)
  | '-' :: 'c' :: cs => .value .config (String.ofList cs)
  | '-' :: 'h' :: _ => .help
  | ['-'] => .value .script arg
  | '-' :: _ => .unknown
  | _ => .value .script arg

/-- The arguments behind two dashes; all of them are scripts. -/
def readOperands (d : Draft) (args : List String) : Option Draft :=
  args.foldlM (·.put .script ·) d

/-- The arguments of a run. -/
def readRun (d : Draft) : List String → Option Request
  | [] => .run <$> d.finish
  | arg :: args =>
    match Argument.ofString arg with
    | .value slot text => do readRun (← d.put slot text) args
    | .option slot =>
      match args with
      | [] => none
      | next :: rest =>
        match Argument.ofString next with
        | .value .script text => do readRun (← d.put slot text) rest
        | _ => none
    | .help => some (.help .run)
    | .dashes => do
      let d ← readOperands d args
      return .run (← d.finish)
    | .unknown => none

/-- The topic that the words behind `help` name. -/
def readTopic : List String → Option Topic
  | [] => some .program
  | ["run"] => some .run
  | ["help"] => some .help
  | _ => none

/-- The request that arguments make; nothing where they make none. -/
def Request.parse : List String → Option Request
  | [] => none
  | "run" :: args => readRun {} args
  | "help" :: topic => .help <$> readTopic topic
  | "--help" :: _ => some (.help .program)
  | "--version" :: _ => some .version
  | arg :: _ =>
    match arg.toList with
    | '-' :: 'h' :: _ => some (.help .program)
    | '-' :: 'V' :: _ => some .version
    | _ => none

end Hostcall.CommandLine
