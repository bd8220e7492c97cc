import Hostcall.Console.Outlet
import Hostcall.Log
import Hostcall.Text.Quoted

/-!
# Standard channels

The three standard channels of one machine: an input and two outlets. Output and error never mix, and
input cannot be written.
-/

namespace Hostcall

/-- One of the three standard channels. -/
inductive StdChannel where
  | input
  | output
  | error
  deriving Repr, DecidableEq

namespace StdChannel

/-- The descriptor reserved for a channel. -/
def fd : StdChannel → Int
  | .input => 0
  | .output => 1
  | .error => 2

def name : StdChannel → String
  | .input => "Input"
  | .output => "Output"
  | .error => "Error"

end StdChannel

namespace Console

/-- Whether the channels are those of the process or lie in memory. -/
inductive Origin where
  | process
  | memory
  deriving Repr, DecidableEq

def Origin.name : Origin → String
  | .process => "process"
  | .memory => "memory"

@[ext]
structure Channels where
  origin : Origin
  input : Input
  output : Outlet
  error : Outlet
  deriving Repr, DecidableEq

namespace Channels

/-- Channels in memory: an input text and two empty sinks. -/
def memory (input : List UInt8) : Channels where
  origin := .memory
  input := { supply := .bytes input }
  output := { sink := .roomy [] }
  error := { sink := .roomy [] }

/-- The channels of the process. -/
def process (supply : Supply) (output : Sink) : Channels where
  origin := .process
  input := { supply }
  output := { sink := output }
  error := { sink := .roomy [] }

/-- The outlet of a channel; input has none. -/
def outlet? (c : Channels) : StdChannel → Option Outlet
  | .input => none
  | .output => some c.output
  | .error => some c.error

def setOutlet (c : Channels) (channel : StdChannel) (o : Outlet) : Channels :=
  match channel with
  | .input => c
  | .output => { c with output := o }
  | .error => { c with error := o }

/-- Reads at most `count` bytes of input. -/
def read (c : Channels) (count : Nat) : Except HostError (List UInt8) × Channels :=
  let (outcome, input) := c.input.read count
  (outcome, { c with input })

/-- Reads a line of input without its end; no line at the end of the input. -/
def readLine (c : Channels) : Except HostError (Option String) × Channels :=
  let (outcome, input) := c.input.readLine
  (outcome.map fun line => if line = [] then none else some (Line.text line), { c with input })

/-- Writes bytes to a channel and flushes it. -/
def write (c : Channels) (channel : StdChannel) (bytes : List UInt8) :
    Except HostError Unit × Channels :=
  match c.outlet? channel with
  | none => (.error .inputNotWritable, c)
  | some o =>
    let (outcome, o) := o.writeThrough bytes
    (outcome, c.setOutlet channel o)

/-- Hands bytes to the writer of a channel without flushing it. -/
def hold (c : Channels) (channel : StdChannel) (bytes : List UInt8) :
    Except HostError Unit × Channels :=
  match c.outlet? channel with
  | none => (.error .inputNotWritable, c)
  | some o =>
    let (outcome, o) := o.write bytes
    (outcome, c.setOutlet channel o)

/-- What is said about a writer that could not be flushed when it was dropped. -/
def resetWarnings (channel : StdChannel) : Except HostError Unit → List LogEntry
  | .ok () => []
  | .error cause =>
    [⟨.warn, .channels, s!"ignoring flush failure on {channel.name}: {cause.message}"⟩]

/-- Flushes and drops both writers; the reader stays. -/
def reset (c : Channels) : List LogEntry × Channels :=
  let (first, output) := c.output.reset
  let (second, error) := c.error.reset
  (resetWarnings .output first ++ resetWarnings .error second, { c with output, error })

/-- Empties what a channel's sink has received. -/
def clearSink (c : Channels) (channel : StdChannel) : Channels :=
  match c.outlet? channel with
  | none => c
  | some o => c.setOutlet channel { o with sink := .roomy [] }

/-- The channels at a glance: which of the reader and the writers have been made. -/
def describe (c : Channels) : String :=
  let flag (b : Bool) : String := if b then "true" else "false"
  "StdChannels \x7b source: " ++ Text.quote c.origin.name ++
    ", input_reader: " ++ flag c.input.block.isSome ++
    ", output_writer: " ++ flag c.output.pending.isSome ++
    ", error_writer: " ++ flag c.error.pending.isSome ++ " \x7d"

end Channels

end Console

end Hostcall
