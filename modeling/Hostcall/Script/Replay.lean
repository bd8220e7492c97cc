import Hostcall.Host.OpenFile
import Hostcall.Machine.Session
import Hostcall.Machine.Values
import Hostcall.Script.Op
import Hostcall.Yaml.Document

/-!
# Replaying scripts

A script is a list of operations. Replaying makes the call that each of them names and says how it came
out.
-/

namespace Hostcall.Script

/-- The longest buffer that a script may read into. -/
def longestRead : Nat := callBufferSize * 1024

/-- The operations in a text. -/
def parse (text : String) : Option (List Op) := do
  (← Yaml.items? text).mapM Op.ofDatum?

/-- Why a script could not be had. -/
inductive LoadError where
  | unreadable (path : String)
  | malformed (path : String)
  deriving Repr, DecidableEq

/-- What was being done. -/
def LoadError.context : LoadError → String
  | unreadable path => "reading script " ++ path
  | malformed path => "parsing script " ++ path

/-- Why it failed. -/
def LoadError.reason : LoadError → String
  | unreadable _ => "the file cannot be read as text"
  | malformed _ => "the document holds no operations"

/-- The operations in a file. -/
def load (d : Disk) (path : String) : Except LoadError (List Op) :=
  match (d.contentAt path).toOption.bind Utf8.decode? with
  | none => .error (.unreadable path)
  | some text =>
    match parse text with
    | none => .error (.malformed path)
    | some ops => .ok ops

/-- How an operation came out. -/
inductive Outcome where
  | code (n : Int)
  | bytes (n : Int) (content : List UInt8)
  | text (s : String)
  | done
  | cancelled
  | failed (message : String)
  deriving Repr, DecidableEq

def Outcome.describe : Outcome → String
  | code n => toString n
  | bytes n content => toString n ++ " " ++ Text.quote (Utf8.decode content)
  | text s => Text.quote s
  | done => "ok"
  | cancelled => "cancelled"
  | failed message => "error: " ++ message

/-- The service numbers that scripts read by. -/
def charService : Nat := 12
def stringService : Nat := 8
def integerService : Nat := 5

/-- Makes the call of an operation. -/
def execute (m : Machine) : Op → Outcome × Machine
  | .openFile path flags =>
    let (n, m) := m.openFile path (.ofGuest flags)
    (.code n, m)
  | .write fd text =>
    let (n, m) := m.writeTo fd (Utf8.encode text)
    (.code n, m)
  | .read fd len =>
    if longestRead < len then (.failed s!"read length {len} exceeds {longestRead}", m)
    else
      let (r, m) := m.readFrom fd (List.replicate len 0)
      match r.result with
      | .ok n => (.bytes n (r.buffer.take n.toNat), m)
      | .error _ => (.cancelled, m)
  | .seek fd offset whence =>
    let (n, m) := m.seek fd offset whence
    (.code n, m)
  | .close fd => (.done, m.closeFile fd)
  | .print text => (.done, m.print text)
  | .readChar =>
    let (r, m) := m.readChar charService
    match r with
    | .ok n => (.code n, m)
    | .error _ => (.cancelled, m)
  | .readString maxLen =>
    let (r, m) := m.readString stringService maxLen
    match r with
    | .ok s => (.text s, m)
    | .error _ => (.cancelled, m)
  | .readInt =>
    let (r, m) := m.readInteger integerService
    match r with
    | .ok n => (.code n, m)
    | .error e => (.failed e.message, m)
  | .reset => (.done, m.resetFiles)

/-- What came out beside the answer of an operation. -/
structure News where
  log : List LogEntry
  /-- What newly arrived at the standard error. -/
  errors : List UInt8
  deriving Repr, DecidableEq

/-- What was logged and written between two machines. -/
def News.between (before after : Machine) : News where
  log := after.journal.drop before.journal.length
  errors := after.state.channels.error.sink.arrivedSince before.state.channels.error.sink

/-- One step of a replay: the operation, how it came out, and the text of the last error after it. -/
structure Step where
  op : Op
  outcome : Outcome
  lastError : String
  news : News
  deriving Repr, DecidableEq

/-- Replays operations in order. -/
def replay (m : Machine) : List Op → List Step × Machine
  | [] => ([], m)
  | op :: ops =>
    let (outcome, after) := execute m op
    let step : Step := ⟨op, outcome, after.lastError, .between m after⟩
    let (steps, last) := replay after ops
    (step :: steps, last)

end Hostcall.Script
