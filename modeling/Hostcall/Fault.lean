import Hostcall.Access
import Hostcall.Host.Error

/-!
# Faults of file calls

Why a call on a descriptor failed. The guest sees only `-1`; the message is what it can ask for
afterwards.
-/

namespace Hostcall

/-- What a file was opened for, in the words of a message. -/
inductive Direction where
  | input
  | output
  deriving Repr, DecidableEq

/-- The operation during which the host failed. -/
inductive FileAction where
  | read
  | write
  | seek
  deriving Repr, DecidableEq

def Direction.name : Direction → String
  | .input => "input"
  | .output => "output"

/-- The direction that the bit for writing asks for. -/
def OpenFlags.direction (f : OpenFlags) : Direction :=
  if f.asksWrite then .output else .input

def FileAction.name : FileAction → String
  | .read => "read"
  | .write => "write"
  | .seek => "seek"

inductive Fault where
  | alreadyOpen (name : String)
  | unsupportedMode (name : String) (flags : OpenFlags)
  | tableFull (name : String) (limit : Nat)
  | notOpen (fd : Int) (need : Capability)
  | notFound (name : String) (direction : Direction) (cause : HostError)
  | hostFailed (action : FileAction) (fd : Int) (cause : HostError)
  | seekTarget (fd : Int) (target : Int)
  | seekBase (fd : Int) (whence : Int)
  | notSeekable (fd : Int)
  deriving Repr, DecidableEq

namespace Fault

def message : Fault → String
  | alreadyOpen name => s!"File name {name} is already open."
  | unsupportedMode name _ => s!"File name {name} has unknown requested opening flag"
  | tableFull name limit => s!"File name {name} exceeds maximum open file limit of {limit}"
  | notOpen fd need => s!"File descriptor {fd} is not open for {need.activity}"
  | notFound name direction _ => s!"File {name} not found, open for {direction.name}."
  | hostFailed action fd _ => s!"IO Exception on {action.name} of file with fd {fd}"
  | seekTarget fd target => s!"Invalid seek target {target} for fd {fd}"
  | seekBase fd whence => s!"Invalid seek base {whence} for fd {fd}"
  | notSeekable fd => s!"File descriptor {fd} is not seekable"

/-- The failure of the host behind a fault. -/
def cause? : Fault → Option HostError
  | notFound _ _ cause => some cause
  | hostFailed _ _ cause => some cause
  | _ => none

end Fault

end Hostcall
