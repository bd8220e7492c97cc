import Hostcall.Text.Quoted

/-!
# Open flags, modes and capabilities

A guest asks for a file with a word of flag bits. Exactly three words name a mode; a mode allows either
reading or writing, never both.
-/

namespace Hostcall

/-- A word of open flags as the guest gave it; unknown bits are kept so that they can be refused. -/
structure OpenFlags where
  bits : BitVec 32
  deriving Repr, DecidableEq

/-- What a caller wants to do with a descriptor. -/
inductive Capability where
  | read
  | write
  deriving Repr, DecidableEq

/-- The only three modes in which a descriptor can be open. -/
inductive Mode where
  | read
  | write
  | append
  deriving Repr, DecidableEq

/-- The reference point of a seek. -/
inductive Whence where
  | start
  | current
  | finish
  deriving Repr, DecidableEq

namespace OpenFlags

/-- The word in a guest register. -/
def ofGuest (register : Int) : OpenFlags :=
  ⟨BitVec.ofInt 32 register⟩

/-- The word as a signed register value. -/
def toGuest (f : OpenFlags) : Int :=
  f.bits.toInt

def readOnly : OpenFlags := ⟨0⟩
def writeOnly : OpenFlags := ⟨1⟩
def writeAppend : OpenFlags := ⟨9⟩

/-- Whether the bit for writing is set, whatever the others are. -/
def asksWrite (f : OpenFlags) : Bool :=
  f.bits.getLsbD 0

/-- Whether the bit for appending is set, whatever the others are. -/
def asksAppend (f : OpenFlags) : Bool :=
  f.bits.getLsbD 3

/-- The named bits, in the order in which they are listed. -/
def names : List (String × BitVec 32) :=
  [("O_WRONLY", 0x1), ("O_RDWR", 0x2), ("O_APPEND", 0x8), ("O_CREAT", 0x200), ("O_TRUNC", 0x400),
    ("O_EXCL", 0x800)]

/-- A word in hexadecimal. -/
def hex (w : BitVec 32) : String :=
  "0x" ++ String.ofList (Text.hexDigits w.toNat)

/-- The names of the bits that are set, then the bits without a name. -/
def describe (f : OpenFlags) : String :=
  let known := names.filter fun n => f.bits &&& n.2 = n.2
  let rest := names.foldl (fun w n => w &&& ~~~n.2) f.bits
  let parts := known.map (·.1) ++ if rest = 0 then [] else [hex rest]
  let body := if f.bits = 0 then "0x0" else String.intercalate " | " parts
  "OpenFlags(" ++ body ++ ")"

/-- The mode that a word names, if it names one. -/
def mode? (f : OpenFlags) : Option Mode :=
  if f = readOnly then some .read
  else if f = writeOnly then some .write
  else if f = writeAppend then some .append
  else none

end OpenFlags

namespace Mode

def allows : Mode → Capability → Bool
  | .read, .read => true
  | .write, .write => true
  | .append, .write => true
  | _, _ => false

def flags : Mode → OpenFlags
  | .read => .readOnly
  | .write => .writeOnly
  | .append => .writeAppend

def name : Mode → String
  | .read => "Read"
  | .write => "Write"
  | .append => "WriteAppend"

end Mode

/-- A word names a mode exactly if it is the word of that mode. -/
theorem OpenFlags.mode?_eq_some_iff {f : OpenFlags} {m : Mode} : f.mode? = some m ↔ f = m.flags := by
  constructor
  · intro h
    simp only [mode?] at h
    split at h
    · cases h; assumption
    split at h
    · cases h; assumption
    split at h
    · cases h; assumption
    · cases h
  · rintro rfl
    cases m <;> rfl

def Capability.activity : Capability → String
  | .read => "reading"
  | .write => "writing"

namespace Whence

def ofGuest? (register : Int) : Option Whence :=
  if register = 0 then some .start
  else if register = 1 then some .current
  else if register = 2 then some .finish
  else none

def name : Whence → String
  | .start => "Set"
  | .current => "Cur"
  | .finish => "End"

def toGuest : Whence → Int
  | .start => 0
  | .current => 1
  | .finish => 2

end Whence

end Hostcall
