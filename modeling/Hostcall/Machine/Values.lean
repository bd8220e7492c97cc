import Hostcall.Machine.Files
import Hostcall.Numeral.Binary
import Hostcall.Text.Blank

/-!
# Values from input

Characters, strings and numbers read from whichever source is in force. Numbers are read from a whole
line with the blanks around it cut off; a line that is no number is told apart from a cancelled prompt.
-/

namespace Hostcall

/-- The code for the end of input. -/
def endOfInput : Int := -1

/-- The code for a byte that is no printable character. -/
def notPrintable : Int := -2

/-- The code of a byte: itself for a tab, a newline and printable ASCII. -/
def charCode : Option UInt8 → Int
  | none => endOfInput
  | some b => if b = 9 ∨ b = 10 ∨ (32 ≤ b ∧ b ≤ 126) then b.toNat else notPrintable

/-- Why a number could not be read. -/
inductive ReadValueError where
  | cancelled (c : Cancelled)
  | parse (input message : String)
  deriving Repr, DecidableEq

def ReadValueError.message : ReadValueError → String
  | .cancelled c => c.message
  | .parse input message => s!"cannot parse {Text.quote input}: {message}"

/-- The first characters of a line, without one newline at its end; no limit below zero leaves any. -/
def cutLineTo (limit : Int) (line : String) : String :=
  let cs := line.toList
  let cs := if cs.getLast? = some '\n' then cs.dropLast else cs
  String.ofList (cs.take limit.toNat)

namespace Machine

/-- Reads one character for a service of the guest. -/
def readChar (m : Machine) (service : Nat) : Except Cancelled Int × Machine :=
  let (outcome, m) := m.obtainByte s!"Enter a character value (syscall {service})"
  (outcome.map charCode, m)

/-- Reads a line and cuts it to a number of characters. -/
def readString (m : Machine) (service : Nat) (limit : Int) : Except Cancelled String × Machine :=
  let (outcome, m) :=
    m.obtainLine "" s!"Enter a string of maximum length {limit} (syscall {service})" limit
  (outcome.map (cutLineTo limit), m)

/-- Reads a line and makes a value of it. -/
def readValue {α ε : Type} (m : Machine) (what : String) (service : Nat)
    (parse : String → Except ε α) (message : ε → String) : Except ReadValueError α × Machine :=
  let (outcome, m) := m.obtainLine "0" s!"Enter {what} (syscall {service})" (-1)
  match outcome with
  | .error c => (.error (.cancelled c), m)
  | .ok line =>
    let text := Text.trim line
    match parse text with
    | .error e => (.error (.parse text (message e)), m)
    | .ok value => (.ok value, m)

def readInteger (m : Machine) (service : Nat) : Except ReadValueError Int × Machine :=
  m.readValue "an integer value" service (Numeral.readInteger .word) (·.message)

def readLong (m : Machine) (service : Nat) : Except ReadValueError Int × Machine :=
  m.readValue "an integer value" service (Numeral.readInteger .long) (·.message)

/-- Reads the bits of a number in single precision. -/
def readSingle (m : Machine) (service : Nat) : Except ReadValueError Nat × Machine :=
  m.readValue "a float value" service (Numeral.readBinary .single) (·.message)

/-- Reads the bits of a number in double precision. -/
def readDouble (m : Machine) (service : Nat) : Except ReadValueError Nat × Machine :=
  m.readValue "a Double value" service (Numeral.readBinary .double) (·.message)

end Machine

end Hostcall
