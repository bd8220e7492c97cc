/-!
# Decimal integers

Reading an optionally signed run of ASCII digits into a bounded range of integers. Characters are
taken from left to right and the first offence decides: a character that is no digit is reported
before the overflow which a digit in its place would cause.
-/

namespace Hostcall.Numeral

/-- Why a text is no integer of the range. -/
inductive IntegerError where
  | empty
  | invalidDigit
  | tooLarge
  | tooSmall
  deriving Repr, DecidableEq

def IntegerError.message : IntegerError → String
  | .empty => "cannot parse integer from empty string"
  | .invalidDigit => "invalid digit found in string"
  | .tooLarge => "number too large to fit in target type"
  | .tooSmall => "number too small to fit in target type"

/-- The value of an ASCII digit. -/
def digit? (c : Char) : Option Nat :=
  if '0' ≤ c ∧ c ≤ '9' then some (c.toNat - '0'.toNat) else none

/-- A range of integers. -/
structure IntegerRange where
  least : Int
  greatest : Int
  deriving Repr, DecidableEq

/-- Whether an integer lies in a range. -/
def IntegerRange.contains (r : IntegerRange) (n : Int) : Bool :=
  r.least ≤ n && n ≤ r.greatest

/-- The integers of 32 bits. -/
def IntegerRange.word : IntegerRange := ⟨-0x80000000, 0x7FFFFFFF⟩

/-- The integers of 64 bits. -/
def IntegerRange.long : IntegerRange := ⟨-0x8000000000000000, 0x7FFFFFFFFFFFFFFF⟩

/-- Appends digits to a value that is zero or more. -/
def growUp (r : IntegerRange) (value : Int) : List Char → Except IntegerError Int
  | [] => .ok value
  | c :: cs =>
    match digit? c with
    | none => .error .invalidDigit
    | some d =>
      if value * 10 + d ≤ r.greatest then growUp r (value * 10 + d) cs else .error .tooLarge

/-- Appends digits to a value that is zero or less. -/
def growDown (r : IntegerRange) (value : Int) : List Char → Except IntegerError Int
  | [] => .ok value
  | c :: cs =>
    match digit? c with
    | none => .error .invalidDigit
    | some d =>
      if r.least ≤ value * 10 - d then growDown r (value * 10 - d) cs else .error .tooSmall

/-- Reads an integer of the range; a sign needs a digit after it. -/
def readIntegerChars (r : IntegerRange) : List Char → Except IntegerError Int
  | [] => .error .empty
  | ['+'] => .error .invalidDigit
  | ['-'] => .error .invalidDigit
  | '+' :: cs => growUp r 0 cs
  | '-' :: cs => growDown r 0 cs
  | cs => growUp r 0 cs

def readInteger (r : IntegerRange) (text : String) : Except IntegerError Int :=
  readIntegerChars r text.toList

end Hostcall.Numeral
