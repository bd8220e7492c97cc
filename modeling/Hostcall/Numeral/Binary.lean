import Hostcall.Numeral.Decimal

/-!
# Binary fractions from decimal text

Reading a decimal fraction straight into a binary floating point format: the exact quotient is rounded
once, to nearest with ties to even, in integer arithmetic.
-/

namespace Hostcall.Numeral

/-- A binary interchange format, by the width of its two fields. -/
structure BinaryFormat where
  exponentBits : Nat
  fractionBits : Nat
  deriving Repr, DecidableEq

namespace BinaryFormat

def single : BinaryFormat := ⟨8, 23⟩

def double : BinaryFormat := ⟨11, 52⟩

/-- The exponent of the unit in the last place of the smallest numbers. -/
def leastExponent (f : BinaryFormat) : Int :=
  2 - Nat.pow 2 (f.exponentBits - 1) - f.fractionBits

/-- The bits of infinity without its sign. -/
def infinity (f : BinaryFormat) : Nat :=
  (Nat.pow 2 f.exponentBits - 1) * Nat.pow 2 f.fractionBits

/-- The bits of a quiet NaN. -/
def quietNan (f : BinaryFormat) : Nat :=
  f.infinity + Nat.pow 2 (f.fractionBits - 1)

/-- Sets the sign bit. -/
def withSign (f : BinaryFormat) (negative : Bool) (bits : Nat) : Nat :=
  if negative then Nat.pow 2 (f.exponentBits + f.fractionBits) + bits else bits

/-- The bits without the sign bit. -/
def magnitude (f : BinaryFormat) (bits : Nat) : Nat :=
  bits % Nat.pow 2 (f.exponentBits + f.fractionBits)

end BinaryFormat

/-- The quotient rounded to the nearest integer, a half to the even one. -/
def roundQuotient (num den : Nat) : Nat :=
  let q := num / den
  let twice := 2 * (num % den)
  if twice < den then q
  else if den < twice then q + 1
  else if q % 2 = 0 then q else q + 1

/-- The bits of `num / den` rounded to the format. The significand is taken in units of `2 ^ e`, with `e`
chosen so that it fills the fraction field, or the least exponent for the smallest numbers; a
significand that rounds up to the next power of two carries into the exponent field by itself. -/
def BinaryFormat.ofQuotient (f : BinaryFormat) (num den : Nat) : Nat :=
  if num = 0 then 0
  else
    let guess : Int := (Nat.log2 num : Int) - Nat.log2 den - f.fractionBits
    let scaled (e : Int) : Nat × Nat :=
      if 0 ≤ e then (num, den * Nat.pow 2 e.toNat) else (num * Nat.pow 2 (-e).toNat, den)
    let fits (e : Int) : Bool := Nat.pow 2 f.fractionBits ≤ (scaled e).1 / (scaled e).2
    let e := max f.leastExponent (if fits guess then guess else guess - 1)
    let significand := roundQuotient (scaled e).1 (scaled e).2
    let bits := (e - f.leastExponent).toNat * Nat.pow 2 f.fractionBits + significand
    min bits f.infinity

/-- A decimal fraction `digits * 10 ^ exponent` in the format. Values far outside the formats' ranges are
settled by bounds on their decimal logarithm, without writing the power out. -/
def BinaryFormat.ofDecimal (f : BinaryFormat) (digits : Nat) (exponent : Int) : Nat :=
  let size : Int := Nat.log2 digits
  if digits = 0 then 0
  else if 400 < size * 3 / 10 + exponent then f.infinity
  else if (size + 1) * 4 / 10 + exponent < -400 then 0
  else if 0 ≤ exponent then f.ofQuotient (digits * Nat.pow 10 exponent.toNat) 1
  else f.ofQuotient digits (Nat.pow 10 (-exponent).toNat)

/-- Why a text is no number. -/
inductive FractionError where
  | empty
  | invalid
  deriving Repr, DecidableEq

def FractionError.message : FractionError → String
  | .empty => "cannot parse float from empty string"
  | .invalid => "invalid float literal"

/-- A number as it is written: not yet in any format. -/
inductive Fraction where
  | infinity
  | nan
  | finite (digits : Nat) (exponent : Int)
  deriving Repr, DecidableEq

/-- How many digits of a number are kept. The midpoints between neighbours of either format have fewer
significant digits, so of the others only whether they are all zero can change how a number is rounded. -/
def keptDigits : Nat := 800

/-- Digits that have been read, of which the leading ones are kept. -/
structure Digits where
  /-- The value of the kept digits, and how many there are after the leading zeros. -/
  value : Nat := 0
  kept : Nat := 0
  /-- How many digits came after the kept ones, and whether any of them is not zero. -/
  dropped : Nat := 0
  inexact : Bool := false
  /-- How many digits were read in all. -/
  count : Nat := 0
  deriving Repr, DecidableEq

namespace Digits

def push (ds : Digits) (d : Nat) : Digits :=
  if ds.kept < keptDigits then
    let value := ds.value * 10 + d
    { ds with value, kept := if value = 0 then 0 else ds.kept + 1, count := ds.count + 1 }
  else
    { ds with
      dropped := ds.dropped + 1, inexact := ds.inexact || d ≠ 0, count := ds.count + 1 }

/-- The number that the digits times a power of ten are, as far as rounding goes: non-zero digits that were
dropped are replaced by a single one. -/
def scaled (ds : Digits) (exponent : Int) : Fraction :=
  if ds.inexact then .finite (ds.value * 10 + 1) (exponent + ds.dropped - 1)
  else .finite ds.value (exponent + ds.dropped)

end Digits

/-- Reads the digits at the front, and what follows. -/
def takeDigits (ds : Digits) : List Char → Digits × List Char
  | [] => (ds, [])
  | c :: cs =>
    match digit? c with
    | some d => takeDigits (ds.push d) cs
    | none => (ds, c :: cs)

/-- Exponents from here on take no more digits. -/
def exponentLimit : Nat := 65536

/-- The magnitude of an exponent in digits; beyond the limit further digits change nothing. -/
def exponentOf (value : Nat) : List Char → Option Nat
  | [] => some value
  | c :: cs =>
    match digit? c with
    | none => none
    | some d => exponentOf (if value < exponentLimit then value * 10 + d else value) cs

/-- Reads the exponent after its letter. -/
def readExponent (cs : List Char) : Option Int :=
  let (negative, cs) := match cs with
    | '-' :: cs => (true, cs)
    | '+' :: cs => (false, cs)
    | cs => (false, cs)
  if cs = [] then none
  else (exponentOf 0 cs).map fun value => if negative then -value else value

/-- Reads digits with an optional point and exponent; a digit must stand beside the point. -/
def readFinite (cs : List Char) : Option Fraction :=
  let (whole, rest) := takeDigits {} cs
  let (digits, rest) := match rest with
    | '.' :: rest => takeDigits whole rest
    | rest => (whole, rest)
  let places := digits.count - whole.count
  if digits.count = 0 then none
  else match rest with
    | [] => some (digits.scaled (-places))
    | c :: rest =>
      if c = 'e' ∨ c = 'E' then (readExponent rest).map fun e => digits.scaled (e - places)
      else none

/-- Reads a number without its sign. -/
def readUnsigned (cs : List Char) : Option Fraction :=
  let name := String.ofList (cs.map Char.toLower)
  if name = "inf" ∨ name = "infinity" then some .infinity
  else if name = "nan" then some .nan
  else readFinite cs

/-- The bits of a number in the format. -/
def BinaryFormat.bitsOf (f : BinaryFormat) : Fraction → Nat
  | .infinity => f.infinity
  | .nan => f.quietNan
  | .finite digits exponent => f.ofDecimal digits exponent

/-- Whether bits stand for no number. -/
def BinaryFormat.isNan (f : BinaryFormat) (bits : Nat) : Bool :=
  f.infinity < f.magnitude bits

/-- Reads a number into the bits of a format. -/
def readBinary (f : BinaryFormat) (text : String) : Except FractionError Nat :=
  match text.toList with
  | [] => .error .empty
  | c :: cs =>
    let (negative, body) :=
      if c = '-' then (true, cs) else if c = '+' then (false, cs) else (false, c :: cs)
    match readUnsigned body with
    | none => .error .invalid
    | some x => .ok (f.withSign negative (f.bitsOf x))

end Hostcall.Numeral
