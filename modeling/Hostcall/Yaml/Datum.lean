import Hostcall.Numeral.Binary

/-!
# Plain data

The values that a structured document can hold, and the type that an unquoted scalar takes from its
spelling.
-/

namespace Hostcall.Yaml

inductive Datum where
  | null
  | boolean (b : Bool)
  | natural (n : Nat)
  /-- An integer with a minus sign. -/
  | negative (n : Nat)
  /-- A number that is written as no integer, by its bits in double precision. -/
  | fraction (bits : Nat)
  | text (s : String)
  /-- A scalar that is no value, since its tag does not fit it or its number is too long. -/
  | refused (written : String)
  | sequence (items : List Datum)
  | mapping (entries : List (Datum × Datum))
  deriving Repr, Inhabited

namespace Datum

/-- The integer of a datum. -/
def integer? : Datum → Option Int
  | .natural n => some n
  | .negative n => some (-n)
  | _ => none

mutual

/-- Whether a datum is a value, and everything in it. -/
def isValue : Datum → Bool
  | .refused _ => false
  | .sequence items => areValues items
  | .mapping entries => areEntries entries
  | _ => true

def areValues : List Datum → Bool
  | [] => true
  | d :: ds => d.isValue && areValues ds

def areEntries : List (Datum × Datum) → Bool
  | [] => true
  | (k, v) :: es => k.isValue && v.isValue && areEntries es

end

end Datum

namespace Plain

open Numeral

/-- The value of a digit in a base. -/
def digitIn? (base : Nat) (c : Char) : Option Nat :=
  let n :=
    if '0' ≤ c ∧ c ≤ '9' then some (c.toNat - '0'.toNat)
    else if 'a' ≤ c ∧ c ≤ 'f' then some (c.toNat - 'a'.toNat + 10)
    else if 'A' ≤ c ∧ c ≤ 'F' then some (c.toNat - 'A'.toNat + 10)
    else none
  n.filter (· < base)

/-- The value of a non-empty run of digits, as long as it does not exceed a bound. -/
def natural? (bound base : Nat) (digits : List Char) : Option Nat :=
  if digits = [] then none
  else digits.foldlM (fun n c =>
    ((digitIn? base c).map (n * base + ·)).filter (· ≤ bound)) 0

/-- Whether a text is digits with a needless zero in front, which makes it no number. -/
def isPadded (cs : List Char) : Bool :=
  let digits := match cs with
    | '-' :: cs => cs
    | '+' :: cs => cs
    | cs => cs
  match digits with
  | '0' :: c :: cs => (c :: cs).all (digit? · |>.isSome)
  | _ => false

/-- Digits after the mark of their base, or in base ten without a mark. -/
def magnitude? (bound : Nat) : List Char → Option Nat
  | '0' :: 'x' :: cs => natural? bound 16 cs
  | '0' :: 'o' :: cs => natural? bound 8 cs
  | '0' :: 'b' :: cs => natural? bound 2 cs
  | cs => natural? bound 10 cs

/-- The greatest integer that a document can hold, and the magnitude of the least. -/
def greatestNatural : Nat := 0xFFFFFFFFFFFFFFFF
def greatestNegative : Nat := 0x8000000000000000

/-- The same for integers that are taken for integers, although the longer of them are no values. -/
def longestNatural : Nat := 0xFFFFFFFFFFFFFFFFFFFFFFFFFFFFFFFF
def longestNegative : Nat := 0x80000000000000000000000000000000

/-- An integer with an optional sign. -/
def integer? (cs : List Char) : Option Datum :=
  let word := String.ofList cs
  let natural (n : Nat) : Datum := if n ≤ greatestNatural then .natural n else .refused word
  let negative (n : Nat) : Datum := if n ≤ greatestNegative then .negative n else .refused word
  if isPadded cs then none
  else match cs with
    | '-' :: cs => (magnitude? longestNegative cs).map negative
    | '+' :: cs => (magnitude? longestNatural cs).map natural
    | cs => (magnitude? longestNatural cs).map natural

/-- A number that is no integer: one of the names of infinity and of no number, or a finite number. -/
def fraction? (cs : List Char) : Option Nat :=
  let f := BinaryFormat.double
  let word := String.ofList cs
  if word ∈ [".inf", ".Inf", ".INF", "+.inf", "+.Inf", "+.INF"] then some f.infinity
  else if word ∈ ["-.inf", "-.Inf", "-.INF"] then some (f.withSign true f.infinity)
  else if word ∈ [".nan", ".NaN", ".NAN"] then some f.quietNan
  else match readBinary f word with
    | .error _ => none
    | .ok bits => if f.infinity ≤ f.magnitude bits then none else some bits

def isNull (word : String) : Bool := word ∈ ["~", "null", "Null", "NULL"]

def boolean? (word : String) : Option Bool :=
  if word ∈ ["true", "True", "TRUE"] then some true
  else if word ∈ ["false", "False", "FALSE"] then some false
  else none

/-- The datum that an unquoted scalar without a tag stands for. -/
def resolve (word : String) : Datum :=
  let cs := word.toList
  if word = "" ∨ isNull word then .null
  else match boolean? word, integer? cs with
    | some b, _ => .boolean b
    | none, some d => d
    | none, none =>
      match if isPadded cs then none else fraction? cs with
      | some bits => .fraction bits
      | none => .text word

end Plain

end Hostcall.Yaml
