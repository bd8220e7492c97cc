/-!
# UTF-8

Writing text as UTF-8 bytes, and reading arbitrary bytes as text. Reading never fails: each maximal
part of an ill-formed sequence becomes one replacement character. The decoder is a machine that takes
one byte at a time, so decoding a concatenation is decoding the second part from where the first one
left off (`pushAll_append`).
-/

namespace Hostcall.Utf8

/-- The UTF-8 bytes of a text. -/
def encode (text : String) : List UInt8 :=
  text.toList.flatMap String.utf8EncodeChar

/-- The character that stands for bytes which are no text. -/
def replacement : Char := '\uFFFD'

/-- A multi-byte character of which the first bytes have been read: the bits so far, how many bytes
are still to come, and the range in which the next one must lie. -/
structure Sequence where
  bits : Nat
  missing : Nat
  low : UInt8 := 0x80
  high : UInt8 := 0xBF
  deriving Repr, DecidableEq

/-- What a byte means at the start of a character. -/
inductive Lead where
  | char (c : Char)
  | opens (s : Sequence)
  | invalid
  deriving Repr, DecidableEq

/-- Reads a first byte; overlong forms, surrogates and code points above U+10FFFF are excluded by the
range of the second byte. -/
def lead (b : UInt8) : Lead :=
  if b < 0x80 then .char (Char.ofNat b.toNat)
  else if b < 0xC2 then .invalid
  else if b < 0xE0 then .opens { bits := b.toNat % 32, missing := 1 }
  else if b = 0xE0 then .opens { bits := 0, missing := 2, low := 0xA0 }
  else if b = 0xED then .opens { bits := 13, missing := 2, high := 0x9F }
  else if b < 0xF0 then .opens { bits := b.toNat % 16, missing := 2 }
  else if b = 0xF0 then .opens { bits := 0, missing := 3, low := 0x90 }
  else if b < 0xF4 then .opens { bits := b.toNat % 8, missing := 3 }
  else if b = 0xF4 then .opens { bits := 4, missing := 3, high := 0x8F }
  else .invalid

/-- The state of decoding: the characters read so far, latest first, and the character under way. -/
structure Decoder where
  done : List Char := []
  underway : Option Sequence := none
  deriving Repr, DecidableEq

namespace Decoder

/-- Takes a byte that begins a character. -/
def start (d : Decoder) (b : UInt8) : Decoder :=
  match lead b with
  | .char c => { done := c :: d.done, underway := none }
  | .opens s => { done := d.done, underway := some s }
  | .invalid => { done := replacement :: d.done, underway := none }

/-- Takes one byte; one that does not continue the character under way replaces that character and
begins the next. -/
def push (d : Decoder) (b : UInt8) : Decoder :=
  match d.underway with
  | none => d.start b
  | some s =>
    if s.low ≤ b ∧ b ≤ s.high then
      let bits := s.bits * 64 + b.toNat % 64
      if s.missing = 1 then { done := Char.ofNat bits :: d.done, underway := none }
      else { d with underway := some { bits, missing := s.missing - 1 } }
    else start { done := replacement :: d.done, underway := none } b

def pushAll (d : Decoder) (bytes : List UInt8) : Decoder :=
  bytes.foldl push d

/-- The text once no more bytes come: a character still under way is replaced. -/
def finish (d : Decoder) : List Char :=
  match d.underway with
  | none => d.done.reverse
  | some _ => (replacement :: d.done).reverse

/-- Bytes may be taken in two parts. -/
theorem pushAll_append (d : Decoder) (a b : List UInt8) :
    d.pushAll (a ++ b) = (d.pushAll a).pushAll b :=
  List.foldl_append

end Decoder

/-- The text that bytes stand for, with replacements where they stand for none. -/
def decode (bytes : List UInt8) : String :=
  String.ofList (Decoder.pushAll {} bytes).finish

/-- The text that bytes stand for, if they are well-formed. -/
def decode? (bytes : List UInt8) : Option String :=
  let text := decode bytes
  if encode text = bytes then some text else none

/-- The empty text takes no bytes. -/
@[simp] theorem encode_empty : encode "" = [] := rfl

/-- Texts one after the other take their bytes one after the other. -/
theorem encode_append (a b : String) : encode (a ++ b) = encode a ++ encode b := by
  simp [encode]

end Hostcall.Utf8
