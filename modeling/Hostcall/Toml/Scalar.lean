import Hostcall.Numeral.Binary
import Hostcall.Text.Reader
import Hostcall.Toml.Value

/-!
# TOML scalars

Strings in their four forms, integers in four bases, numbers with fractions, truth values, and moments
in time.
-/

namespace Hostcall.Toml

open Text (Reader)

/-- Whether a character may stand in a comment or in literal text. -/
def isTextChar (c : Char) : Bool :=
  c = '\t' || (' ' ≤ c && c ≠ '\x7f')

def isSpace (c : Char) : Bool := c = ' ' || c = '\t'

/-- The end of a line. -/
def newline : Reader Unit := fun
  | '\n' :: cs => some ((), cs)
  | '\r' :: '\n' :: cs => some ((), cs)
  | _ => none

def spaces : Reader Unit := (fun _ => ()) <$> Reader.run isSpace

def comment : Reader Unit := do
  Reader.char '#'
  let _ ← Reader.run isTextChar

/-- The value of a hexadecimal digit. -/
def hexDigit? (c : Char) : Option Nat :=
  if '0' ≤ c ∧ c ≤ '9' then some (c.toNat - '0'.toNat)
  else if 'a' ≤ c ∧ c ≤ 'f' then some (c.toNat - 'a'.toNat + 10)
  else if 'A' ≤ c ∧ c ≤ 'F' then some (c.toNat - 'A'.toNat + 10)
  else none

/-- The character of a code point in hexadecimal. -/
def codePoint? (digits : List Char) : Option Char := do
  let n ← digits.foldlM (fun n c => (hexDigit? c).map (n * 16 + ·)) 0
  if h : n.isValidChar then some (Char.ofNatAux n h) else none

/-- What follows a backslash in a basic string. -/
def escape : Reader Char := fun
  | 'b' :: cs => some ('\x08', cs)
  | 't' :: cs => some ('\t', cs)
  | 'n' :: cs => some ('\n', cs)
  | 'f' :: cs => some ('\x0c', cs)
  | 'r' :: cs => some ('\r', cs)
  | '"' :: cs => some ('"', cs)
  | '\\' :: cs => some ('\\', cs)
  | 'u' :: cs => (codePoint? (cs.take 4)).bind fun c =>
      if cs.length < 4 then none else some (c, cs.drop 4)
  | 'U' :: cs => (codePoint? (cs.take 8)).bind fun c =>
      if cs.length < 8 then none else some (c, cs.drop 8)
  | _ => none

/-- One character of a basic string on one line. -/
def basicChar : Reader Char :=
  (do Reader.char '\\'; escape) <|> Reader.satisfy fun c => isTextChar c && c ≠ '"' && c ≠ '\\'

def literalChar : Reader Char :=
  Reader.satisfy fun c => isTextChar c && c ≠ '\''

/-- A string on one line. -/
def lineString : Reader String := fun
  | '"' :: cs => (do
      let content ← Reader.many basicChar
      Reader.char '"'
      return String.ofList content) cs
  | '\'' :: cs => (do
      let content ← Reader.many literalChar
      Reader.char '\''
      return String.ofList content) cs
  | _ => none

/-- A line break that a backslash takes out, together with all blanks after it. -/
def foldedBreak : Reader (List Char) := do
  Reader.char '\\'
  spaces
  newline
  let _ ← Reader.many (newline <|> (fun _ => ()) <$> Reader.run1 isSpace)
  return []

/-- Up to two quotes that do not end a string of several lines. -/
def innerQuotes (quote : Char) : Reader (List Char) := fun cs =>
  let quotes := cs.takeWhile (· = quote)
  let rest := cs.dropWhile (· = quote)
  if quotes.length = 0 then none
  else if quotes.length < 3 then some (quotes, rest)
  else if quotes.length = 4 ∨ quotes.length = 5 then
    some (List.replicate (quotes.length - 3) quote, List.replicate 3 quote ++ rest)
  else none

/-- A piece of a basic string of several lines. -/
def longBasicPiece : Reader (List Char) :=
  foldedBreak
    <|> (fun c => [c]) <$> basicChar
    <|> (fun _ => ['\n']) <$> newline
    <|> innerQuotes '"'

/-- A piece of a literal string of several lines. -/
def longLiteralPiece : Reader (List Char) :=
  (fun c => [c]) <$> literalChar
    <|> (fun _ => ['\n']) <$> newline
    <|> innerQuotes '\''

/-- A string of several lines between three quotes; a line break right after them does not count. -/
def longString : Reader String := do
  let quote ← (do Reader.literal "\"\"\""; pure '"') <|> (do Reader.literal "'''"; pure '\'')
  let _ ← (newline <|> pure ())
  let pieces ← Reader.many (if quote = '"' then longBasicPiece else longLiteralPiece)
  Reader.literal (String.ofList (List.replicate 3 quote))
  return String.ofList pieces.flatten

/-- Digits with single underscores between them. -/
def digitRun (p : Char → Bool) : Reader (List Char) := do
  let first ← Reader.satisfy p
  let others ← Reader.many (Reader.satisfy p <|> (do Reader.char '_'; Reader.satisfy p))
  return first :: others

def isDecimal (c : Char) : Bool := '0' ≤ c && c ≤ '9'

/-- The number of digits in a base. -/
def ofDigits (base : Nat) (digits : List Char) : Nat :=
  digits.foldl (fun n c => n * base + (hexDigit? c).getD 0) 0

/-- Lets an integer of 64 bits through. -/
def inRange (n : Int) : Reader Value :=
  if Numeral.IntegerRange.long.contains n then pure (.integer n) else failure

/-- An integer in another base than ten. -/
def basedInteger : Reader Value := do
  let base ← (do Reader.literal "0x"; pure 16) <|> (do Reader.literal "0o"; pure 8)
    <|> (do Reader.literal "0b"; pure 2)
  let digits ← digitRun fun c => (hexDigit? c).any (· < base)
  inRange (ofDigits base digits)

def sign : Reader Bool :=
  (do Reader.char '-'; pure true) <|> (do Reader.char '+'; pure false) <|> pure false

/-- Digits that do not begin with a needless zero. -/
def wholeDigits : Reader (List Char) := do
  let digits ← digitRun isDecimal
  if digits.head? = some '0' ∧ digits.length ≠ 1 then failure else pure digits

/-- The digits after a point, or none. -/
def pointDigits : Reader (List Char) :=
  (do Reader.char '.'; digitRun isDecimal) <|> pure []

/-- The sign and digits after the letter of an exponent. -/
def exponentText : Reader (List Char) := do
  let _ ← Reader.satisfy fun c => c = 'e' || c = 'E'
  let negative ← sign
  let digits ← digitRun isDecimal
  return (if negative then ['-'] else []) ++ digits

/-- A number in base ten, with or without a fraction. -/
def decimalNumber : Reader Value := do
  let negative ← sign
  let whole ← wholeDigits
  let point ← pointDigits
  let exponent ← exponentText <|> pure []
  if point = [] ∧ exponent = [] then
    let n : Int := ofDigits 10 whole
    inRange (if negative then -n else n)
  else
    let text := (if negative then ['-'] else []) ++ whole ++ ['.'] ++ point ++
      (if exponent = [] then [] else 'e' :: exponent)
    match Numeral.readBinary .double (String.ofList text) with
    | .error _ => failure
    | .ok bits => if bits = Numeral.BinaryFormat.double.infinity then failure else pure (.float bits)

/-- The names of infinity and of no number. -/
def namedNumber : Reader Value := do
  let negative ← sign
  let bits ← (do Reader.literal "inf"; pure Numeral.BinaryFormat.double.infinity)
    <|> (do Reader.literal "nan"; pure Numeral.BinaryFormat.double.quietNan)
  return .float (Numeral.BinaryFormat.double.withSign negative bits)

/-- A number of exactly so many digits within bounds. -/
def fixedDigits (width least greatest : Nat) : Reader Nat := fun cs =>
  let digits := cs.take width
  let n := ofDigits 10 digits
  if digits.length = width ∧ digits.all isDecimal ∧ least ≤ n ∧ n ≤ greatest then
    some (n, cs.drop width)
  else none

def daysInMonth (year month : Nat) : Nat :=
  if month = 2 then
    if year % 4 = 0 ∧ (year % 100 ≠ 0 ∨ year % 400 = 0) then 29 else 28
  else if month = 4 ∨ month = 6 ∨ month = 9 ∨ month = 11 then 30 else 31

def date : Reader Unit := do
  let year ← fixedDigits 4 0 9999
  Reader.char '-'
  let month ← fixedDigits 2 1 12
  Reader.char '-'
  let _ ← fixedDigits 2 1 (daysInMonth year month)

def timeOfDay : Reader Unit := do
  let _ ← fixedDigits 2 0 23
  Reader.char ':'
  let _ ← fixedDigits 2 0 59
  Reader.char ':'
  let _ ← fixedDigits 2 0 60
  (do Reader.char '.'; let _ ← Reader.run1 isDecimal) <|> pure ()

def zoneOffset : Reader Unit :=
  (fun _ => ()) <$> Reader.satisfy (fun c => c = 'Z' || c = 'z')
    <|> do
      let _ ← Reader.satisfy fun c => c = '+' || c = '-'
      let _ ← fixedDigits 2 0 23
      Reader.char ':'
      let _ ← fixedDigits 2 0 59

/-- A date, a time of day, or both with or without an offset. -/
def moment : Reader Value := do
  let before ← Reader.rest
  (do
    date
    (do
      let _ ← Reader.satisfy fun c => c = 'T' || c = 't' || c = ' '
      timeOfDay
      (zoneOffset <|> pure ())) <|> pure ()) <|> timeOfDay
  let after ← Reader.rest
  return .moment (String.ofList (before.take (before.length - after.length)))

def boolean : Reader Value :=
  (do Reader.literal "true"; pure (.boolean true))
    <|> (do Reader.literal "false"; pure (.boolean false))

/-- A value that holds no other values. -/
def scalar : Reader Value :=
  Value.text <$> longString <|> Value.text <$> lineString <|> boolean <|> moment <|> basedInteger
    <|> decimalNumber <|> namedNumber

end Hostcall.Toml
