import Hostcall.Yaml.Scalar.Fold

/-!
# Quoted scalars

Scalars between single or double quotes. Between single quotes only the quote itself is written in a
special way, twice; between double quotes a backslash begins an escape.
-/

namespace Hostcall.Yaml

/-- The character of an escape that is one letter long. -/
def shortEscape? : Char → Option Char
  | '0' => some '\x00'
  | 'a' => some '\x07'
  | 'b' => some '\x08'
  | 't' => some '\t'
  | '\t' => some '\t'
  | 'n' => some '\n'
  | 'v' => some '\x0b'
  | 'f' => some '\x0c'
  | 'r' => some '\r'
  | 'e' => some '\x1b'
  | ' ' => some ' '
  | '"' => some '"'
  | '/' => some '/'
  | '\\' => some '\\'
  | 'N' => some '\u0085'
  | '_' => some '\u00a0'
  | 'L' => some '\u2028'
  | 'P' => some '\u2029'
  | _ => none

/-- The number of digits after the letter of an escape by code point. -/
def codeWidth? : Char → Option Nat
  | 'x' => some 2
  | 'u' => some 4
  | 'U' => some 8
  | _ => none

/-- The value of a hexadecimal digit. -/
def hexValue? (c : Char) : Option Nat :=
  if '0' ≤ c ∧ c ≤ '9' then some (c.toNat - '0'.toNat)
  else if 'a' ≤ c ∧ c ≤ 'f' then some (c.toNat - 'a'.toNat + 10)
  else if 'A' ≤ c ∧ c ≤ 'F' then some (c.toNat - 'A'.toNat + 10)
  else none

/-- The character of a code point in so many hexadecimal digits. -/
def codeChar? (width : Nat) (digits : List Char) : Option Char := do
  if digits.length < width then failure
  let n ← digits.foldlM (fun n c => (hexValue? c).map (n * 16 + ·)) 0
  if h : n.isValidChar then some (Char.ofNatAux n h) else none

/-- Reads a scalar after its opening double quote; `skip` counts the digits of an escape that was already
taken. -/
def readDoubleQuoted (chars : List Char) (fold : Fold) (skip : Nat) (p : Place) :
    List Char → Option ScalarEnd
  | [] => none
  | c :: cs =>
    if 0 < skip then readDoubleQuoted chars fold (skip - 1) (p.after c) cs
    else if atDivision p.column (c :: cs) then none
    else if isBlank c then readDoubleQuoted chars (fold.blank c) 0 (p.after c) cs
    else if isBreak c then readDoubleQuoted chars (fold.lineBreak c) 0 (p.after c) cs
    else if c = '"' then some ⟨fold.settle chars, false, cs, p.after c⟩
    else if c = '\\' then
      match cs with
      | [] => none
      | e :: cs =>
        let behind := (p.after c).after e
        if isBreak e then readDoubleQuoted (fold.settle chars) .escapedBreak 0 behind cs
        else match shortEscape? e, codeWidth? e with
          | some d, _ => readDoubleQuoted (d :: fold.settle chars) {} 0 behind cs
          | none, some width =>
            match codeChar? width (cs.take width) with
            | none => none
            | some d => readDoubleQuoted (d :: fold.settle chars) {} width behind cs
          | none, none => none
    else readDoubleQuoted (c :: fold.settle chars) {} 0 (p.after c) cs

/-- Reads a scalar after its opening single quote. -/
def readSingleQuoted (chars : List Char) (fold : Fold) (p : Place) : List Char → Option ScalarEnd
  | [] => none
  | '\'' :: '\'' :: cs =>
    readSingleQuoted ('\'' :: fold.settle chars) {} ((p.after '\'').after '\'') cs
  | c :: cs =>
    if c = '\'' then some ⟨fold.settle chars, false, cs, p.after c⟩
    else if atDivision p.column (c :: cs) then none
    else if isBlank c then readSingleQuoted chars (fold.blank c) (p.after c) cs
    else if isBreak c then readSingleQuoted chars (fold.lineBreak c) (p.after c) cs
    else readSingleQuoted (c :: fold.settle chars) {} (p.after c) cs

/-- Reads a scalar whose opening quote comes next. -/
def Cursor.quoted? (k : Cursor) : Option ScalarEnd :=
  match k.rest with
  | '"' :: cs => readDoubleQuoted [] {} 0 (k.place.after '"') cs
  | '\'' :: cs => readSingleQuoted [] {} (k.place.after '\'') cs
  | _ => none

end Hostcall.Yaml
