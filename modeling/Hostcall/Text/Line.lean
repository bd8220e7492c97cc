import Hostcall.Text.Utf8

/-!
# Lines of bytes

Cutting the next line off a byte list, and the text of a line without its end. Nothing is lost by cutting
(`cut_append`).
-/

namespace Hostcall.Line

def newline : UInt8 := 10

def carriageReturn : UInt8 := 13

/-- The bytes up to and including the next newline, or all of them, and the rest. -/
def cut (bytes : List UInt8) : List UInt8 × List UInt8 :=
  let before := bytes.takeWhile (· ≠ newline)
  match bytes.dropWhile (· ≠ newline) with
  | [] => (before, [])
  | c :: rest => (before ++ [c], rest)

/-- A line and what follows it are all the bytes. -/
theorem cut_append (bytes : List UInt8) : (cut bytes).1 ++ (cut bytes).2 = bytes := by
  have h : bytes.takeWhile (fun b => decide (b ≠ newline)) ++
      bytes.dropWhile (fun b => decide (b ≠ newline)) = bytes := List.takeWhile_append_dropWhile
  simp only [cut]
  split <;> rename_i hd <;> rw [hd] at h <;> simpa using h

/-- A line without its final newline, or newline after carriage return. -/
def chop (line : List UInt8) : List UInt8 :=
  if line.getLast? = some newline then
    let line := line.dropLast
    if line.getLast? = some carriageReturn then line.dropLast else line
  else line

/-- The text of a line, read leniently. -/
def text (line : List UInt8) : String :=
  Utf8.decode (chop line)

end Hostcall.Line
