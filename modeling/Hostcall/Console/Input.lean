import Hostcall.Host.Error
import Hostcall.Text.Line

/-!
# Buffered input

The standard input behind a reader that fetches blocks of bytes. The reader is made on first use and
kept. A read is served from the block at hand and never from two, except that a large read with no
block at hand goes past the reader. What has not been consumed yet is `unread`, and every read takes its
bytes off the front of that.
-/

namespace Hostcall.Console

/-- The most bytes a reader or a writer holds. -/
def capacity : Nat := 8192

/-- Where input comes from: bytes still to be fetched, or a source that fails on every read. -/
inductive Supply where
  | bytes (rest : List UInt8)
  | broken (cause : HostError)
  deriving Repr, DecidableEq

/-- An input and its reader's block, which is absent until the first use. -/
structure Input where
  supply : Supply
  block : Option (List UInt8) := none
  deriving Repr, DecidableEq

namespace Input

/-- The bytes of the block at hand. -/
def held (i : Input) : List UInt8 :=
  i.block.getD []

/-- All bytes that later reads will see. -/
def unread (i : Input) : List UInt8 :=
  match i.supply with
  | .bytes rest => i.held ++ rest
  | .broken _ => i.held

/-- Reads at most `count` bytes. -/
def read (i : Input) (count : Nat) : Except HostError (List UInt8) × Input :=
  match i.held, i.supply with
  | [], .broken cause => (.error cause, { i with block := some [] })
  | [], .bytes rest =>
    if capacity ≤ count then (.ok (rest.take count), ⟨.bytes (rest.drop count), some []⟩)
    else
      let block := rest.take capacity
      (.ok (block.take count), ⟨.bytes (rest.drop capacity), some (block.drop count)⟩)
  | block, supply => (.ok (block.take count), ⟨supply, some (block.drop count)⟩)

/-- A read takes its bytes off the front of what is unread. -/
theorem unread_of_read {i j : Input} {count : Nat} {bytes : List UInt8}
    (h : i.read count = (.ok bytes, j)) : i.unread = bytes ++ j.unread := by
  unfold read at h
  split at h
  · cases h
  · next rest hb hs =>
    split at h <;> cases h <;> simp only [unread, hb, hs, List.nil_append]
    · simp [held]
    · simp only [held, Option.getD_some, ← List.append_assoc, List.take_append_drop]
  · cases h
    rcases hs : i.supply with rest | cause <;>
      simp only [unread, hs, held, Option.getD_some, ← List.append_assoc, List.take_append_drop]

/-- A read gives no more than was asked for. -/
theorem length_of_read {i j : Input} {count : Nat} {bytes : List UInt8}
    (h : i.read count = (.ok bytes, j)) : bytes.length ≤ count := by
  unfold read at h
  split at h
  · cases h
  · split at h <;> cases h <;> simp only [List.length_take] <;> omega
  · cases h
    simp only [List.length_take]
    omega

/-- Reads blocks until one holds a newline or there are none: the line, what is left of the last block,
and what is left of the supply. -/
def cutLine (block rest : List UInt8) : List UInt8 × List UInt8 × List UInt8 :=
  if Line.newline ∈ block then
    let (line, block) := Line.cut block
    (line, block, rest)
  else if rest = [] then (block, [], [])
  else
    let (line, left) := cutLine (rest.take capacity) (rest.drop capacity)
    (block ++ line, left)
termination_by rest.length
decreasing_by
  have : rest.length ≠ 0 := by simpa using ‹¬rest = []›
  simp only [List.length_drop, capacity]
  omega

/-- Reads the next line with its end; no bytes at the end of the input. -/
def readLine (i : Input) : Except HostError (List UInt8) × Input :=
  match i.supply with
  | .bytes rest =>
    let (line, block, rest) := cutLine i.held rest
    (.ok line, ⟨.bytes rest, some block⟩)
  | .broken cause =>
    if Line.newline ∈ i.held then
      let (line, block) := Line.cut i.held
      (.ok line, { i with block := some block })
    else (.error cause, { i with block := some [] })

end Input

end Hostcall.Console
