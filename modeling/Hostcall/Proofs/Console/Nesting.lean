import Hostcall.Console.Input
import Mathlib.Tactic.Lemma

/-!
# A reader over a reader

A reader may lie over another one that fetches blocks of its own. As both hold blocks of one size, the outer
one asks for so much that the inner one passes every read on and never holds anything back. So the two give
what one reader over the same supply gives (`Nested.agrees_give`, `Nested.answers_flat`).
-/

namespace Hostcall.Console

/-- What is asked of a reader. -/
inductive Demand where
  | bytes (count : Nat)
  | line
  deriving Repr, DecidableEq

/-- Gives what is asked for. -/
def Input.give (i : Input) : Demand → Except HostError (List UInt8) × Input
  | .bytes count => i.read count
  | .line => i.readLine

/-- The answers of a reader to what is asked of it in turn. -/
def Input.answers (i : Input) : List Demand → List (Except HostError (List UInt8))
  | [] => []
  | d :: ds => (i.give d).1 :: (i.give d).2.answers ds

/-- The reader that is left when everything that is asked for has been given. -/
def Input.left (i : Input) (demands : List Demand) : Input :=
  demands.foldl (fun i d => (i.give d).2) i

/-- There is one answer to each demand. -/
lemma Input.length_answers (i : Input) (demands : List Demand) :
    (i.answers demands).length = demands.length := by
  induction demands generalizing i with
  | nil => rfl
  | cons d ds ih => exact congrArg (· + 1) (ih _)

/-- What is asked later is answered by the reader that is left. -/
lemma Input.answers_append (i : Input) (first second : List Demand) :
    i.answers (first ++ second) = i.answers first ++ (i.left first).answers second := by
  induction first generalizing i with
  | nil => rfl
  | cons d ds ih => exact congrArg (_ :: ·) (ih _)

/-- A reader that fetches its blocks from another reader. -/
structure Nested where
  inner : Input
  block : Option (List UInt8) := none
  deriving Repr, DecidableEq

namespace Nested

/-- The bytes of the outer block at hand. -/
def held (n : Nested) : List UInt8 :=
  n.block.getD []

/-- Reads at most `count` bytes. -/
def read (n : Nested) (count : Nat) : Except HostError (List UInt8) × Nested :=
  match n.held with
  | [] =>
    if capacity ≤ count then
      let (outcome, inner) := n.inner.read count
      (outcome, ⟨inner, some []⟩)
    else
      match n.inner.read capacity with
      | (.error cause, inner) => (.error cause, ⟨inner, some []⟩)
      | (.ok block, inner) => (.ok (block.take count), ⟨inner, some (block.drop count)⟩)
  | block => (.ok (block.take count), { n with block := some (block.drop count) })

/-- Reads the next line with its end; no bytes at the end of the input. -/
def readLine (n : Nested) : Except HostError (List UInt8) × Nested :=
  if Line.newline ∈ n.held then
    let (line, block) := Line.cut n.held
    (.ok line, { n with block := some block })
  else
    match _h : n.inner.read capacity with
    | (.error cause, inner) => (.error cause, ⟨inner, some []⟩)
    | (.ok block, inner) =>
      if block = [] then (.ok n.held, ⟨inner, some []⟩)
      else
        let (outcome, left) := readLine ⟨inner, some block⟩
        (outcome.map (n.held ++ ·), left)
termination_by n.inner.unread.length
decreasing_by
  have hpos := List.length_pos_iff.mpr ‹¬block = []›
  rw [Input.unread_of_read _h, List.length_append]
  omega

/-- Gives what is asked for. -/
def give (n : Nested) : Demand → Except HostError (List UInt8) × Nested
  | .bytes count => n.read count
  | .line => n.readLine

/-- The answers to what is asked in turn. -/
def answers (n : Nested) : List Demand → List (Except HostError (List UInt8))
  | [] => []
  | d :: ds => (n.give d).1 :: (n.give d).2.answers ds

/-- The one reader in place of the two. -/
def flat (n : Nested) : Input :=
  ⟨n.inner.supply, n.block⟩

/-- The inner reader holds nothing back, and the two give what one reader gives. -/
structure Agrees (nested : Except HostError (List UInt8) × Nested)
    (single : Except HostError (List UInt8) × Input) : Prop where
  outcome : nested.1 = single.1
  flat : nested.2.flat = single.2
  idle : nested.2.inner.held = []

variable {n : Nested}

/-- A reader that holds nothing fails with its supply. -/
lemma read_broken {cause : HostError} {block : Option (List UInt8)} (idle : block.getD [] = [])
    (count : Nat) : Input.read ⟨.broken cause, block⟩ count = (.error cause, ⟨.broken cause, some []⟩) := by
  simp only [Input.read, Input.held, idle]

/-- A read that no block can serve goes past a reader that holds nothing. -/
lemma read_past {rest : List UInt8} {block : Option (List UInt8)} (idle : block.getD [] = []) {count : Nat}
    (h : capacity ≤ count) :
    Input.read ⟨.bytes rest, block⟩ count = (.ok (rest.take count), ⟨.bytes (rest.drop count), some []⟩) := by
  simp only [Input.read, Input.held, idle, if_pos h]

/-- Any other read is served from a block. -/
lemma read_block {rest : List UInt8} {block : Option (List UInt8)} (idle : block.getD [] = []) {count : Nat}
    (h : ¬capacity ≤ count) :
    Input.read ⟨.bytes rest, block⟩ count =
      (.ok ((rest.take capacity).take count),
        ⟨.bytes (rest.drop capacity), some ((rest.take capacity).drop count)⟩) := by
  simp only [Input.read, Input.held, idle, if_neg h]

/-- A read gives what the one reader gives. -/
lemma agrees_read (idle : n.inner.held = []) (count : Nat) : Agrees (n.read count) (n.flat.read count) := by
  obtain ⟨⟨supply, inside⟩, outside⟩ := n
  have idle : inside.getD [] = [] := idle
  cases hheld : outside.getD [] with
  | cons b block =>
    simp only [read, held, Input.read, Input.held, flat, hheld]
    exact ⟨rfl, rfl, idle⟩
  | nil =>
    simp only [read, held, hheld, flat]
    cases supply with
    | broken cause =>
      simp only [read_broken idle, read_broken hheld]
      split <;> exact ⟨rfl, rfl, rfl⟩
    | bytes rest =>
      split
      -- A large read goes past both readers; any other is served from a block, fetched past the inner one.
      · next h =>
        simp only [read_past idle h, read_past hheld h]
        exact ⟨rfl, rfl, rfl⟩
      · next h =>
        simp only [read_past idle (Nat.le_refl capacity), read_block hheld h]
        exact ⟨rfl, rfl, rfl⟩

/-- Where the supply does not fail, a line is looked for block by block as by one reader. -/
lemma agrees_cutLine (block rest : List UInt8) {inside outside : Option (List UInt8)}
    (idle : inside.getD [] = []) (hblock : outside.getD [] = block) :
    Agrees (readLine ⟨⟨.bytes rest, inside⟩, outside⟩)
      (.ok (Input.cutLine block rest).1,
        ⟨.bytes (Input.cutLine block rest).2.2, some (Input.cutLine block rest).2.1⟩) := by
  induction block, rest using Input.cutLine.induct generalizing inside outside with
  | case1 block rest hmem =>
    rw [readLine, Input.cutLine, if_pos hmem]
    simp only [held, hblock, if_pos hmem]
    exact ⟨rfl, rfl, idle⟩
  | case2 block hmem =>
    rw [readLine, Input.cutLine, if_neg hmem]
    simp only [held, hblock, if_neg hmem]
    split
    · next h => cases (read_past idle (Nat.le_refl capacity)).symm.trans h
    -- The next block is empty, so that the input has come to its end.
    · next h =>
      cases (read_past idle (Nat.le_refl capacity)).symm.trans h
      exact ⟨rfl, rfl, rfl⟩
  | case3 block rest hmem hrest line left _ ih =>
    have hfetched : rest.take capacity ≠ [] := by simp [hrest, capacity]
    rw [readLine, Input.cutLine, if_neg hmem, if_neg hrest]
    simp only [held, hblock, if_neg hmem]
    split
    · next h => cases (read_past idle (Nat.le_refl capacity)).symm.trans h
    · next h =>
      cases (read_past idle (Nat.le_refl capacity)).symm.trans h
      obtain ⟨houtcome, hflat, hidle⟩ := @ih (some []) (some (rest.take capacity)) rfl rfl
      rw [if_neg hfetched]
      exact ⟨by simp only [houtcome]; rfl, hflat, hidle⟩

/-- Where the supply fails, only a line that is at hand is given. -/
lemma agrees_broken (cause : HostError) {inside : Option (List UInt8)} (outside : Option (List UInt8))
    (idle : inside.getD [] = []) :
    Agrees (readLine ⟨⟨.broken cause, inside⟩, outside⟩) (Input.readLine ⟨.broken cause, outside⟩) := by
  rw [readLine, Input.readLine]
  by_cases hmem : Line.newline ∈ Input.held ⟨.broken cause, outside⟩
  · have houter : Line.newline ∈ held ⟨⟨.broken cause, inside⟩, outside⟩ := hmem
    simp only [if_pos hmem, if_pos houter]
    exact ⟨rfl, rfl, idle⟩
  · have houter : Line.newline ∉ held ⟨⟨.broken cause, inside⟩, outside⟩ := hmem
    simp only [if_neg hmem, if_neg houter]
    split
    · next h =>
      cases (read_broken idle capacity).symm.trans h
      exact ⟨rfl, rfl, rfl⟩
    · next h => cases (read_broken idle capacity).symm.trans h

/-- A line is the one that the one reader gives. -/
lemma agrees_readLine (idle : n.inner.held = []) : Agrees n.readLine n.flat.readLine := by
  obtain ⟨⟨supply, inside⟩, outside⟩ := n
  cases supply with
  | bytes rest => exact agrees_cutLine _ rest idle rfl
  | broken cause => exact agrees_broken cause outside idle

/-- While the inner reader holds nothing back, the two give what one reader gives, and it still holds nothing
back. -/
lemma agrees_give (idle : n.inner.held = []) (d : Demand) : Agrees (n.give d) (n.flat.give d) := by
  cases d with
  | bytes count => exact agrees_read idle count
  | line => exact agrees_readLine idle

/-- Whatever is asked in turn, a reader over a reader that holds nothing answers as one reader. -/
theorem answers_flat (idle : n.inner.held = []) (ds : List Demand) : n.answers ds = n.flat.answers ds := by
  induction ds generalizing n with
  | nil => rfl
  | cons d ds ih =>
    obtain ⟨houtcome, hflat, hidle⟩ := agrees_give idle d
    rw [answers, Input.answers, houtcome, ih hidle, hflat]

end Nested

end Hostcall.Console
