import Hostcall.Console.Channels
import Mathlib.Tactic.Lemma

/-!
# Reading through blocks

What a reader gives does not depend on where its blocks end. A line is the next line of all that is
unread, however many blocks it lies in, and a single byte is the next byte (`flows_steady`,
`fits_steady`). A read takes bytes off the front, at least one where there are any (`read_of_flows`); it
takes as many as were asked for if that is one at most (`read_of_le_one`) or if everything fits into one
block (`Fits.read`).
-/

namespace Hostcall

namespace Line

/-! ## Cutting -/

/-- There is no line where there are no bytes. -/
@[simp] lemma cut_nil : cut [] = ([], []) := rfl

/-- The next line ends with its first byte if that is a newline. -/
lemma cut_cons (b : UInt8) (bytes : List UInt8) :
    cut (b :: bytes) =
      if b = newline then ([b], bytes) else (b :: (cut bytes).1, (cut bytes).2) := by
  by_cases hb : b = newline
  · simp [cut, hb]
  · simp only [cut, List.takeWhile_cons, List.dropWhile_cons, hb, ne_eq, not_false_eq_true,
      decide_true, if_true, if_false]
    split <;> simp

/-- A line that ends in the first part is cut off that part. -/
lemma cut_append_of_mem {a : List UInt8} (h : newline ∈ a) (b : List UInt8) :
    cut (a ++ b) = ((cut a).1, (cut a).2 ++ b) := by
  induction a with
  | nil => cases h
  | cons x xs ih =>
    simp only [List.cons_append, cut_cons]
    by_cases hx : x = newline
    · simp [hx]
    · have hxs : newline ∈ xs := (List.mem_cons.mp h).resolve_left (Ne.symm hx)
      simp [hx, ih hxs]

/-- A line that does not end in the first part goes on in the second. -/
lemma cut_append_of_not_mem {a : List UInt8} (h : newline ∉ a) (b : List UInt8) :
    cut (a ++ b) = (a ++ (cut b).1, (cut b).2) := by
  induction a with
  | nil => rfl
  | cons x xs ih =>
    have hx : x ≠ newline := fun he => h (he ▸ .head _)
    have hxs : newline ∉ xs := fun hm => h (.tail _ hm)
    simp [cut_cons, hx, ih hxs]

/-- Bytes without a newline are one line. -/
lemma cut_of_not_mem {a : List UInt8} (h : newline ∉ a) : cut a = (a, []) := by
  simpa using cut_append_of_not_mem h []

/-- The text of no line is empty. -/
@[simp] lemma text_nil : text [] = "" := rfl

end Line

namespace Console.Input

/-- Inputs of this kind never fail, stay of this kind, and give the next line and the next byte of what
is unread. -/
structure Steady (P : Input → Prop) : Prop where
  line {i : Input} : P i →
    ∃ j, i.readLine = (.ok (Line.cut i.unread).1, j) ∧ P j ∧ j.unread = (Line.cut i.unread).2
  byte {i : Input} : P i →
    ∃ j, i.read 1 = (.ok (i.unread.take 1), j) ∧ P j ∧ j.unread = i.unread.drop 1

/-! ## Readers that do not fail -/

/-- There are bytes to be fetched, or none any more, but fetching them never fails. -/
def Flows (i : Input) : Prop :=
  ∃ rest, i.supply = .bytes rest

/-- The block by block search for a line finds the next line of everything. -/
lemma cutLine_eq_cut (block rest : List UInt8) :
    (cutLine block rest).1 = (Line.cut (block ++ rest)).1 ∧
      (cutLine block rest).2.1 ++ (cutLine block rest).2.2 = (Line.cut (block ++ rest)).2 := by
  fun_induction cutLine block rest with
  | case1 block rest hmem line left hcut =>
    rw [Line.cut_append_of_mem hmem]
    exact ⟨by rw [hcut], by rw [hcut]⟩
  | case2 block hmem =>
    simp [Line.cut_of_not_mem hmem]
  | case3 block rest hmem _ line left hcut ih =>
    rw [Line.cut_append_of_not_mem hmem]
    simp_all

/-- A reader that does not fail gives the next line of all that is unread. -/
lemma readLine_of_flows {i : Input} (h : i.Flows) :
    ∃ j, i.readLine = (.ok (Line.cut i.unread).1, j) ∧ j.Flows ∧ j.unread = (Line.cut i.unread).2 := by
  obtain ⟨rest, hs⟩ := h
  obtain ⟨hline, hleft⟩ := cutLine_eq_cut i.held rest
  have hunread : i.unread = i.held ++ rest := by simp [unread, hs]
  refine ⟨_, by simp only [readLine, hs, hunread, ← hline]; rfl, ⟨_, rfl⟩, ?_⟩
  rw [hunread, ← hleft]
  rfl

/-- A reader that does not fail gives bytes, and at least one if it was asked for any and has any. -/
lemma read_of_flows {i : Input} (h : i.Flows) (count : Nat) :
    ∃ bytes j, i.read count = (.ok bytes, j) ∧ j.Flows ∧
      (bytes = [] → count = 0 ∨ i.unread = []) := by
  obtain ⟨rest, hs⟩ := h
  cases hb : i.held with
  | nil =>
    have hunread : i.unread = rest := by simp [unread, hs, hb]
    simp only [read, hb, hs, hunread]
    split
    · exact ⟨_, _, rfl, ⟨_, rfl⟩, fun he => by simpa using he⟩
    · refine ⟨_, _, rfl, ⟨_, rfl⟩, fun he => ?_⟩
      simpa [capacity] using he
  | cons b bs =>
    simp only [read, hb, hs]
    exact ⟨_, _, rfl, ⟨_, rfl⟩, fun he => .inl (by simpa using he)⟩

/-- A read that gives all it was asked for, or leaves nothing, takes a known number of bytes. -/
lemma read_eq_take {i j : Input} {count : Nat} {bytes : List UInt8}
    (h : i.read count = (.ok bytes, j)) (hall : count ≤ bytes.length ∨ j.unread = []) :
    bytes = i.unread.take count ∧ j.unread = i.unread.drop count := by
  have hle := length_of_read h
  rw [unread_of_read h]
  obtain hcount | hnone := hall
  · obtain rfl : count = bytes.length := by omega
    simp
  · simp [hnone, List.take_of_length_le hle, hle]

/-- One byte is given whenever there is one. -/
lemma read_of_le_one {i : Input} (h : i.Flows) {count : Nat} (hc : count ≤ 1) :
    ∃ j, i.read count = (.ok (i.unread.take count), j) ∧ j.Flows ∧
      j.unread = i.unread.drop count := by
  obtain ⟨bytes, j, hr, hj, hnil⟩ := read_of_flows h count
  have hall : count ≤ bytes.length ∨ j.unread = [] := by
    cases bytes with
    | nil =>
      obtain rfl | hu := hnil rfl
      · exact .inl (Nat.le_refl 0)
      · exact .inr (by simpa [hu] using (unread_of_read hr).symm)
    | cons b bs => exact .inl (by simp; omega)
  obtain ⟨rfl, hd⟩ := read_eq_take hr hall
  exact ⟨j, hr, hj, hd⟩

/-- A reader that does not fail is steady. -/
lemma flows_steady : Steady Flows where
  line h := readLine_of_flows h
  byte h := read_of_le_one h (Nat.le_refl 1)

/-! ## Input that fits into one block -/

/-- Whatever is unread lies in the block at hand, or will be fetched with one block. -/
def Fits (i : Input) : Prop :=
  ∃ rest, i.supply = .bytes rest ∧ rest.length ≤ capacity ∧ (i.held = [] ∨ rest = [])

/-- Input that fits into one block does not fail. -/
lemma Fits.flows {i : Input} (h : i.Fits) : i.Flows := by
  obtain ⟨rest, hs, -, -⟩ := h
  exact ⟨rest, hs⟩

/-- Nothing has to be fetched a second time. -/
lemma Fits.read {i : Input} (h : i.Fits) (count : Nat) :
    ∃ j, i.read count = (.ok (i.unread.take count), j) ∧ j.Fits ∧
      j.unread = i.unread.drop count := by
  obtain ⟨rest, hs, hlen, hone⟩ := h
  cases hb : i.held with
  | nil =>
    have hunread : i.unread = rest := by simp [unread, hs, hb]
    have htake : rest.take capacity = rest := List.take_of_length_le hlen
    have hdrop : rest.drop capacity = [] := List.drop_of_length_le hlen
    simp only [Input.read, hb, hs, hunread]
    split
    · next hc =>
      have hnone : rest.drop count = [] := List.drop_of_length_le (by omega)
      refine ⟨_, rfl, ⟨_, rfl, ?_, .inr hnone⟩, ?_⟩
      · simp [hnone]
      · simp [unread, held]
    · rw [htake, hdrop]
      exact ⟨_, rfl, ⟨[], rfl, Nat.zero_le _, .inr rfl⟩, by simp [unread, held]⟩
  | cons b bs =>
    obtain rfl : rest = [] := hone.resolve_left (by simp [hb])
    have hunread : i.unread = b :: bs := by simp [unread, hs, hb]
    simp only [Input.read, hb, hs, hunread]
    exact ⟨_, rfl, ⟨[], rfl, Nat.zero_le _, .inr rfl⟩, by simp [unread, held]⟩

/-- Where there is nothing to be fetched, a line leaves nothing to be fetched. -/
lemma cutLine_nil (block : List UInt8) : (cutLine block []).2.2 = [] := by
  unfold cutLine
  split <;> rfl

/-- A line fetches at most the one block that there is to fetch. -/
lemma Fits.readLine {i : Input} (h : i.Fits) :
    ∃ j, i.readLine = (.ok (Line.cut i.unread).1, j) ∧ j.Fits ∧ j.unread = (Line.cut i.unread).2 := by
  obtain ⟨j, hr, -, hj⟩ := readLine_of_flows h.flows
  refine ⟨j, hr, ?_, hj⟩
  obtain ⟨rest, hs, hlen, hone⟩ := h
  have hleft : (cutLine i.held rest).2.2 = [] := by
    obtain hb | rfl := hone
    · by_cases hrest : rest = []
      · rw [hrest, cutLine_nil]
      · rw [hb, cutLine, if_neg (by simp), if_neg hrest]
        simp only [List.take_of_length_le hlen, List.drop_of_length_le hlen]
        exact cutLine_nil rest
    · exact cutLine_nil _
  have hblock : j = ⟨.bytes [], some (cutLine i.held rest).2.1⟩ := by
    simpa only [Input.readLine, hs, hleft] using (congrArg Prod.snd hr).symm
  exact hblock ▸ ⟨[], rfl, Nat.zero_le _, .inr rfl⟩

/-- A reader whose input fits into one block is steady. -/
lemma fits_steady : Steady Fits where
  line h := h.readLine
  byte h := h.read 1

end Console.Input

end Hostcall
