import Hostcall.Text.Utf8
import Mathlib.Tactic.Lemma

/-!
# Reading a text in pieces

Where bytes are cut into pieces and each piece is read on its own, a character with bytes on both sides of a
cut is lost: what was read of it is replaced, and so is the byte that would have gone on with it
(`length_decode_lt`). At every other cut the readings of the two sides make up that of the whole
(`decode_append`). So the pieces read like the whole exactly if none of them begins inside a character
(`join_decode_iff`).
-/

namespace Hostcall.Utf8

/-- A byte that a sequence can go on with. -/
def Sequence.Accepts (s : Sequence) (b : UInt8) : Prop :=
  s.low ≤ b ∧ b ≤ s.high

instance (s : Sequence) (b : UInt8) : Decidable (s.Accepts b) :=
  inferInstanceAs (Decidable (_ ∧ _))

/-- The first bytes end inside a character that the others go on with. -/
def Straddles (a b : List UInt8) : Prop :=
  ∃ s ∈ (Decoder.pushAll {} a).underway, ∃ next ∈ b.head?, s.Accepts next

instance (a b : List UInt8) : Decidable (Straddles a b) :=
  inferInstanceAs (Decidable (∃ s ∈ _, ∃ next ∈ _, _))

/-- No piece begins inside a character that the bytes before it began. -/
def Intact (before : List UInt8) : List (List UInt8) → Prop
  | [] => True
  | piece :: pieces => ¬Straddles before piece ∧ Intact (before ++ piece) pieces

instance decidableIntact : ∀ before pieces, Decidable (Intact before pieces)
  | _, [] => .isTrue trivial
  | before, piece :: pieces =>
    have := decidableIntact (before ++ piece) pieces
    inferInstanceAs (Decidable (_ ∧ _))

namespace Decoder

/-- The characters that are still read where a character may be under way. -/
def remainder (underway : Option Sequence) (bytes : List UInt8) : List Char :=
  (pushAll ⟨[], underway⟩ bytes).finish

/-- What a byte starts does not depend on the characters that are done. -/
lemma start_done (done : List Char) (b : UInt8) :
    start ⟨done, none⟩ b = ⟨(start {} b).done ++ done, (start {} b).underway⟩ := by
  simp only [start]
  split <;> rfl

/-- What was read before has no bearing on how a byte is read. -/
lemma push_done (done : List Char) (underway : Option Sequence) (b : UInt8) :
    push ⟨done, underway⟩ b =
      ⟨(push ⟨[], underway⟩ b).done ++ done, (push ⟨[], underway⟩ b).underway⟩ := by
  cases underway with
  | none => exact start_done done b
  | some s =>
    simp only [push]
    split
    · split <;> rfl
    · rw [start_done (replacement :: done), start_done [replacement]]
      simp

/-- What bytes add does not depend on the characters that are done. -/
lemma pushAll_done (done : List Char) (underway : Option Sequence) (bytes : List UInt8) :
    pushAll ⟨done, underway⟩ bytes =
      ⟨(pushAll ⟨[], underway⟩ bytes).done ++ done, (pushAll ⟨[], underway⟩ bytes).underway⟩ := by
  induction bytes generalizing done underway with
  | nil => rfl
  | cons b bytes ih =>
    have hcons (d : Decoder) : pushAll d (b :: bytes) = pushAll (push d b) bytes := rfl
    rw [hcons, hcons, push_done, ih, ih (push ⟨[], underway⟩ b).done]
    simp

/-- What was read before stands first. -/
lemma finish_pushAll (d : Decoder) (bytes : List UInt8) :
    (d.pushAll bytes).finish = d.done.reverse ++ remainder d.underway bytes := by
  rw [remainder, pushAll_done]
  simp only [finish]
  split <;> simp

/-- What remains is decoded byte by byte. -/
lemma remainder_cons (underway : Option Sequence) (b : UInt8) (bytes : List UInt8) :
    remainder underway (b :: bytes) =
      (push ⟨[], underway⟩ b).done.reverse ++ remainder (push ⟨[], underway⟩ b).underway bytes :=
  finish_pushAll (push ⟨[], underway⟩ b) bytes

/-- A character that is not gone on with is replaced, and the next one begins. -/
lemma remainder_of_not_accepts {s : Sequence} {bytes : List UInt8}
    (h : ∀ next ∈ bytes.head?, ¬s.Accepts next) :
    remainder (some s) bytes = replacement :: remainder none bytes := by
  cases bytes with
  | nil => rfl
  | cons b bytes =>
    have hpush : push ⟨[], some s⟩ b = start ⟨[replacement], none⟩ b := if_neg (h b rfl)
    rw [remainder_cons, remainder_cons, hpush, start_done]
    simp [push]

end Decoder

/-- Only bytes from the middle of characters are accepted. -/
def Sequence.Sound (s : Sequence) : Prop :=
  0x80 ≤ s.low ∧ s.high ≤ 0xBF

/-- A first byte begins a sound sequence. -/
lemma sound_of_lead {b : UInt8} {s : Sequence} (h : lead b = .opens s) : s.Sound := by
  simp only [lead] at h
  repeat' split at h
  all_goals cases h
  all_goals simp [Sequence.Sound]

namespace Decoder

/-- Where a sequence is under way, it is sound. -/
def Sound (d : Decoder) : Prop :=
  ∀ s ∈ d.underway, s.Sound

/-- A decoder that starts a character is sound. -/
lemma sound_start (done : List Char) (b : UInt8) : (start ⟨done, none⟩ b).Sound := by
  intro s hs
  simp only [start] at hs
  split at hs
  · cases hs
  · next h =>
    cases hs
    exact sound_of_lead h
  · cases hs

/-- A sound decoder stays sound when it takes a byte. -/
lemma Sound.push {d : Decoder} (h : d.Sound) (b : UInt8) : (d.push b).Sound := by
  unfold Decoder.push
  split
  · next hd =>
    obtain ⟨done, underway⟩ := d
    cases hd
    exact sound_start done b
  · split
    · dsimp only
      split
      · rintro s ⟨⟩
      · rintro s ⟨⟩
        simp [Sequence.Sound]
    · exact sound_start _ b

/-- A sound decoder stays sound when it takes several. -/
lemma Sound.pushAll {d : Decoder} (h : d.Sound) (bytes : List UInt8) : (d.pushAll bytes).Sound := by
  induction bytes generalizing d with
  | nil => exact h
  | cons b bytes ih => exact ih (h.push b)

/-- A byte from the middle of a character, where none is under way, is replaced. -/
lemma remainder_stray {s : Sequence} {b : UInt8} (sound : s.Sound) (h : s.Accepts b)
    (bytes : List UInt8) : remainder none (b :: bytes) = replacement :: remainder none bytes := by
  have hlow : 0x80 ≤ b := UInt8.le_trans sound.1 h.1
  have hhigh : b ≤ 0xBF := UInt8.le_trans h.2 sound.2
  have hlead : lead b = .invalid := by
    simp only [lead]
    rw [if_neg (UInt8.not_lt.mpr hlow), if_pos (UInt8.lt_of_le_of_lt hhigh (by decide))]
  simp [remainder_cons, push, start, hlead]

/-- A byte that goes on with a character ends it, or leaves a sound sequence under way. -/
lemma push_of_accepts {s : Sequence} {b : UInt8} (h : s.Accepts b) :
    (∃ c, push ⟨[], some s⟩ b = ⟨[c], none⟩) ∨
      ∃ r : Sequence, r.Sound ∧ push ⟨[], some s⟩ b = ⟨[], some r⟩ := by
  let next : Sequence := { bits := s.bits * 64 + b.toNat % 64, missing := s.missing - 1 }
  have hpush : push ⟨[], some s⟩ b =
      if s.missing = 1 then ⟨[Char.ofNat next.bits], none⟩ else ⟨[], some next⟩ := if_pos h
  by_cases hlast : s.missing = 1
  · exact .inl ⟨_, hpush.trans (if_pos hlast)⟩
  · exact .inr ⟨next, by simp [Sequence.Sound, next], hpush.trans (if_neg hlast)⟩

/-- Where a character is under way and it is not known of, a text gains at most one replacement. -/
lemma length_remainder_le {s : Sequence} (sound : s.Sound) (bytes : List UInt8) :
    (remainder (some s) bytes).length ≤ (remainder none bytes).length + 1 := by
  induction bytes generalizing s with
  | nil => simp [remainder, pushAll, finish]
  | cons b bytes ih =>
    by_cases h : s.Accepts b
    · rw [remainder_stray sound h, remainder_cons]
      obtain ⟨c, hpush⟩ | ⟨r, hr, hpush⟩ := push_of_accepts h
      · simp [hpush]
      · simpa [hpush] using Nat.le_succ_of_le (ih hr)
    · have hsplit : remainder (some s) (b :: bytes) = replacement :: remainder none (b :: bytes) :=
        remainder_of_not_accepts (by simpa using h)
      exact Nat.le_of_eq (congrArg List.length hsplit)

/-- A byte that goes on with the character under way is not replaced, as it is where that is not known
of. -/
lemma length_remainder_lt {s : Sequence} {b : UInt8} (sound : s.Sound) (h : s.Accepts b)
    (bytes : List UInt8) :
    (remainder (some s) (b :: bytes)).length < (remainder none (b :: bytes)).length + 1 := by
  rw [remainder_stray sound h, remainder_cons]
  obtain ⟨c, hpush⟩ | ⟨r, hr, hpush⟩ := push_of_accepts h
  · simp [hpush]
  · simpa [hpush] using Nat.lt_succ_of_le (length_remainder_le hr bytes)

end Decoder

/-- No bytes decode to no text. -/
@[simp] lemma decode_nil : decode [] = "" := rfl

/-- Decoding starts with nothing underway. -/
lemma decode_eq (bytes : List UInt8) : decode bytes = String.ofList (Decoder.remainder none bytes) := rfl

/-- Where the cut is not inside a character, the two sides are read like the whole. -/
lemma decode_append {a b : List UInt8} (h : ¬Straddles a b) : decode (a ++ b) = decode a ++ decode b := by
  have hb : (Decoder.pushAll {} (a ++ b)).finish =
      (Decoder.pushAll {} a).finish ++ Decoder.remainder none b := by
    rw [Decoder.pushAll_append, Decoder.finish_pushAll]
    cases hu : (Decoder.pushAll {} a).underway with
    | none => simp [Decoder.finish, hu]
    | some s =>
      rw [Decoder.remainder_of_not_accepts fun next hnext haccepts => h ⟨s, hu, next, hnext, haccepts⟩]
      simp [Decoder.finish, hu]
  rw [decode_eq b, decode, decode, hb, String.ofList_append]

/-- Where the cut is inside a character, the two sides on their own are read as more than the whole. -/
lemma length_decode_lt {a b : List UInt8} (h : Straddles a b) :
    (decode (a ++ b)).length < (decode a).length + (decode b).length := by
  obtain ⟨s, hs, next, hnext, haccepts⟩ := h
  obtain ⟨bytes, rfl⟩ := List.head?_eq_some_iff.mp hnext
  have sound : s.Sound := Decoder.Sound.pushAll (d := {}) (by rintro s ⟨⟩) a s hs
  have hlt := Decoder.length_remainder_lt sound haccepts bytes
  have hu : (Decoder.pushAll {} a).underway = some s := hs
  rw [decode_eq (next :: bytes), decode, decode, Decoder.pushAll_append, Decoder.finish_pushAll, hu]
  simp only [String.length_ofList, Decoder.finish, hu, List.length_append, List.length_reverse,
    List.length_cons]
  omega

/-- The pieces are never read as less than the whole, and only intact ones are read as no more. -/
lemma length_decode_pieces (before : List UInt8) (pieces : List (List UInt8)) :
    (decode (before ++ pieces.flatten)).length ≤
        (decode before).length + (String.join (pieces.map decode)).length ∧
      ((decode before).length + (String.join (pieces.map decode)).length ≤
        (decode (before ++ pieces.flatten)).length → Intact before pieces) := by
  induction pieces generalizing before with
  | nil => simp [Intact]
  | cons piece pieces ih =>
    obtain ⟨hle, hintact⟩ := ih (before ++ piece)
    have hjoin : String.join ((piece :: pieces).map decode) =
        decode piece ++ String.join (pieces.map decode) := by
      simp [String.join_cons]
    rw [hjoin, String.length_append, List.flatten_cons, ← List.append_assoc]
    by_cases h : Straddles before piece
    · have hlt := length_decode_lt h
      exact ⟨by omega, fun hge => absurd hge (by omega)⟩
    · have heq : (decode (before ++ piece)).length = (decode before).length + (decode piece).length := by
        rw [decode_append h, String.length_append]
      exact ⟨by omega, fun hge => ⟨h, hintact (by omega)⟩⟩

/-- Intact pieces are read like the whole. -/
lemma Intact.decode {before : List UInt8} {pieces : List (List UInt8)} (h : Intact before pieces) :
    Utf8.decode (before ++ pieces.flatten) =
      Utf8.decode before ++ String.join (pieces.map Utf8.decode) := by
  induction pieces generalizing before with
  | nil => simp
  | cons piece pieces ih =>
    obtain ⟨hfirst, hrest⟩ := h
    rw [List.flatten_cons, ← List.append_assoc, ih hrest, decode_append hfirst, List.map_cons,
      String.join_cons, String.append_assoc]

/-- Pieces that are read on their own make up the text of the whole exactly if none of them begins inside a
character. -/
theorem join_decode_iff (pieces : List (List UInt8)) :
    String.join (pieces.map decode) = decode pieces.flatten ↔ Intact [] pieces := by
  constructor
  · intro h
    have hle := Nat.le_of_eq (congrArg String.length h)
    exact (length_decode_pieces [] pieces).2 (by simpa using hle)
  · intro h
    have htext := h.decode
    rw [List.nil_append, decode_nil, String.empty_append] at htext
    exact htext.symm

end Hostcall.Utf8
