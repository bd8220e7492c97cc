import Hostcall.Text.Utf8

/-!
# Reading written text

The decoder undoes the encoder: text that was written as UTF-8 is read back unchanged (`decode_encode`).
-/

namespace Hostcall.Utf8

/-- An ASCII byte is a character. -/
theorem lead_ascii {n : Nat} (h : n ≤ 0x7F) : lead (UInt8.ofNat n) = .char (Char.ofNat n) := by
  have hn : (UInt8.ofNat n).toNat = n := by simp; omega
  have hb : UInt8.ofNat n < 0x80 := by rw [UInt8.lt_iff_toNat_lt, hn]; simp; omega
  simp [lead, hb, hn]

/-- Such a byte opens a character of two bytes. -/
theorem lead_two {n : Nat} (h : 2 ≤ n ∧ n < 32) :
    lead (UInt8.ofNat (n + 192)) = .opens { bits := n, missing := 1 } := by
  have hn : (UInt8.ofNat (n + 192)).toNat = n + 192 := by simp; omega
  simp only [lead, UInt8.lt_iff_toNat_lt, hn]
  rw [if_neg (by simp), if_neg (by simp; omega), if_pos (by simp; omega)]
  congr 2
  omega

/-- The byte after the first of three must not make an overlong form or a surrogate. -/
theorem lead_three {n : Nat} (h : n < 16) :
    ∃ low high, lead (UInt8.ofNat (n + 224)) = .opens { bits := n, missing := 2, low, high } ∧
      (low = if n = 0 then 0xA0 else 0x80) ∧ (high = if n = 13 then 0x9F else 0xBF) := by
  have hn : (UInt8.ofNat (n + 224)).toNat = n + 224 := by simp; omega
  have heq (m : UInt8) : UInt8.ofNat (n + 224) = m ↔ n + 224 = m.toNat := by
    rw [← UInt8.toNat_inj, hn]
  simp only [lead, UInt8.lt_iff_toNat_lt, hn, heq]
  rw [if_neg (by simp), if_neg (by simp), if_neg (by simp)]
  by_cases h0 : n = 0
  · subst h0; exact ⟨_, _, rfl, rfl, rfl⟩
  · by_cases h13 : n = 13
    · subst h13; exact ⟨_, _, rfl, rfl, rfl⟩
    · rw [if_neg (by simp; omega), if_neg (by simp; omega), if_pos (by simp; omega)]
      refine ⟨_, _, ?_, rfl, rfl⟩
      rw [if_neg h0, if_neg h13]
      congr 2
      omega

/-- The byte after the first of four must not make an overlong form or leave the code space. -/
theorem lead_four {n : Nat} (h : n < 5) :
    ∃ low high, lead (UInt8.ofNat (n + 240)) = .opens { bits := n, missing := 3, low, high } ∧
      (low = if n = 0 then 0x90 else 0x80) ∧ (high = if n = 4 then 0x8F else 0xBF) := by
  have hcases : n = 0 ∨ n = 1 ∨ n = 2 ∨ n = 3 ∨ n = 4 := by omega
  rcases hcases with rfl | rfl | rfl | rfl | rfl <;> exact ⟨_, _, rfl, rfl, rfl⟩

/-- A byte in the middle of a character adds six bits. -/
theorem push_inner {done : List Char} {s : Sequence} {n : Nat} (hn : n < 64)
    (hlow : s.low.toNat ≤ n + 128) (hhigh : n + 128 ≤ s.high.toNat) (hm : s.missing ≠ 1) :
    Decoder.push ⟨done, some s⟩ (UInt8.ofNat (n + 128)) =
      ⟨done, some { bits := s.bits * 64 + n, missing := s.missing - 1 }⟩ := by
  have hb : (UInt8.ofNat (n + 128)).toNat = n + 128 := by simp; omega
  simp only [Decoder.push, UInt8.le_iff_toNat_le, hb, hlow, hhigh, and_self, if_true, if_neg hm]
  congr 3
  omega

/-- The last byte of a character adds six bits and ends it. -/
theorem push_last {done : List Char} {s : Sequence} {n : Nat} (hn : n < 64)
    (hlow : s.low.toNat ≤ n + 128) (hhigh : n + 128 ≤ s.high.toNat) (hm : s.missing = 1) :
    Decoder.push ⟨done, some s⟩ (UInt8.ofNat (n + 128)) =
      ⟨Char.ofNat (s.bits * 64 + n) :: done, none⟩ := by
  have hb : (UInt8.ofNat (n + 128)).toNat = n + 128 := by simp; omega
  simp only [Decoder.push, UInt8.le_iff_toNat_le, hb, hlow, hhigh, and_self, if_true, if_pos hm]
  congr 3
  omega

/-- A byte that opens a character puts it underway. -/
theorem push_lead {done : List Char} {b : UInt8} {s : Sequence} (h : lead b = .opens s) :
    Decoder.push ⟨done, none⟩ b = ⟨done, some s⟩ := by
  simp [Decoder.push, Decoder.start, h]

/-- The bytes of a character, read from its start, give the character back. -/
theorem pushAll_encodeChar (done : List Char) (c : Char) :
    Decoder.pushAll ⟨done, none⟩ (String.utf8EncodeChar c) = ⟨c :: done, none⟩ := by
  have hv : c.val.toNat.isValidChar := c.valid
  have hc : Char.ofNat c.val.toNat = c := Char.ofNat_toNat c
  generalize hw : c.val.toNat = v at hv hc
  simp only [String.utf8EncodeChar, hw, Decoder.pushAll]
  split
  · simp only [List.foldl, Decoder.push, Decoder.start, lead_ascii ‹_›, hc]
  split
  · simp only [List.foldl]
    rw [push_lead (lead_two (by omega)), push_last (by omega) (by simp) (by simp; omega) rfl]
    rw [← hc]
    congr 3
    simp only
    omega
  split
  · obtain ⟨low, high, hl, hlow, hhigh⟩ := lead_three (n := v / 4096 % 16) (by omega)
    simp only [List.foldl]
    rw [push_lead hl, push_inner (by omega) ?_ ?_ (by simp),
      push_last (by omega) (by simp) (by simp; omega) rfl]
    · rw [← hc]
      congr 3
      simp only
      omega
    · subst hlow; simp only; split <;> simp; omega
    · subst hhigh; simp only; split <;> simp <;> omega
  · have hlead : v / 262144 % 8 < 5 := by rcases hv with h | ⟨_, h⟩ <;> omega
    obtain ⟨low, high, hl, hlow, hhigh⟩ := lead_four hlead
    simp only [List.foldl]
    rw [push_lead hl, push_inner (by omega) ?_ ?_ (by simp),
      push_inner (by omega) (by simp) (by simp; omega) (by simp),
      push_last (by omega) (by simp) (by simp; omega) rfl]
    · rw [← hc]
      congr 3
      simp only
      rcases hv with h | ⟨_, h⟩ <;> omega
    · subst hlow; simp only; split <;> simp; omega
    · subst hhigh; simp only; rcases hv with h | ⟨_, h⟩ <;> split <;> simp <;> omega

/-- The bytes of a text are decoded to its characters. -/
theorem pushAll_encode (done cs : List Char) :
    Decoder.pushAll ⟨done, none⟩ (cs.flatMap String.utf8EncodeChar) = ⟨cs.reverse ++ done, none⟩ := by
  induction cs generalizing done with
  | nil => rfl
  | cons c cs ih =>
    rw [List.flatMap_cons, Decoder.pushAll_append, pushAll_encodeChar, ih]
    simp

/-- Text that was written is read back. -/
theorem decode_encode (text : String) : decode (encode text) = text := by
  have h := pushAll_encode [] text.toList
  simp [decode, encode, h, Decoder.finish]

end Hostcall.Utf8
