import Hostcall.Proofs.Console.Reading
import Hostcall.Text.Blank
import Hostcall.Text.Utf8.Lemmas
import Mathlib.Data.List.TakeWhile

/-!
# The ends of a line

Trimming takes the characters of a class off both ends of a text, and nothing else (`trims_trimWhere`,
`Trims.eq_trimWhere`). A text without a newline that was written as a line is read back, but for a carriage
return before the line's end (`text_cut_encode`), and nothing is missing once it is trimmed (`trims_cut_encode`).
-/

namespace Hostcall

namespace Text

/-- `s` is what is left of a text when the characters of a class are taken off its ends. -/
structure Trims (p : Char → Bool) (text s : List Char) : Prop where
  around : ∃ before after, text = before ++ s ++ after ∧ ∀ c ∈ before ++ after, p c = true
  first : ∀ c ∈ s.head?, p c = false
  last : ∀ c ∈ s.getLast?, p c = false

variable {p : Char → Bool} {text s : List Char}

/-- What is left begins with a character that is not to be cut off. -/
lemma not_of_mem_head?_dropWhile (text : List Char) {c : Char} (h : c ∈ (text.dropWhile p).head?) :
    p c = false := by
  have hnot := List.head?_dropWhile_not p text
  rw [Option.mem_def.mp h] at hnot
  exact hnot

/-- Nothing is dropped where the first character is not of the class. -/
lemma dropWhile_of_head? (h : ∀ c ∈ text.head?, p c = false) : text.dropWhile p = text := by
  cases text with
  | nil => rfl
  | cons c text => rw [List.dropWhile_cons_of_neg (by simp [h c rfl])]

/-- Trimming takes off two runs of characters of the class. -/
lemma trimWhere_append (p : Char → Bool) (text : List Char) :
    trimWhere p text ++ ((text.dropWhile p).reverse.takeWhile p).reverse = text.dropWhile p := by
  rw [trimWhere, ← List.reverse_append, List.takeWhile_append_dropWhile, List.reverse_reverse]

/-- Trimming cuts off at both ends, and as far as it can. -/
lemma trims_trimWhere (p : Char → Bool) (text : List Char) : Trims p text (trimWhere p text) where
  around := by
    refine ⟨text.takeWhile p, ((text.dropWhile p).reverse.takeWhile p).reverse, ?_, ?_⟩
    · rw [List.append_assoc, trimWhere_append, List.takeWhile_append_dropWhile]
    · intro c hc
      obtain hc | hc := List.mem_append.mp hc
      · exact List.mem_takeWhile_imp hc
      · exact List.mem_takeWhile_imp (List.mem_reverse.mp hc)
  first := by
    intro c hc
    refine not_of_mem_head?_dropWhile text ?_
    rw [← trimWhere_append, List.head?_append, Option.mem_def.mp hc]
    rfl
  last := by
    intro c hc
    rw [trimWhere, List.getLast?_reverse] at hc
    exact not_of_mem_head?_dropWhile _ hc

/-- There is one way to trim a text. -/
lemma Trims.eq_trimWhere (h : Trims p text s) : s = trimWhere p text := by
  obtain ⟨⟨before, after, rfl, hclass⟩, hfirst, hlast⟩ := h
  have hbefore : ∀ c ∈ before, p c = true := fun c hc => hclass c (List.mem_append_left _ hc)
  have hafter : ∀ c ∈ after, p c = true := fun c hc => hclass c (List.mem_append_right _ hc)
  rw [trimWhere, List.append_assoc, List.dropWhile_append_of_pos hbefore]
  cases s with
  | nil =>
    have hdrop : after.dropWhile p = [] := List.dropWhile_eq_nil_iff.mpr hafter
    simp [hdrop]
  | cons c s =>
    have hkept : (c :: s ++ after).dropWhile p = c :: s ++ after := dropWhile_of_head? hfirst
    rw [hkept, List.reverse_append,
      List.dropWhile_append_of_pos (by simpa using hafter), dropWhile_of_head?, List.reverse_reverse]
    rwa [List.head?_reverse]

/-- A character of the class at the end of a text is trimmed away. -/
lemma Trims.of_append {c : Char} (h : Trims p (text ++ [c]) s) (hc : p c = true) : Trims p text s := by
  have htrim := trims_trimWhere p text
  obtain ⟨before, after, htext, hclass⟩ := htrim.around
  have hboth : Trims p (text ++ [c]) (trimWhere p text) := by
    refine ⟨⟨before, after ++ [c], ?_, ?_⟩, htrim.first, htrim.last⟩
    · rw [← List.append_assoc, ← htext]
    · rw [← List.append_assoc, List.forall_mem_append]
      exact ⟨hclass, by simpa using hc⟩
  rw [h.eq_trimWhere, ← hboth.eq_trimWhere]
  exact htrim

end Text

namespace Utf8

/-- A byte of ASCII is a character of its own. -/
lemma toNat_of_mem_encodeChar {c : Char} {b : UInt8} (h : b ∈ String.utf8EncodeChar c) (hb : b < 0x80) :
    c.toNat = b.toNat := by
  have hb : b.toNat < 128 := hb
  show c.val.toNat = b.toNat
  simp only [String.utf8EncodeChar] at h
  generalize c.val.toNat = v at h ⊢
  -- Of a character beyond ASCII no byte is small.
  repeat' split at h
  all_goals
    simp only [List.mem_cons, List.not_mem_nil, or_false, ← UInt8.toNat_inj, UInt8.toNat_ofNat'] at h
    omega

/-- The bytes of a text hold no newline if the text does not. -/
lemma newline_notMem_encode {text : String} (h : '\n' ∉ text.toList) : Line.newline ∉ encode text := by
  intro hmem
  obtain ⟨c, hc, hb⟩ := List.mem_flatMap.mp hmem
  have hcode : c.toNat = '\n'.toNat := toNat_of_mem_encodeChar hb (by decide)
  exact h (Char.toNat_inj.mp hcode ▸ hc)

/-- The bytes of a text end in a carriage return only if the text does. -/
lemma append_of_getLast?_encode {text : String}
    (h : (encode text).getLast? = some Line.carriageReturn) :
    ∃ front : String, text = front ++ "\r" ∧ encode text = encode front ++ [Line.carriageReturn] := by
  obtain hnil | ⟨front, c, htext⟩ := List.eq_nil_or_concat text.toList
  · rw [encode, hnil] at h
    cases h
  · rw [List.concat_eq_append] at htext
    have hencode : encode text = encode (String.ofList front) ++ String.utf8EncodeChar c := by
      simp [encode, htext]
    have hne : String.utf8EncodeChar c ≠ [] := by
      rw [← List.length_pos_iff, String.length_utf8EncodeChar]
      exact c.utf8Size_pos
    rw [hencode, List.getLast?_append, List.getLast?_eq_some_getLast hne, Option.some_or] at h
    have hmem : Line.carriageReturn ∈ String.utf8EncodeChar c := Option.some.inj h ▸ List.getLast_mem hne
    have hcode : c.toNat = '\r'.toNat := toNat_of_mem_encodeChar hmem (by decide)
    obtain rfl := Char.toNat_inj.mp hcode
    refine ⟨String.ofList front, ?_, hencode⟩
    rw [← String.toList_inj, htext, String.toList_append, String.toList_ofList]
    rfl

end Utf8

namespace Line

/-- A text without a newline that stands on a line of its own is read back, but for a carriage return at its
end. -/
lemma text_cut_encode {text : String} (h : '\n' ∉ text.toList) {rest : List UInt8}
    (hrest : ∀ b ∈ rest.head?, b = newline) :
    let line := Line.text (cut (Utf8.encode text ++ rest)).1
    line = text ∨ text = line ++ "\r" := by
  intro line
  have hnot := Utf8.newline_notMem_encode h
  cases rest with
  | nil =>
    have hlast : (Utf8.encode text).getLast? ≠ some newline := fun hl => hnot (List.mem_of_getLast? hl)
    refine .inl ?_
    simp only [line, List.append_nil, cut_of_not_mem hnot, Line.text, chop, if_neg hlast, Utf8.decode_encode]
  | cons b rest =>
    obtain rfl := hrest b rfl
    have hline : line = Utf8.decode (if (Utf8.encode text).getLast? = some carriageReturn then
        (Utf8.encode text).dropLast else Utf8.encode text) := by
      simp [line, cut_append_of_not_mem hnot, cut_cons, Line.text, chop]
    by_cases hlast : (Utf8.encode text).getLast? = some carriageReturn
    · obtain ⟨front, htext, hencode⟩ := Utf8.append_of_getLast?_encode hlast
      refine .inr ?_
      rw [hline, if_pos hlast, hencode, List.dropLast_concat, Utf8.decode_encode, htext]
    · refine .inl ?_
      rw [hline, if_neg hlast, Utf8.decode_encode]

/-- What is left of such a text when the blanks at its ends are trimmed away is left of the line. -/
lemma trims_cut_encode {text : String} (h : '\n' ∉ text.toList) {rest : List UInt8}
    (hrest : ∀ b ∈ rest.head?, b = newline) {s : List Char}
    (htrims : Text.Trims Text.isBlank text.toList s) :
    Text.Trims Text.isBlank (Line.text (cut (Utf8.encode text ++ rest)).1).toList s := by
  obtain hline | hline := text_cut_encode h hrest
  · rwa [hline]
  · rw [hline, String.toList_append] at htrims
    exact htrims.of_append rfl

end Line

end Hostcall
