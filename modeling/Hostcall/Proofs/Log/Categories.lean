import Hostcall.Log
import Hostcall.Proofs.Text.Ends
import Hostcall.Proofs.Text.Pieces

/-!
# Which kinds are traced

A list of tokens stands for the kinds that one of its tokens names (`contains_ofList`), whatever the order,
the number and the case of the tokens and whatever else is in the list. A set of kinds is also a word with a
bit for each kind; joining lists joins their words (`mask_ofList_append`). An environment asks for a kind in
its list, or by the switch of that kind (`contains_ofEnvironment`).
-/

namespace Hostcall

/-- The tokens that name one kind alone. -/
def TraceKind.words : TraceKind → List String
  | .syscall => ["syscall", "sc"]
  | .channel => ["channel", "io"]
  | .coalesce => ["coalesce", "flush"]

/-- The variable that asks for one kind alone. -/
def TraceKind.switch : TraceKind → String
  | .syscall => "SIMIO_TRACE_SYSCALL"
  | .channel => "SIMIO_TRACE_CHANNEL"
  | .coalesce => "SIMIO_TRACE_COALESCE"

/-- The bit that stands for a kind. -/
def TraceKind.bit : TraceKind → Nat
  | .syscall => 0
  | .channel => 1
  | .coalesce => 2

/-- No two kinds have one bit. -/
lemma TraceKind.eq_of_bit {j k : TraceKind} : j.bit = k.bit → j = k := by
  cases j <;> cases k <;> decide

namespace TraceSet

/-- A set of kinds as a word. -/
def mask (s : TraceSet) : BitVec 32 :=
  let word (k : TraceKind) : BitVec 32 := if s.contains k then .twoPow 32 k.bit else 0
  word .syscall ||| word .channel ||| word .coalesce

/-- Some token of a list is a word, but for the case of its letters. -/
def Mentions (list word : String) : Prop :=
  ∃ token, Text.IsPiece isSeparator list.toList token ∧
    token.map Char.toLower = word.toList.map Char.toLower

instance (list word : String) : Decidable (Mentions list word) :=
  decidable_of_iff (∃ token ∈ Text.split isSeparator list.toList,
      token.map Char.toLower = word.toList.map Char.toLower) <| by
    simp only [Mentions, Text.mem_split_iff]

variable {s t : TraceSet} {k : TraceKind}

/-! ## Sets and words -/

/-- Sets of the same kinds are the same. -/
lemma ext_contains (h : ∀ k, s.contains k = t.contains k) : s = t := by
  obtain ⟨a, b, c⟩ := s
  obtain ⟨x, y, z⟩ := t
  obtain rfl : a = x := h .syscall
  obtain rfl : b = y := h .channel
  obtain rfl : c = z := h .coalesce
  rfl

/-- The empty set has no kind. -/
@[simp] lemma contains_none (k : TraceKind) : none.contains k = false := by
  cases k <;> rfl

/-- A union has the kinds of both sets. -/
@[simp] lemma contains_union (s t : TraceSet) (k : TraceKind) :
    (s.union t).contains k = (s.contains k || t.contains k) := by
  cases k <;> rfl

/-- The bits of a word are those of the kinds in the set. -/
lemma getLsbD_mask (s : TraceSet) (i : Nat) :
    s.mask.getLsbD i = true ↔ ∃ k : TraceKind, k.bit = i ∧ s.contains k = true := by
  have hword (k : TraceKind) :
      (if s.contains k then BitVec.twoPow 32 k.bit else 0#32).getLsbD i = true ↔
        k.bit = i ∧ s.contains k = true := by
    have hbit : k.bit < 32 := by cases k <;> decide
    cases s.contains k <;> simp [hbit]
  simp only [mask, BitVec.getLsbD_or, Bool.or_eq_true]
  constructor
  · rintro ((h | h) | h)
    · exact ⟨_, (hword _).mp h⟩
    · exact ⟨_, (hword _).mp h⟩
    · exact ⟨_, (hword _).mp h⟩
  · rintro ⟨k, hk⟩
    cases k with
    | syscall => exact .inl (.inl ((hword _).mpr hk))
    | channel => exact .inl (.inr ((hword _).mpr hk))
    | coalesce => exact .inr ((hword _).mpr hk)

/-- A mask has the bits of the kinds of its set. -/
lemma getLsbD_mask_bit (s : TraceSet) (k : TraceKind) : s.mask.getLsbD k.bit = s.contains k := by
  rw [Bool.eq_iff_iff, getLsbD_mask]
  constructor
  · rintro ⟨j, hj, h⟩
    rwa [← TraceKind.eq_of_bit hj]
  · exact fun h => ⟨k, rfl, h⟩

/-- The word of a union has the bits of both. -/
lemma mask_union (s t : TraceSet) : (s.union t).mask = s.mask ||| t.mask := by
  apply BitVec.eq_of_getLsbD_eq
  intro i _
  rw [Bool.eq_iff_iff, BitVec.getLsbD_or, Bool.or_eq_true]
  simp only [getLsbD_mask, contains_union, Bool.or_eq_true]
  constructor
  · rintro ⟨k, hk, h | h⟩
    · exact .inl ⟨k, hk, h⟩
    · exact .inr ⟨k, hk, h⟩
  · rintro (⟨k, hk, h⟩ | ⟨k, hk, h⟩)
    · exact ⟨k, hk, .inl h⟩
    · exact ⟨k, hk, .inr h⟩

/-! ## Lists of tokens -/

/-- A token names a kind if it is one of its words, or the word for all of them, in upper or lower case. -/
lemma contains_ofToken (token : List Char) (k : TraceKind) :
    (ofToken token).contains k = true ↔
      ∃ word ∈ "all" :: k.words, token.map Char.toLower = word.toList.map Char.toLower := by
  have hlower : ∀ word ∈ "all" :: k.words, word.toList.map Char.toLower = word.toList := by
    cases k <;> decide
  have hname (name : List Char) : (∃ word ∈ "all" :: k.words, name = word.toList.map Char.toLower) ↔
      String.ofList name ∈ "all" :: k.words := by
    constructor
    · rintro ⟨word, hword, rfl⟩
      rwa [hlower word hword, String.ofList_toList]
    · intro hmem
      exact ⟨_, hmem, by rw [hlower _ hmem, String.toList_ofList]⟩
  rw [hname, ofToken]
  generalize String.ofList (token.map Char.toLower) = name
  cases k <;> simp only [TraceKind.words] <;> grind [contains, all, none]

/-- What several tokens name together is what one of them names. -/
lemma contains_foldr (tokens : List (List Char)) (k : TraceKind) :
    (tokens.foldr (fun token s => (ofToken token).union s) none).contains k = true ↔
      ∃ token ∈ tokens, (ofToken token).contains k = true := by
  induction tokens with
  | nil => simp
  | cons token tokens ih => simp [ih]

/-- A list asks for a kind exactly if one of its tokens is a word for it. -/
lemma contains_ofList (list : String) (k : TraceKind) :
    (ofList list).contains k = true ↔ ∃ word ∈ "all" :: k.words, Mentions list word := by
  rw [ofList, contains_foldr]
  simp only [contains_ofToken, Mentions, Text.mem_split_iff]
  constructor
  · rintro ⟨token, hpiece, word, hword, hsame⟩
    exact ⟨word, hword, token, hpiece, hsame⟩
  · rintro ⟨word, hword, token, hpiece, hsame⟩
    exact ⟨token, hpiece, word, hword, hsame⟩

/-- A separator between two lists joins what they stand for. -/
lemma mask_ofList_append (a b : String) {c : Char} (hc : isSeparator c = true) :
    (ofList (a ++ String.singleton c ++ b)).mask = (ofList a).mask ||| (ofList b).mask := by
  rw [← mask_union]
  congr 1
  apply ext_contains
  intro k
  have hsplit : Text.split isSeparator (a ++ String.singleton c ++ b).toList =
      Text.split isSeparator a.toList ++ Text.split isSeparator b.toList := by
    rw [← Text.split_append hc]
    simp
  rw [Bool.eq_iff_iff, contains_union, Bool.or_eq_true]
  simp only [ofList, contains_foldr, hsplit, List.mem_append, or_and_right, exists_or]

/-! ## Environments -/

/-- A switch is on unless its text, without the blanks around it, is a word for no or nothing at all. -/
lemma isOn_iff (text : String) :
    isOn text = true ↔ ∃ word, Text.Trims Text.isBlank text.toList word ∧
      String.ofList (word.map Char.toLower) ∉ ["", "0", "false", "no", "off"] := by
  have htrim : (Text.trim text).toList = Text.trimWhere Text.isBlank text.toList := by
    rw [Text.trim, String.toList_ofList]
  have hon : isOn text = true ↔
      String.ofList ((Text.trimWhere Text.isBlank text.toList).map Char.toLower) ∉
        ["", "0", "false", "no", "off"] := by
    simp [isOn, htrim, and_assoc]
  rw [hon]
  constructor
  · intro h
    exact ⟨_, Text.trims_trimWhere Text.isBlank text.toList, h⟩
  · rintro ⟨word, htrims, h⟩
    rwa [← htrims.eq_trimWhere]

/-- An environment asks for a kind in its list of tokens, or by the switch of the kind. -/
lemma contains_ofEnvironment (env : Environment) (k : TraceKind) :
    (ofEnvironment env).contains k = true ↔
      (∃ list, env.lookup "SIMIO_TRACE" = some list ∧ (ofList list).contains k = true) ∨
        ∃ text, env.lookup k.switch = some text ∧ isOn text = true := by
  rw [ofEnvironment, contains_union, Bool.or_eq_true]
  refine or_congr ?_ ?_
  · cases env.lookup "SIMIO_TRACE" <;> simp
  · have hswitch : (env.lookup k.switch).any isOn = true ↔
        ∃ text, env.lookup k.switch = some text ∧ isOn text = true := by
      cases env.lookup k.switch <;> simp
    cases k <;> exact hswitch

/-- A list of tokens is a set of words.

Joining two lists by a separator gives the bits of both. The bit of a kind is set exactly if some token is a
word for that kind or for all of them, in upper or lower case, and no other bit is ever set. So lists that
mention the same of these words set the same bits, in whatever order and however often they mention them, and
whatever else they hold. In an environment a kind is traced exactly if the list mentions it or its own switch
has a text that, trimmed and in lower case, is no word for no. -/
theorem list_is_set :
    (∀ (a b : String) (c : Char), isSeparator c = true →
      (ofList (a ++ String.singleton c ++ b)).mask = (ofList a).mask ||| (ofList b).mask) ∧
    (∀ (list : String) (i : Nat), (ofList list).mask.getLsbD i = true ↔
      ∃ k : TraceKind, k.bit = i ∧ ∃ word ∈ "all" :: k.words, Mentions list word) ∧
    (∀ a b : String, (∀ k : TraceKind, ∀ word ∈ "all" :: k.words, Mentions a word ↔ Mentions b word) →
      (ofList a).mask = (ofList b).mask) ∧
    ∀ (env : Environment) (k : TraceKind), (ofEnvironment env).contains k = true ↔
      (∃ list, env.lookup "SIMIO_TRACE" = some list ∧ (ofList list).mask.getLsbD k.bit = true) ∨
        ∃ text word, env.lookup k.switch = some text ∧ Text.Trims Text.isBlank text.toList word ∧
          String.ofList (word.map Char.toLower) ∉ ["", "0", "false", "no", "off"] := by
  have hbits (list : String) (i : Nat) : (ofList list).mask.getLsbD i = true ↔
      ∃ k : TraceKind, k.bit = i ∧ ∃ word ∈ "all" :: k.words, Mentions list word := by
    simp only [getLsbD_mask, contains_ofList]
  refine ⟨fun a b c hc => mask_ofList_append a b hc, hbits, fun a b hsame => ?_, fun env k => ?_⟩
  · congr 1
    apply ext_contains
    intro k
    rw [Bool.eq_iff_iff, contains_ofList, contains_ofList]
    exact exists_congr fun word => and_congr_right (hsame k word)
  · simp only [contains_ofEnvironment, isOn_iff, getLsbD_mask_bit]
    refine or_congr Iff.rfl ⟨?_, ?_⟩
    · rintro ⟨text, hlookup, word, hword⟩
      exact ⟨text, word, hlookup, hword⟩
    · rintro ⟨text, word, hlookup, hword⟩
      exact ⟨text, hlookup, word, hword⟩

/-- Two lists with a wide blank between them, and two that mention the same words. -/
theorem list_is_set_mixed :
    let c := Char.ofNat 0x2003
    isSeparator c = true ∧
      (ofList ("SC,,Io" ++ String.singleton c ++ "flush;other")).mask =
        (ofList "SC,,Io").mask ||| (ofList "flush;other").mask ∧
      (∀ k : TraceKind, ∀ word ∈ "all" :: k.words,
        Mentions "io SC; sc" word ↔ Mentions "sc,all-of-it,IO" word) ∧
      (ofList "io SC; sc").mask = (ofList "sc,all-of-it,IO").mask := by
  intro c
  obtain ⟨happend, -, hsame, -⟩ := list_is_set
  have hc : isSeparator c = true := by decide
  have hwords : ∀ k : TraceKind, ∀ word ∈ "all" :: k.words,
      Mentions "io SC; sc" word ↔ Mentions "sc,all-of-it,IO" word := by
    intro k
    cases k <;> decide +kernel
  exact ⟨hc, happend _ _ c hc, hwords, hsame _ _ hwords⟩

end TraceSet

end Hostcall
